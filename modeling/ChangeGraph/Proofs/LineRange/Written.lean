import ChangeGraph.LineRange.Reader
import ChangeGraph.Proofs.Text.Integers

/-!
# Ranges as they are written

A text stands for a range if it is one number, or two numbers around its first hyphen, and these are lines counted from
one in their order. A range is read back from its own text.
-/

namespace ChangeGraph.LineRange

open Text (WritesInteger)

/-- The text names a first and a last line: with one number both, with two the numbers before and after the first
hyphen. -/
inductive WritesLines : List Char → Int → Int → Prop where
  | one {cs : List Char} {line : Int} : '-' ∉ cs → WritesInteger cs line → WritesLines cs line line
  | span {front back : List Char} {first last : Int} :
      '-' ∉ front → WritesInteger front first → WritesInteger back last →
      WritesLines (front ++ '-' :: back) first last

/-! ### The first hyphen -/

theorem bne_hyphen {cs : List Char} (h : '-' ∉ cs) : ∀ c ∈ cs, (c != '-') = true := by
  intro c hc
  rw [bne_iff_ne]
  exact fun heq => h (heq ▸ hc)

theorem cutAtHyphen_of_notMem {s : String} (h : '-' ∉ s.toList) : cutAtHyphen s = (s, none) := by
  rw [cutAtHyphen, List.dropWhile_eq_nil_iff.mpr (bne_hyphen h)]

theorem cutAtHyphen_of_append {s : String} {front back : List Char} (htext : s.toList = front ++ '-' :: back)
    (h : '-' ∉ front) : cutAtHyphen s = (String.ofList front, some (String.ofList back)) := by
  have hdrop : ('-' :: back).dropWhile (· != '-') = '-' :: back := List.dropWhile_cons_of_neg (by decide)
  have htake : ('-' :: back).takeWhile (· != '-') = [] := List.takeWhile_cons_of_neg (by decide)
  rw [cutAtHyphen, htext, List.dropWhile_append_of_pos (bne_hyphen h), hdrop,
    List.takeWhile_append_of_pos (bne_hyphen h), htake, List.append_nil]

/-! ### The range of two numbers -/

/-- The range between two lines that are counted from one. -/
def counted? (first last : Int) : Option LineRange :=
  if first < 1 then none else if h : first ≤ last then some ⟨first, last, h⟩ else none

theorem counted?_eq_some_iff {first last : Int} {r : LineRange} :
    counted? first last = some r ↔ r.first = first ∧ r.last = last ∧ 1 ≤ first := by
  constructor
  · intro h
    rw [counted?] at h
    split_ifs at h with hlow hordered
    obtain rfl := Option.some.inj h
    exact ⟨rfl, rfl, by omega⟩
  · rintro ⟨rfl, rfl, hone⟩
    rw [counted?, if_neg (by omega), dif_pos r.ordered]

theorem read?_of_notMem {s : String} (h : '-' ∉ s.toList) :
    read? s = (Text.readInteger? s).bind fun line => counted? line line := by
  rw [read?, cutAtHyphen_of_notMem h]
  rfl

theorem read?_of_append {s : String} {front back : List Char} (htext : s.toList = front ++ '-' :: back)
    (h : '-' ∉ front) :
    read? s = (Text.readInteger? (String.ofList front)).bind fun first =>
      (Text.readInteger? (String.ofList back)).bind fun last => counted? first last := by
  rw [read?, cutAtHyphen_of_append htext h]
  rfl

theorem read?_eq_some_iff {s : String} {r : LineRange} :
    read? s = some r ↔ WritesLines s.toList r.first r.last ∧ 1 ≤ r.first := by
  constructor
  · intro h
    by_cases hyphen : '-' ∈ s.toList
    · obtain ⟨front, back, htext, absent⟩ := List.eq_append_cons_of_mem hyphen
      rw [read?_of_append htext absent] at h
      obtain ⟨first, hfirst, h⟩ := Option.bind_eq_some_iff.mp h
      obtain ⟨last, hlast, h⟩ := Option.bind_eq_some_iff.mp h
      obtain ⟨rfl, rfl, hone⟩ := counted?_eq_some_iff.mp h
      rw [Text.readInteger?_ofList_eq_some_iff] at hfirst hlast
      rw [htext]
      exact ⟨.span absent hfirst hlast, hone⟩
    · rw [read?_of_notMem hyphen] at h
      obtain ⟨line, hline, h⟩ := Option.bind_eq_some_iff.mp h
      obtain ⟨hfirst, hlast, hone⟩ := counted?_eq_some_iff.mp h
      rw [hfirst, hlast]
      exact ⟨.one hyphen (Text.readInteger?_eq_some_iff.mp hline), hone⟩
  · rintro ⟨h, hone⟩
    obtain ⟨first, last, ordered⟩ := r
    generalize hcs : s.toList = cs at h
    cases h with
    | one absent hline =>
      subst hcs
      rw [read?_of_notMem absent, Text.readInteger?_eq_some_iff.mpr hline, Option.bind_some]
      exact counted?_eq_some_iff.mpr ⟨rfl, rfl, hone⟩
    | span absent hfirst hlast =>
      rw [read?_of_append hcs absent, Text.readInteger?_ofList_eq_some_iff.mpr hfirst, Option.bind_some,
        Text.readInteger?_ofList_eq_some_iff.mpr hlast, Option.bind_some]
      exact counted?_eq_some_iff.mpr ⟨rfl, rfl, hone⟩

theorem read_eq_ok_iff {s : String} {r : LineRange} : read s = .ok r ↔ read? s = some r := by
  rw [read]
  cases read? s <;> simp

theorem read_ok_or_error (s : String) : (∃ r, read s = .ok r ∧ 1 ≤ r.first ∧ r.first ≤ r.last) ∨ read s = .error ⟨s⟩ := by
  cases h : read? s with
  | none =>
    right
    rw [read, h]
  | some r => exact .inl ⟨r, read_eq_ok_iff.mpr h, (read?_eq_some_iff.mp h).2, r.ordered⟩

/-! ### Ranges and lines as they are shown -/

theorem notMem_toString {n : Int} (hn : 0 ≤ n) : '-' ∉ (toString n).toList := by
  rw [Text.toList_toString_of_nonneg hn]
  intro hmem
  exact absurd (Text.isDigit_of_mem hmem) (by decide)

theorem toList_text (r : LineRange) : r.text.toList = (toString r.first).toList ++ '-' :: (toString r.last).toList := by
  have htext : r.text = toString r.first ++ "-" ++ toString r.last := rfl
  have hhyphen : "-".toList = ['-'] := rfl
  rw [htext, String.toList_append, String.toList_append, hhyphen, List.append_assoc, List.singleton_append]

/-- The first line of a range has no more digits than the last, so only those of the last can be too many. -/
theorem read_text_iff {r : LineRange} (hr : 1 ≤ r.first) :
    read r.text = .ok r ↔ (toString r.last).length ≤ Text.digitLimit := by
  have hordered := r.ordered
  have hfirst : Text.readInteger? (toString r.first) = some r.first ↔ _ := Text.readInteger?_toString_iff (by omega)
  have hlast : Text.readInteger? (toString r.last) = some r.last ↔ _ := Text.readInteger?_toString_iff (by omega)
  rw [read_eq_ok_iff, read?_of_append (toList_text r) (notMem_toString (by omega)), String.ofList_toList,
    String.ofList_toList]
  constructor
  · intro h
    obtain ⟨first, -, h⟩ := Option.bind_eq_some_iff.mp h
    obtain ⟨last, hread, h⟩ := Option.bind_eq_some_iff.mp h
    obtain ⟨-, rfl, -⟩ := counted?_eq_some_iff.mp h
    exact hlast.mp hread
  · intro hshort
    have hfewer := Text.length_toString_mono (by omega) hordered
    rw [hfirst.mpr (Nat.le_trans hfewer hshort), Option.bind_some, hlast.mpr hshort, Option.bind_some]
    exact counted?_eq_some_iff.mpr ⟨rfl, rfl, hr⟩

theorem read_toString_iff {n : Int} (hn : 1 ≤ n) :
    read (toString n) = .ok (single n) ↔ (toString n).length ≤ Text.digitLimit := by
  have hline : Text.readInteger? (toString n) = some n ↔ _ := Text.readInteger?_toString_iff (by omega)
  rw [read_eq_ok_iff, read?_of_notMem (notMem_toString (by omega))]
  constructor
  · intro h
    obtain ⟨line, hread, h⟩ := Option.bind_eq_some_iff.mp h
    obtain ⟨rfl, -, -⟩ := counted?_eq_some_iff.mp h
    exact hline.mp hread
  · intro hshort
    rw [hline.mpr hshort, Option.bind_some]
    exact counted?_eq_some_iff.mpr ⟨rfl, rfl, hn⟩

/-- Ranges are read back from their texts and lines from their numbers, as long as these do not have too many digits.
Every text is read as a range of lines counted from one or is refused, and it is read as the lines that it names if and
only if they are counted from one and in order. -/
theorem read_inverts_text :
    (∀ r : LineRange, 1 ≤ r.first → (read r.text = .ok r ↔ (toString r.last).length ≤ Text.digitLimit)) ∧
    (∀ n : Int, 1 ≤ n → (read (toString n) = .ok (single n) ↔ (toString n).length ≤ Text.digitLimit)) ∧
    ∀ t : String, ((∃ r, read t = .ok r ∧ 1 ≤ r.first ∧ r.first ≤ r.last) ∨ read t = .error ⟨t⟩) ∧
      ∀ first last : Int, (∃ h, read t = .ok ⟨first, last, h⟩) ↔
        WritesLines t.toList first last ∧ 1 ≤ first ∧ first ≤ last := by
  refine ⟨fun r => read_text_iff, fun n => read_toString_iff, fun t => ⟨read_ok_or_error t, fun first last => ?_⟩⟩
  simp only [read_eq_ok_iff, read?_eq_some_iff]
  constructor
  · rintro ⟨h, hlines, hone⟩
    exact ⟨hlines, hone, h⟩
  · rintro ⟨hlines, hone, h⟩
    exact ⟨h, hlines, hone⟩

/-- The digits of the last line are wide ones, behind a sign. -/
theorem read_inverts_text_wide_digits :
    read "12-30" = .ok ⟨12, 30, by decide⟩ ∧ read "7" = .ok (single 7) ∧ WritesLines " 1_2-+３０ ".toList 12 30 := by
  obtain ⟨hrange, hline, htext⟩ := read_inverts_text
  have hread : read " 1_2-+３０ " = .ok ⟨12, 30, by decide⟩ := by rfl
  refine ⟨(hrange ⟨12, 30, by decide⟩ (by decide)).mpr (by decide), (hline 7 (by decide)).mpr (by decide), ?_⟩
  exact (((htext " 1_2-+３０ ").2 12 30).mp ⟨by decide, hread⟩).1

end ChangeGraph.LineRange
