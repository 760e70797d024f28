import ChangeGraph.Proofs.Text.Cutting
import ChangeGraph.Proofs.Text.Digits
import Mathlib.Data.List.Induction

/-!
# The texts that are integers

A text is read as an integer if it is one by the rules of writing: blanks, perhaps a sign, digits of any scripts with
single underscores between them, and blanks again. The reader takes these texts and no others, and gives the number that
the digits stand for. Such a number never has too many digits to be shown, and it is read as it is shown.
-/

namespace ChangeGraph.Text

/-! ### Digits -/

/-- The character is the digit of a value in some script. -/
def WritesDigit (c : Char) (d : Nat) : Prop := d < 10 ∧ ∃ z ∈ zeros, c.toNat = z + d

theorem zeros_sorted : zeros.Pairwise (· + 10 ≤ ·) := by decide +kernel

/-- The digits of the scripts in front of a zero end before it. -/
theorem find?_zeros {n z : Nat} (hz : z ∈ zeros) (hlow : z ≤ n) (hhigh : n < z + 10) :
    (zeros.find? fun y => y ≤ n && n < y + 10) = some z := by
  obtain ⟨before, after, hzeros⟩ := List.append_of_mem hz
  have hsorted := zeros_sorted
  rw [hzeros] at hsorted
  have hbefore : ∀ y ∈ before, y + 10 ≤ z := fun y hy =>
    (List.pairwise_append.mp hsorted).2.2 y hy z List.mem_cons_self
  refine List.find?_eq_some_iff_append.mpr ⟨?_, before, after, hzeros, fun y hy => ?_⟩
  · rw [Bool.and_eq_true, decide_eq_true_eq, decide_eq_true_eq]
    exact ⟨hlow, hhigh⟩
  · have hend := hbefore y hy
    rw [Bool.not_eq_true', Bool.and_eq_false_iff, decide_eq_false_iff_not, decide_eq_false_iff_not]
    omega

theorem digit?_eq_some_iff {c : Char} {d : Nat} : digit? c = some d ↔ WritesDigit c d := by
  constructor
  · intro h
    obtain ⟨z, hfind, rfl⟩ := Option.map_eq_some_iff.mp h
    have hbounds := List.find?_some hfind
    simp only [Bool.and_eq_true, decide_eq_true_eq] at hbounds
    exact ⟨by omega, z, List.mem_of_find?_eq_some hfind, by omega⟩
  · rintro ⟨hd, z, hz, hc⟩
    rw [digit?, find?_zeros hz (by omega) (by omega), Option.map_some, hc, Nat.add_sub_cancel_left]

theorem WritesDigit.not_blank {c : Char} {d : Nat} (h : WritesDigit c d) : isNumberBlank c = false := by
  have hall : ∀ z ∈ zeros, ∀ d < 10, isNumberBlank (Char.ofNat (z + d)) = false := by decide +kernel
  obtain ⟨hd, z, hz, hc⟩ := h
  rw [← Char.ofNat_toNat c, hc]
  exact hall z hz d hd

theorem WritesDigit.ne {c e : Char} {d : Nat} (h : WritesDigit c d) (he : digit? e = none) : c ≠ e := by
  rintro rfl
  rw [digit?_eq_some_iff.mpr h] at he
  cases he

/-! ### Rows of digits -/

/-- The text is a row of digits with the given values, and an underscore may stand between two digits. -/
inductive WritesDigits : List Char → List Nat → Prop where
  | last {c : Char} {d : Nat} : WritesDigit c d → WritesDigits [c] [d]
  | next {c : Char} {d : Nat} {cs : List Char} {ds : List Nat} :
      WritesDigit c d → WritesDigits cs ds → WritesDigits (c :: cs) (d :: ds)
  | underscore {c : Char} {d : Nat} {cs : List Char} {ds : List Nat} :
      WritesDigit c d → WritesDigits cs ds → WritesDigits (c :: '_' :: cs) (d :: ds)

namespace WritesDigits

variable {cs : List Char} {ds : List Nat}

theorem exists_head (h : WritesDigits cs ds) : ∃ c d rest, cs = c :: rest ∧ WritesDigit c d := by
  cases h with
  | last hc => exact ⟨_, _, _, rfl, hc⟩
  | next hc _ => exact ⟨_, _, _, rfl, hc⟩
  | underscore hc _ => exact ⟨_, _, _, rfl, hc⟩

theorem not_blank (h : WritesDigits cs ds) : ∀ c ∈ cs, isNumberBlank c = false := by
  induction h with
  | last hc => exact List.forall_mem_singleton.mpr hc.not_blank
  | next hc _ ih => exact List.forall_mem_cons.mpr ⟨hc.not_blank, ih⟩
  | underscore hc _ ih =>
    exact List.forall_mem_cons.mpr ⟨hc.not_blank, List.forall_mem_cons.mpr ⟨by decide, ih⟩⟩

theorem lt_ten (h : WritesDigits cs ds) : ∀ d ∈ ds, d < 10 := by
  induction h with
  | last hc => exact List.forall_mem_singleton.mpr hc.1
  | next hc _ ih => exact List.forall_mem_cons.mpr ⟨hc.1, ih⟩
  | underscore hc _ ih => exact List.forall_mem_cons.mpr ⟨hc.1, ih⟩

end WritesDigits

theorem digitsOf?_eq_some_iff {cs : List Char} {ds : List Nat} : digitsOf? cs = some ds ↔ WritesDigits cs ds := by
  constructor
  · intro h
    fun_induction digitsOf? cs generalizing ds with
    | case1 => cases h
    | case2 c =>
      obtain ⟨d, hd, heq⟩ := Option.bind_eq_some_iff.mp h
      obtain rfl := Option.some.inj heq
      exact .last (digit?_eq_some_iff.mp hd)
    | case3 c rest ih =>
      obtain ⟨d, hd, hcons⟩ := Option.bind_eq_some_iff.mp h
      obtain ⟨es, hes, heq⟩ := Option.bind_eq_some_iff.mp hcons
      obtain rfl := Option.some.inj heq
      exact .underscore (digit?_eq_some_iff.mp hd) (ih hes)
    | case4 c rest _ _ ih =>
      obtain ⟨d, hd, hcons⟩ := Option.bind_eq_some_iff.mp h
      obtain ⟨es, hes, heq⟩ := Option.bind_eq_some_iff.mp hcons
      obtain rfl := Option.some.inj heq
      exact .next (digit?_eq_some_iff.mp hd) (ih hes)
  · intro h
    induction h with
    | last hc => simp [digitsOf?, digit?_eq_some_iff.mpr hc]
    | underscore hc _ ih => simp [digitsOf?, digit?_eq_some_iff.mpr hc, ih]
    | next hc hrest ih =>
      -- a row of digits begins with no underscore
      obtain ⟨e, _, rest, rfl, he⟩ := hrest.exists_head
      have hunderscore : e ≠ '_' := he.ne (by decide)
      rw [digitsOf?, digit?_eq_some_iff.mpr hc, ih]
      · rfl
      · simp
      · simp [hunderscore]

theorem readNatural?_eq_some_iff {cs : List Char} {n : Nat} :
    readNatural? cs = some n ↔ ∃ ds, WritesDigits cs ds ∧ ds.length ≤ digitLimit ∧ n = ofDigits ds := by
  simp only [readNatural?, Option.bind_eq_bind, Option.bind_eq_some_iff, digitsOf?_eq_some_iff]
  constructor
  · rintro ⟨ds, hds, hif⟩
    split_ifs at hif with hshort
    exact ⟨ds, hds, hshort, (Option.some.inj hif).symm⟩
  · rintro ⟨ds, hds, hshort, rfl⟩
    exact ⟨ds, hds, if_pos hshort⟩

/-! ### Integers -/

/-- What stands in front of the digits, and what the number is multiplied with. -/
inductive WritesSign : List Char → Int → Prop where
  | absent : WritesSign [] 1
  | plus : WritesSign ['+'] 1
  | minus : WritesSign ['-'] (-1)

/-- The text is an integer of at most `digitLimit` digits. -/
inductive WritesInteger : List Char → Int → Prop where
  | mk {front sign digits back : List Char} {factor : Int} {ds : List Nat} :
      (∀ c ∈ front, isNumberBlank c = true) → WritesSign sign factor → WritesDigits digits ds →
      ds.length ≤ digitLimit → (∀ c ∈ back, isNumberBlank c = true) →
      WritesInteger (front ++ (sign ++ digits) ++ back) (factor * ofDigits ds)

theorem WritesSign.not_blank {sign : List Char} {factor : Int} (h : WritesSign sign factor) :
    ∀ c ∈ sign, isNumberBlank c = false := by
  cases h with
  | absent => exact List.forall_mem_nil _
  | plus => exact List.forall_mem_singleton.mpr (by decide)
  | minus => exact List.forall_mem_singleton.mpr (by decide)

/-- A row of digits is read, and something is made of its number. -/
theorem map_readNatural?_eq_some_iff {cs : List Char} {f : Int → Int} {n : Int} :
    (readNatural? cs >>= fun m => pure (m : Int)).map f = some n ↔
      ∃ ds, WritesDigits cs ds ∧ ds.length ≤ digitLimit ∧ n = f (ofDigits ds) := by
  simp only [Option.map_eq_some_iff, Option.bind_eq_bind, Option.bind_eq_some_iff, readNatural?_eq_some_iff]
  constructor
  · rintro ⟨k, ⟨m, ⟨ds, hds, hshort, rfl⟩, hlift⟩, rfl⟩
    obtain rfl := Option.some.inj hlift
    exact ⟨ds, hds, hshort, rfl⟩
  · rintro ⟨ds, hds, hshort, rfl⟩
    exact ⟨_, ⟨_, ⟨ds, hds, hshort, rfl⟩, rfl⟩, rfl⟩

theorem writesInteger_of_readInteger? {s : String} {n : Int} (h : readInteger? s = some n) :
    WritesInteger s.toList n := by
  obtain ⟨front, back, htext, hfront, hback⟩ := exists_of_trimBoth isNumberBlank s.toList
  rw [readInteger?] at h
  generalize trimBoth isNumberBlank s.toList = core at h htext
  rw [htext]
  split at h
  next digits =>
    obtain ⟨ds, hds, hshort, rfl⟩ := map_readNatural?_eq_some_iff.mp h
    rw [← Int.neg_one_mul]
    exact .mk hfront .minus hds hshort hback
  next digits =>
    obtain ⟨ds, hds, hshort, rfl⟩ := map_readNatural?_eq_some_iff.mp h
    rw [← Int.one_mul (ofDigits ds)]
    exact .mk hfront .plus hds hshort hback
  next =>
    obtain ⟨ds, hds, hshort, rfl⟩ := map_readNatural?_eq_some_iff.mp h
    rw [← Int.one_mul (ofDigits ds), ← List.nil_append core]
    exact .mk hfront .absent hds hshort hback

theorem readInteger?_of_writesInteger {s : String} {n : Int} (h : WritesInteger s.toList n) :
    readInteger? s = some n := by
  generalize hcs : s.toList = cs at h
  cases h with
  | @mk front sign digits back factor ds hfront hsign hds hshort hback =>
    have hcore : ∀ c ∈ sign ++ digits, isNumberBlank c = false :=
      List.forall_mem_append.mpr ⟨hsign.not_blank, hds.not_blank⟩
    have htrim : trimBoth isNumberBlank s.toList = sign ++ digits := by
      rw [hcs]
      exact trimBoth_append hfront hcore hback
    rw [readInteger?, htrim]
    cases hsign with
    | plus => exact map_readNatural?_eq_some_iff.mpr ⟨ds, hds, hshort, Int.one_mul _⟩
    | minus => exact map_readNatural?_eq_some_iff.mpr ⟨ds, hds, hshort, Int.neg_one_mul _⟩
    | absent =>
      -- a row of digits begins with no sign
      obtain ⟨c, d, rest, rfl, hc⟩ := hds.exists_head
      have hminus : c ≠ '-' := hc.ne (by decide)
      have hplus : c ≠ '+' := hc.ne (by decide)
      split
      next heq => exact absurd (List.cons.inj heq).1 hminus
      next heq => exact absurd (List.cons.inj heq).1 hplus
      next => exact map_readNatural?_eq_some_iff.mpr ⟨ds, hds, hshort, Int.one_mul _⟩

/-- The texts that are read as a number are those that are it by the rules of writing. -/
theorem readInteger?_eq_some_iff {s : String} {n : Int} : readInteger? s = some n ↔ WritesInteger s.toList n :=
  ⟨writesInteger_of_readInteger?, readInteger?_of_writesInteger⟩

theorem readInteger?_ofList_eq_some_iff {cs : List Char} {n : Int} :
    readInteger? (String.ofList cs) = some n ↔ WritesInteger cs n := by
  rw [readInteger?_eq_some_iff, String.toList_ofList]

/-! ### Numbers of few digits -/

theorem ofDigits_concat (ds : List Nat) (d : Nat) : ofDigits (ds ++ [d]) = 10 * ofDigits ds + d := by
  simp [ofDigits]

theorem ofDigits_lt {ds : List Nat} (h : ∀ d ∈ ds, d < 10) : ofDigits ds < 10 ^ ds.length := by
  induction ds using List.reverseRecOn with
  | nil => simp [ofDigits]
  | append_singleton ds d ih =>
    obtain ⟨hds, hd⟩ := List.forall_mem_append.mp h
    have hlt := ih hds
    have hlast : d < 10 := hd d List.mem_cons_self
    rw [ofDigits_concat, List.length_append, List.length_singleton, Nat.pow_succ]
    omega

/-- A number has no more digits than a row of digits that stands for it. -/
theorem WritesDigits.length_toDigits_le {cs : List Char} {ds : List Nat} (h : WritesDigits cs ds) :
    (Nat.toDigits 10 (ofDigits ds)).length ≤ ds.length := by
  have hpos : 0 < ds.length := by cases h <;> exact Nat.succ_pos _
  rw [Nat.length_toDigits_le_iff (by decide) hpos]
  exact ofDigits_lt h.lt_ten

theorem WritesSign.natAbs {sign : List Char} {factor : Int} (h : WritesSign sign factor) : factor.natAbs = 1 := by
  cases h <;> rfl

theorem WritesInteger.length_toDigits {cs : List Char} {n : Int} (h : WritesInteger cs n) :
    (Nat.toDigits 10 n.natAbs).length ≤ digitLimit := by
  cases h with
  | @mk front sign digits back factor ds hfront hsign hds hshort hback =>
    have hvalue : (factor * ofDigits ds).natAbs = ofDigits ds := by
      rw [Int.natAbs_mul, hsign.natAbs, Nat.one_mul, Int.natAbs_natCast]
    rw [hvalue]
    exact Nat.le_trans hds.length_toDigits_le hshort

theorem length_toDigits_of_readInteger? {s : String} {n : Int} (h : readInteger? s = some n) :
    (Nat.toDigits 10 n.natAbs).length ≤ digitLimit :=
  (writesInteger_of_readInteger? h).length_toDigits

/-! ### Numbers as they are shown -/

theorem toList_toString_of_nonneg {n : Int} (hn : 0 ≤ n) : (toString n).toList = Nat.toDigits 10 n.natAbs := by
  rcases natAbs_cases n with ⟨htext, -⟩ | ⟨htext, hneg⟩
  · exact htext
  · have hzero : n = 0 := by omega
    rw [hzero]
    rfl

theorem writesDigits_toDigits (n : Nat) : WritesDigits (Nat.toDigits 10 n) (valuesOf n) :=
  digitsOf?_eq_some_iff.mp (digitsOf?_of_isDigit Nat.toDigits_ne_nil fun _ hc => isDigit_of_mem hc)

theorem length_toString_of_nonneg {n : Int} (hn : 0 ≤ n) :
    (toString n).length = (Nat.toDigits 10 n.natAbs).length := by
  rw [← String.length_toList, toList_toString_of_nonneg hn]

theorem length_toString_mono {m n : Int} (hm : 0 ≤ m) (h : m ≤ n) : (toString m).length ≤ (toString n).length := by
  have hpos : 0 < (Nat.toDigits 10 n.natAbs).length := List.length_pos_of_ne_nil Nat.toDigits_ne_nil
  rw [length_toString_of_nonneg hm, length_toString_of_nonneg (Int.le_trans hm h)]
  rw [Nat.length_toDigits_le_iff (by decide) hpos]
  have hlt : n.natAbs < 10 ^ (Nat.toDigits 10 n.natAbs).length :=
    (Nat.length_toDigits_le_iff (by decide) hpos).mp (Nat.le_refl _)
  omega

/-- A number is read as it is shown if and only if it does not have too many digits. -/
theorem readInteger?_toString_iff {n : Int} (hn : 0 ≤ n) :
    readInteger? (toString n) = some n ↔ (toString n).length ≤ digitLimit := by
  rw [length_toString_of_nonneg hn]
  constructor
  · exact length_toDigits_of_readInteger?
  · intro hshort
    rw [← length_valuesOf] at hshort
    have hwrites := WritesInteger.mk (List.forall_mem_nil _) .absent (writesDigits_toDigits n.natAbs) hshort
      (List.forall_mem_nil _)
    rw [List.nil_append, List.nil_append, List.append_nil, Int.one_mul, ofDigits_valuesOf, Int.natAbs_of_nonneg hn,
      ← toList_toString_of_nonneg hn] at hwrites
    exact readInteger?_of_writesInteger hwrites

end ChangeGraph.Text
