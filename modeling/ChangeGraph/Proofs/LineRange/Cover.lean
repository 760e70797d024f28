import ChangeGraph.LineRange.Merge

/-!
# The lines that ranges cover

Merging changes the ranges of a list and keeps the lines that they cover. Whether a range meets one of several is a
question about covered lines, so it has one answer before and after merging.
-/

namespace ChangeGraph.LineRange

def Covers (rs : List LineRange) (line : Int) : Prop := ∃ r ∈ rs, line ∈ r

theorem mem_def {line : Int} {r : LineRange} : line ∈ r ↔ r.first ≤ line ∧ line ≤ r.last := Iff.rfl

@[simp] theorem not_covers_nil (line : Int) : ¬Covers [] line := by
  rintro ⟨r, hr, -⟩
  cases hr

@[simp] theorem covers_cons {r : LineRange} {rs : List LineRange} {line : Int} :
    Covers (r :: rs) line ↔ line ∈ r ∨ Covers rs line := by
  simp [Covers]

theorem covers_congr {rs rs' : List LineRange} (h : ∀ r, r ∈ rs ↔ r ∈ rs') (line : Int) :
    Covers rs line ↔ Covers rs' line := by
  simp [Covers, h]

theorem covers_flatMap {α : Type} {l : List α} {f : α → List LineRange} {line : Int} :
    Covers (l.flatMap f) line ↔ ∃ a ∈ l, Covers (f a) line := by
  constructor
  · rintro ⟨r, hr, hl⟩
    obtain ⟨a, ha, hr⟩ := List.mem_flatMap.mp hr
    exact ⟨a, ha, r, hr, hl⟩
  · rintro ⟨a, ha, r, hr, hl⟩
    exact ⟨r, List.mem_flatMap.mpr ⟨a, ha, hr⟩, hl⟩

theorem covers_filterMap {α : Type} {l : List α} {f : α → Option LineRange} {line : Int} :
    Covers (l.filterMap f) line ↔ ∃ a ∈ l, ∃ r, f a = some r ∧ line ∈ r := by
  constructor
  · rintro ⟨r, hr, hl⟩
    obtain ⟨a, ha, hr⟩ := List.mem_filterMap.mp hr
    exact ⟨a, ha, r, hr, hl⟩
  · rintro ⟨a, ha, r, hr, hl⟩
    exact ⟨r, List.mem_filterMap.mpr ⟨a, ha, hr⟩, hl⟩

/-! ### Ranges that meet -/

/-- The later of the two first lines is in both ranges. -/
theorem meets_iff {a b : LineRange} : a.meets b = true ↔ ∃ line, line ∈ a ∧ line ∈ b := by
  have ha := a.ordered
  have hb := b.ordered
  simp only [meets, Bool.and_eq_true, decide_eq_true_eq, mem_def]
  constructor
  · rintro ⟨h₁, h₂⟩
    exact ⟨max a.first b.first, by omega, by omega⟩
  · rintro ⟨line, h₁, h₂⟩
    omega

theorem meetsAny_iff {r : LineRange} {rs : List LineRange} :
    r.meetsAny rs = true ↔ ∃ line, line ∈ r ∧ Covers rs line := by
  simp only [meetsAny, List.any_eq_true, meets_iff]
  constructor
  · rintro ⟨s, hs, line, hr, hl⟩
    exact ⟨line, hr, s, hs, hl⟩
  · rintro ⟨line, hr, s, hs, hl⟩
    exact ⟨s, hs, line, hr, hl⟩

/-! ### Joining ranges in order -/

theorem precedes_trans (a b c : LineRange) (h₁ : precedes a b = true) (h₂ : precedes b c = true) :
    precedes a c = true := by
  simp only [precedes, Bool.or_eq_true, Bool.and_eq_true, decide_eq_true_eq, beq_iff_eq] at *
  omega

theorem precedes_total (a b : LineRange) : (precedes a b || precedes b a) = true := by
  simp only [precedes, Bool.or_eq_true, Bool.and_eq_true, decide_eq_true_eq, beq_iff_eq]
  omega

theorem first_le_of_precedes {a b : LineRange} (h : precedes a b = true) : a.first ≤ b.first := by
  simp only [precedes, Bool.or_eq_true, Bool.and_eq_true, decide_eq_true_eq, beq_iff_eq] at h
  omega

theorem mem_extend {a b : LineRange} (h : a.first ≤ b.first) (touch : b.first ≤ a.last + 1) {line : Int} :
    line ∈ a.extend b ↔ line ∈ a ∨ line ∈ b := by
  simp only [mem_def, extend]
  omega

/-- The ranges to come begin no earlier than the current one, so a range that joins it adds its own lines only. -/
theorem covers_joinFrom {current : LineRange} {rs : List LineRange} (sorted : rs.Pairwise (·.first ≤ ·.first))
    (later : ∀ r ∈ rs, current.first ≤ r.first) {line : Int} :
    Covers (joinFrom current rs) line ↔ line ∈ current ∨ Covers rs line := by
  induction rs generalizing current with
  | nil => simp [joinFrom]
  | cons r rs ih =>
    obtain ⟨hr, sorted⟩ := List.pairwise_cons.mp sorted
    have hc : current.first ≤ r.first := later r List.mem_cons_self
    simp only [joinFrom]
    split
    · next touch =>
      have hlater : ∀ s ∈ rs, (current.extend r).first ≤ s.first :=
        fun s hs => later s (List.mem_cons_of_mem _ hs)
      rw [ih sorted hlater, mem_extend hc touch, covers_cons, or_assoc]
    · rw [covers_cons, ih sorted hr, covers_cons]

theorem covers_join {rs : List LineRange} (sorted : rs.Pairwise (·.first ≤ ·.first)) {line : Int} :
    Covers (join rs) line ↔ Covers rs line := by
  cases rs with
  | nil => simp [join]
  | cons r rs =>
    obtain ⟨hr, sorted⟩ := List.pairwise_cons.mp sorted
    rw [join, covers_joinFrom sorted hr, covers_cons]

theorem firsts_sorted (rs : List LineRange) : (rs.mergeSort precedes).Pairwise (·.first ≤ ·.first) := by
  have h : (rs.mergeSort precedes).Pairwise (precedes · · = true) :=
    List.pairwise_mergeSort precedes_trans precedes_total rs
  exact h.imp first_le_of_precedes

@[simp] theorem merge_nil : merge [] = [] := by
  simp [merge, join]

theorem covers_merge {rs : List LineRange} {line : Int} : Covers (merge rs) line ↔ Covers rs line := by
  rw [merge, covers_join (firsts_sorted rs)]
  exact covers_congr (fun r => (List.mergeSort_perm rs precedes).mem_iff) line

end ChangeGraph.LineRange
