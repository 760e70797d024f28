import ChangeGraph.Proofs.LineRange.Cover

/-!
# Ranges that are apart

Merged ranges come in order, and between two of them lies at least one line that neither has.
-/

namespace ChangeGraph.LineRange

def Separated (rs : List LineRange) : Prop := rs.Pairwise fun a b => a.last + 2 ≤ b.first

instance (rs : List LineRange) : Decidable (Separated rs) := inferInstanceAs (Decidable (rs.Pairwise _))

/-- A joined range begins where one of the ranges begins, and none of them begins before the current one. -/
theorem first_le_of_mem_joinFrom {current : LineRange} {rs : List LineRange} (sorted : rs.Pairwise (·.first ≤ ·.first))
    (later : ∀ r ∈ rs, current.first ≤ r.first) {s : LineRange} (hs : s ∈ joinFrom current rs) :
    current.first ≤ s.first := by
  induction rs generalizing current with
  | nil =>
    rw [joinFrom, List.mem_singleton] at hs
    exact hs ▸ Int.le_refl _
  | cons r rs ih =>
    obtain ⟨hr, sorted⟩ := List.pairwise_cons.mp sorted
    have hc : current.first ≤ r.first := later r List.mem_cons_self
    rw [joinFrom] at hs
    split at hs
    · have hlater : ∀ s ∈ rs, (current.extend r).first ≤ s.first :=
        fun s hs => later s (List.mem_cons_of_mem _ hs)
      exact @ih (current.extend r) sorted hlater hs
    · rcases List.mem_cons.mp hs with rfl | hs
      · exact Int.le_refl _
      · exact Int.le_trans hc (ih sorted hr hs)

theorem separated_joinFrom {current : LineRange} {rs : List LineRange} (sorted : rs.Pairwise (·.first ≤ ·.first))
    (later : ∀ r ∈ rs, current.first ≤ r.first) : Separated (joinFrom current rs) := by
  induction rs generalizing current with
  | nil => exact List.pairwise_singleton _ _
  | cons r rs ih =>
    obtain ⟨hr, sorted⟩ := List.pairwise_cons.mp sorted
    rw [joinFrom]
    split
    · have hlater : ∀ s ∈ rs, (current.extend r).first ≤ s.first :=
        fun s hs => later s (List.mem_cons_of_mem _ hs)
      exact ih sorted hlater
    · next gap =>
      refine List.pairwise_cons.mpr ⟨fun s hs => ?_, ih sorted hr⟩
      have hs : r.first ≤ s.first := first_le_of_mem_joinFrom sorted hr hs
      omega

theorem separated_merge (rs : List LineRange) : Separated (merge rs) := by
  have sorted := firsts_sorted rs
  rw [merge]
  cases h : rs.mergeSort precedes with
  | nil => exact List.Pairwise.nil
  | cons r rest =>
    rw [h] at sorted
    obtain ⟨hr, sorted⟩ := List.pairwise_cons.mp sorted
    exact separated_joinFrom sorted hr

end ChangeGraph.LineRange
