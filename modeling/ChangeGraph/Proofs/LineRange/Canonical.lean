import ChangeGraph.Proofs.LineRange.Separated
import ChangeGraph.Source.Symbols
import Mathlib.Data.List.Pairwise
import Mathlib.Data.List.Sort
import Mathlib.Tactic.Common

/-!
# Merged ranges as a canonical form

The ranges of a separated list are the longest runs of covered lines. So a separated list is known by the lines that it
covers, and merging gives one list to all lists that cover the same lines.
-/

namespace ChangeGraph

namespace LineRange

/-! ### Longest runs -/

/-- All lines of the range have the property, and the lines right before and right after it do not. -/
structure IsRun (p : Int → Prop) (r : LineRange) : Prop where
  inside : ∀ line ∈ r, p line
  before : ¬p (r.first - 1)
  after : ¬p (r.last + 1)

theorem isRun_congr {p q : Int → Prop} (h : ∀ line, p line ↔ q line) {r : LineRange} : IsRun p r ↔ IsRun q r := by
  have hpq : p = q := funext fun line => propext (h line)
  rw [hpq]

theorem Separated.apart {rs : List LineRange} (h : Separated rs) {r s : LineRange} (hr : r ∈ rs) (hs : s ∈ rs) :
    r = s ∨ r.last + 2 ≤ s.first ∨ s.last + 2 ≤ r.first := by
  have hsymm : Std.Symm fun r s : LineRange => r.last + 2 ≤ s.first ∨ s.last + 2 ≤ r.first := ⟨fun _ _ => Or.symm⟩
  have hpairs : rs.Pairwise fun r s => r.last + 2 ≤ s.first ∨ s.last + 2 ≤ r.first := h.imp .inl
  by_cases heq : r = s
  · exact .inl heq
  · exact .inr (hpairs.forall hr hs heq)

theorem Separated.isRun_of_mem {rs : List LineRange} (h : Separated rs) {r : LineRange} (hr : r ∈ rs) :
    IsRun (Covers rs) r where
  inside line hline := ⟨r, hr, hline⟩
  before := by
    rintro ⟨s, hs, hline⟩
    have hordered := r.ordered
    rw [mem_def] at hline
    rcases h.apart hr hs with rfl | hlt | hgt <;> omega
  after := by
    rintro ⟨s, hs, hline⟩
    have hordered := r.ordered
    rw [mem_def] at hline
    rcases h.apart hr hs with rfl | hlt | hgt <;> omega

/-- The range that covers the first line of a run begins there, or it would cover the line before, and ends with the run:
it does not cover the line after, and a line of the run beyond its end would have to be in a range too close to it. -/
theorem Separated.mem_of_isRun {rs : List LineRange} (h : Separated rs) {r : LineRange} (hrun : IsRun (Covers rs) r) :
    r ∈ rs := by
  have hordered := r.ordered
  obtain ⟨s, hs, hfirst⟩ := hrun.inside r.first (mem_def.mpr ⟨Int.le_refl _, hordered⟩)
  rw [mem_def] at hfirst
  have hbegin : s.first = r.first := by
    by_contra hne
    exact hrun.before ⟨s, hs, mem_def.mpr (by omega)⟩
  have hnotafter : s.last ≤ r.last := by
    by_contra hlt
    exact hrun.after ⟨s, hs, mem_def.mpr (by omega)⟩
  have hend : s.last = r.last := by
    by_contra hne
    obtain ⟨t, ht, hnext⟩ := hrun.inside (s.last + 1) (mem_def.mpr (by omega))
    rw [mem_def] at hnext
    rcases h.apart hs ht with rfl | hlt | hgt <;> omega
  have heq : s = r := by
    cases s
    cases r
    subst hbegin hend
    rfl
  exact heq ▸ hs

theorem Separated.mem_iff_isRun {rs : List LineRange} (h : Separated rs) {r : LineRange} :
    r ∈ rs ↔ IsRun (Covers rs) r :=
  ⟨h.isRun_of_mem, h.mem_of_isRun⟩

/-! ### One list for the same lines -/

/-- A separated list is known by the lines that it covers. -/
theorem Separated.eq_of_covers {as bs : List LineRange} (ha : Separated as) (hb : Separated bs)
    (h : ∀ line, Covers as line ↔ Covers bs line) : as = bs := by
  have hirrefl : Std.Irrefl fun a b : LineRange => a.last + 2 ≤ b.first := by
    refine ⟨fun a hlt => ?_⟩
    have hordered := a.ordered
    omega
  have hanti : Std.Antisymm fun a b : LineRange => a.last + 2 ≤ b.first := by
    refine ⟨fun a b hab hba => ?_⟩
    have haordered := a.ordered
    have hbordered := b.ordered
    omega
  refine ha.eq_of_mem_iff hb fun r => ?_
  rw [ha.mem_iff_isRun, hb.mem_iff_isRun, isRun_congr h]

theorem merge_eq_merge_iff {as bs : List LineRange} :
    merge as = merge bs ↔ ∀ line, Covers as line ↔ Covers bs line := by
  constructor
  · intro h line
    have hleft : Covers (merge as) line ↔ Covers as line := covers_merge
    have hright : Covers (merge bs) line ↔ Covers bs line := covers_merge
    rw [← hleft, h, hright]
  · intro h
    refine (separated_merge as).eq_of_covers (separated_merge bs) fun line => ?_
    rw [covers_merge, covers_merge, h line]

/-! ### Ranges that meet the same lines -/

theorem meetsAny_congr {as bs : List LineRange} (h : ∀ line, Covers as line ↔ Covers bs line) (r : LineRange) :
    r.meetsAny as = r.meetsAny bs := by
  rw [Bool.eq_iff_iff, meetsAny_iff, meetsAny_iff]
  simp only [h]

end LineRange

/-- Which symbols of a file are marked as changed depends on the changed lines alone. -/
theorem symbolsOf_congr {as bs : List LineRange} (h : ∀ line, LineRange.Covers as line ↔ LineRange.Covers bs line)
    (file : SourceFile) (budget : Int) : symbolsOf file as budget = symbolsOf file bs budget := by
  have hsymbol : Sighting.symbol file as budget = Sighting.symbol file bs budget := by
    funext s r
    simp only [Sighting.symbol, LineRange.meetsAny_congr h r]
  simp only [symbolsOf, hsymbol]

namespace LineRange

/-- Merging is a canonical form of lists of ranges. Two lists have one merged form if and only if they cover the same
lines. It covers the lines of the list, with ranges that begin two lines after the end of the one before at the earliest.
A range meets it as it meets the list, and a file has the same symbols with the same marks under both. -/
theorem merge_canonical (as bs : List LineRange) :
    (merge as = merge bs ↔ ∀ line, Covers as line ↔ Covers bs line) ∧
    (∀ line, Covers (merge as) line ↔ Covers as line) ∧
    (∀ r ∈ merge as, r.first ≤ r.last) ∧ Separated (merge as) ∧
    (∀ r : LineRange, r.meetsAny (merge as) = r.meetsAny as) ∧
    ∀ (file : SourceFile) (budget : Int), symbolsOf file (merge as) budget = symbolsOf file as budget := by
  have hcovers : ∀ line, Covers (merge as) line ↔ Covers as line := fun line => covers_merge
  exact ⟨merge_eq_merge_iff, hcovers, fun r _ => r.ordered, separated_merge as, meetsAny_congr hcovers,
    symbolsOf_congr hcovers⟩

end LineRange

end ChangeGraph
