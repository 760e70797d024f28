import ChangeGraph.Proofs.LineRange.Cover
import ChangeGraph.Proofs.Text.Cutting
import ChangeGraph.Source.Snippet
import Mathlib.Data.Int.Order.Basic

/-!
# What a snippet shows

A snippet shows the lines of a range that exist, or the first and the last of them around a mark. The first line is
always shown, no line is shown twice, and a budget of one line or more leaves out at least one line where the mark
stands.
-/

namespace ChangeGraph

/-! ### The lines of a range -/

/-- The lines whose numbers, counted from one, are in a range. -/
def linesWithin (lines : List String) (r : LineRange) : List String :=
  ((lines.zipIdx 1).filter fun numbered => (numbered.2 : Int) ∈ r).map (·.1)

theorem filter_zipIdx (lines : List String) (r : LineRange) (i : Nat) :
    ((lines.zipIdx i).filter fun numbered => (numbered.2 : Int) ∈ r).map (·.1) =
      (lines.take (r.last + 1 - i).toNat).drop (r.first - i).toNat := by
  have hordered := r.ordered
  induction lines generalizing i with
  | nil => simp
  | cons line lines ih =>
    rw [List.zipIdx_cons, List.filter_cons]
    rcases lt_or_ge r.last i with hbeyond | hbefore
    · -- past the end of the range nothing is taken any more
      have hout : ¬(i : Int) ∈ r := by
        rw [LineRange.mem_def]
        omega
      have hzero : (r.last + 1 - i).toNat = 0 := by omega
      have hzero' : (r.last + 1 - (i + 1 : Nat)).toNat = 0 := by omega
      rw [if_neg (by simpa using hout), ih, hzero, hzero']
      simp
    have htake : (r.last + 1 - i).toNat = (r.last + 1 - (i + 1 : Nat)).toNat + 1 := by omega
    rcases lt_or_ge (i : Int) r.first with hearly | hlate
    · have hout : ¬(i : Int) ∈ r := by
        rw [LineRange.mem_def]
        omega
      have hdrop : (r.first - i).toNat = (r.first - (i + 1 : Nat)).toNat + 1 := by omega
      rw [if_neg (by simpa using hout), ih, htake, hdrop, List.take_succ_cons, List.drop_succ_cons]
    · have hin : (i : Int) ∈ r := LineRange.mem_def.mpr ⟨hlate, hbefore⟩
      have hdrop : (r.first - i).toNat = 0 := by omega
      have hdrop' : (r.first - (i + 1 : Nat)).toNat = 0 := by omega
      rw [if_pos (by simpa using hin), List.map_cons, ih, htake, hdrop, hdrop', List.take_succ_cons, List.drop_zero,
        List.drop_zero]

/-- A range that begins with the first line or later counts no line from the end. -/
theorem linesOf_eq_linesWithin (lines : List String) {r : LineRange} (hr : 1 ≤ r.first) :
    linesOf lines r = linesWithin lines r := by
  have hordered := r.ordered
  have hfirst : ¬max 0 (r.first - 1) < 0 := by omega
  have hlast : ¬min (lines.length : Int) r.last < 0 := by omega
  have hstart : (max 0 (r.first - 1)).toNat = (r.first - (1 : Nat)).toNat := by omega
  have hstop : (min (lines.length : Int) r.last).toNat = min (r.last + 1 - (1 : Nat)).toNat lines.length := by omega
  rw [linesWithin, filter_zipIdx, linesOf, slice]
  simp only [hfirst, hlast, if_false, hstart, hstop, List.take_eq_take_min.symm]

theorem mem_of_mem_linesWithin {lines : List String} {r : LineRange} {line : String} (h : line ∈ linesWithin lines r) :
    line ∈ lines := by
  obtain ⟨numbered, hmem, rfl⟩ := List.mem_map.mp h
  exact List.fst_mem_of_mem_zipIdx (List.mem_of_mem_filter hmem)

/-! ### Both ends of too many lines -/

/-- The first and the last of some lines, as a budget allows. -/
structure ShowsEnds (lines : List String) (budget : Nat) (front back : List String) : Prop where
  isFront : front <+: lines
  isBack : back <:+ lines
  apart : front.length + back.length ≤ lines.length
  front_ne_nil : front ≠ []
  length_back : back.length = budget / 2
  length_le : (front ++ truncationMark :: back).length ≤ max budget 1 + 1
  leavesOut : 1 ≤ budget → front.length + back.length < lines.length

theorem truncated_of_le {lines : List String} {budget : Nat} (h : lines.length ≤ budget) :
    truncated lines budget = lines := by
  rw [truncated, if_neg (by omega)]

theorem truncated_of_lt {lines : List String} {budget : Nat} (h : budget < lines.length) :
    truncated lines budget =
      lines.take (max (budget / 2) 1) ++ truncationMark :: lines.drop (lines.length - budget / 2) := by
  have hhalf : (budget : Int).fdiv 2 = (budget / 2 : Nat) := by
    rw [Int.fdiv_eq_ediv_of_nonneg _ (by omega)]
    omega
  have hfront : (max ((budget / 2 : Nat) : Int) 1).toNat = max (budget / 2) 1 := by omega
  have hback : ((lines.length : Int) - (budget / 2 : Nat)).toNat = lines.length - budget / 2 := by omega
  rw [truncated, if_pos (by omega)]
  simp only [hhalf, hfront, hback]

/-- Half of the budget goes to each end. The front has one line where that half is none, and then the back has none. -/
theorem showsEnds_of_lt {lines : List String} {budget : Nat} (h : budget < lines.length) :
    ShowsEnds lines budget (lines.take (max (budget / 2) 1)) (lines.drop (lines.length - budget / 2)) := by
  have hfront : (lines.take (max (budget / 2) 1)).length = max (budget / 2) 1 := by
    rw [List.length_take]
    omega
  have hback : (lines.drop (lines.length - budget / 2)).length = budget / 2 := by
    rw [List.length_drop]
    omega
  refine ⟨List.take_prefix _ _, List.drop_suffix _ _, ?_, ?_, hback, ?_, fun hone => ?_⟩
  · rw [hfront, hback]
    omega
  · apply List.ne_nil_of_length_pos
    rw [hfront]
    omega
  · rw [List.length_append, List.length_cons, hfront, hback]
    omega
  · rw [hfront, hback]
    omega

/-! ### Lines of a text -/

theorem Text.splitLines_intercalate {lines : List String} (hne : lines ≠ []) (h : ∀ line ∈ lines, '\n' ∉ line.toList) :
    Text.splitLines ("\n".intercalate lines) = lines := by
  induction lines with
  | nil => exact absurd rfl hne
  | cons line lines ih =>
    obtain ⟨hline, hlines⟩ := List.forall_mem_cons.mp h
    by_cases hlast : lines = []
    · rw [hlast, String.intercalate_singleton, Text.splitLines, Text.splitAtEach_of_notMem hline]
      simp
    · have hrest := ih hlast hlines
      rw [Text.splitLines] at hrest ⊢
      have htext : (line ++ "\n" ++ "\n".intercalate lines).toList =
          line.toList ++ '\n' :: ("\n".intercalate lines).toList := by simp
      rw [String.intercalate_cons_of_ne_nil hlast, htext, Text.splitAtEach_append_cons hline, List.map_cons, hrest,
        String.ofList_toList]

/-- The lines of a range that exist make a snippet if they are within the budget. Otherwise lines in front and lines at
the end make it, with the mark between them. If no line has a line feed in it, these are the lines of the text. -/
theorem snippet_showsEnds (lines : List String) (r : LineRange) (hr : 1 ≤ r.first) (budget : Nat) :
    ((linesWithin lines r).length ≤ budget → snippet lines r budget = "\n".intercalate (linesWithin lines r)) ∧
    (budget < (linesWithin lines r).length → ∃ front back,
      snippet lines r budget = "\n".intercalate (front ++ truncationMark :: back) ∧
      ShowsEnds (linesWithin lines r) budget front back ∧
      ((∀ line ∈ lines, '\n' ∉ line.toList) →
        Text.splitLines (snippet lines r budget) = front ++ truncationMark :: back)) := by
  rw [snippet, linesOf_eq_linesWithin lines hr]
  refine ⟨fun hle => by rw [truncated_of_le hle], fun hlt => ?_⟩
  rw [truncated_of_lt hlt]
  refine ⟨_, _, rfl, showsEnds_of_lt hlt, fun hlines => Text.splitLines_intercalate (by simp) fun line hline => ?_⟩
  rcases List.mem_append.mp hline with hfront | hline
  · exact hlines line (mem_of_mem_linesWithin (List.mem_of_mem_take hfront))
  rcases List.mem_cons.mp hline with rfl | hback
  · decide
  · exact hlines line (mem_of_mem_linesWithin (List.mem_of_mem_drop hback))

/-- A range from the second line past the end has four of five lines. A budget of four shows them all, one of three shows
a line at each end. -/
theorem snippet_showsEnds_odd_budget :
    let lines := ["a", "b", "c", "d", "e"]
    let r : LineRange := ⟨2, 9, by decide⟩
    linesWithin lines r = ["b", "c", "d", "e"] ∧ (∀ line ∈ lines, '\n' ∉ line.toList) ∧
    snippet lines r 4 = "b\nc\nd\ne" ∧
    ∃ front back, snippet lines r 3 = "\n".intercalate (front ++ truncationMark :: back) ∧
      ShowsEnds ["b", "c", "d", "e"] 3 front back ∧
      Text.splitLines (snippet lines r 3) = front ++ truncationMark :: back := by
  intro lines r
  have hwithin : linesWithin lines r = ["b", "c", "d", "e"] := by decide
  have hlines : ∀ line ∈ lines, '\n' ∉ line.toList := by decide
  obtain ⟨hall, -⟩ := snippet_showsEnds lines r (by decide) 4
  obtain ⟨-, hcut⟩ := snippet_showsEnds lines r (by decide) 3
  rw [hwithin] at hall hcut
  obtain ⟨front, back, hsnippet, hends, htext⟩ := hcut (by decide)
  exact ⟨hwithin, hlines, hall (by decide), front, back, hsnippet, hends, htext hlines⟩

end ChangeGraph
