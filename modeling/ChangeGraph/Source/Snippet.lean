import ChangeGraph.LineRange.Basic

/-! # Snippets

The source lines of a range, cut in the middle if they are more than a budget allows. Half of the budget goes to the
lines in front, one at least, and half to those at the end. -/

namespace ChangeGraph

/-- The elements from index `i` up to but without index `j`; a negative index counts from the end. -/
def slice {α : Type} (xs : List α) (i j : Int) : List α :=
  let place (k : Int) : Nat := if k < 0 then (xs.length + k).toNat else k.toNat
  (xs.take (place j)).drop (place i)

def truncationMark : String := "  // ... truncated ..."

/-- The lines of a range that exist. -/
def linesOf (lines : List String) (r : LineRange) : List String :=
  slice lines (max 0 (r.first - 1)) (min lines.length r.last)

/-- Cuts the middle out of lines that are more than the budget. -/
def truncated (lines : List String) (budget : Int) : List String :=
  if budget < lines.length then
    let half := budget.fdiv 2
    lines.take (max half 1).toNat ++ truncationMark :: lines.drop (lines.length - half).toNat
  else lines

def snippet (lines : List String) (r : LineRange) (budget : Int) : String :=
  "\n".intercalate (truncated (linesOf lines r) budget)

end ChangeGraph
