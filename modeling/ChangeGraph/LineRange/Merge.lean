import ChangeGraph.LineRange.Basic

/-! # Merged ranges

Ranges that overlap or touch become one. The result is in order, and between two ranges lies a line of neither. -/

namespace ChangeGraph.LineRange

/-- Order by the first line, then by the last. -/
def precedes (a b : LineRange) : Bool := a.first < b.first || (a.first == b.first && a.last ≤ b.last)

/-- The range from the first line of one to the later of the two last lines. -/
def extend (a b : LineRange) : LineRange :=
  ⟨a.first, max a.last b.last, Int.le_trans a.ordered (Int.le_max_left _ _)⟩

/-- Joins to `current` each range that overlaps or touches it, as long as they come in order. -/
def joinFrom (current : LineRange) : List LineRange → List LineRange
  | [] => [current]
  | r :: rs => if r.first ≤ current.last + 1 then joinFrom (current.extend r) rs else current :: joinFrom r rs

def join : List LineRange → List LineRange
  | [] => []
  | r :: rs => joinFrom r rs

def merge (rs : List LineRange) : List LineRange := join (rs.mergeSort precedes)

end ChangeGraph.LineRange
