/-! # Line ranges

A range of lines has a first and a last line, both of them in it, and the first is not after the last. -/

namespace ChangeGraph

structure LineRange where
  first : Int
  last : Int
  ordered : first ≤ last
deriving DecidableEq, Repr

/-- Two line numbers that make no range, since the first is after the last. -/
structure LineRange.Backward where
  first : Int
  last : Int
deriving DecidableEq, Repr

def LineRange.Backward.message (b : LineRange.Backward) : String :=
  s!"Invalid line range: start {b.first} > end {b.last}"

namespace LineRange

/-- The range from one line to another. -/
def between (first last : Int) : Except Backward LineRange :=
  if h : first ≤ last then .ok ⟨first, last, h⟩ else .error ⟨first, last⟩

/-- The range of one line. -/
def single (line : Int) : LineRange := ⟨line, line, Int.le_refl line⟩

instance : Membership Int LineRange := ⟨fun r line => r.first ≤ line ∧ line ≤ r.last⟩

instance (line : Int) (r : LineRange) : Decidable (line ∈ r) :=
  inferInstanceAs (Decidable (r.first ≤ line ∧ line ≤ r.last))

def text (r : LineRange) : String := s!"{r.first}-{r.last}"

/-- Whether two ranges have a line in common. -/
def meets (a b : LineRange) : Bool := a.first ≤ b.last && b.first ≤ a.last

/-- Whether a range has a line in common with one of several. -/
def meetsAny (r : LineRange) (rs : List LineRange) : Bool := rs.any r.meets

end LineRange

end ChangeGraph
