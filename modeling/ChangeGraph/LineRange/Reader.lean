import ChangeGraph.LineRange.Basic
import ChangeGraph.Text.Integer

/-! # Line ranges as people write them

`12-30` stands for the lines from 12 to 30 and `12` for that line alone. Lines are counted from one. -/

namespace ChangeGraph.LineRange

/-- A text that stands for no range. -/
structure Unreadable where
  text : String
deriving DecidableEq, Repr

def Unreadable.message (u : Unreadable) : String := s!"Invalid line range '{u.text}'. Use START-END, e.g. 12-30."

/-- What stands before the first hyphen and, if there is one, what stands after it. -/
def cutAtHyphen (s : String) : String × Option String :=
  match s.toList.dropWhile (· != '-') with
  | [] => (s, none)
  | _ :: rest => (String.ofList (s.toList.takeWhile (· != '-')), some (String.ofList rest))

def read? (s : String) : Option LineRange := do
  let (front, back) := cutAtHyphen s
  let first ← Text.readInteger? front
  let last ← match back with
    | none => some first
    | some t => Text.readInteger? t
  if first < 1 then none
  else if h : first ≤ last then some ⟨first, last, h⟩ else none

def read (s : String) : Except Unreadable LineRange :=
  match read? s with
  | some r => .ok r
  | none => .error ⟨s⟩

end ChangeGraph.LineRange
