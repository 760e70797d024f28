import ChangeGraph.Source.File
import ChangeGraph.Source.Symbol

/-! # Finding the calls in a range of lines

The tree is walked in the order of the text. What ends before the range or starts after it is passed over, together
with all that is inside it. -/

namespace ChangeGraph

open ChangeGraph.Syntax

/-- The name that a member access calls by: the property, after the object if that is a plain name. -/
def memberCallee (f : Node) : Option String := do
  let property ← f.child? "property"
  match f.child? "object" with
  | some o => if o.kind == "identifier" then return o.text ++ "." ++ property.text else return property.text
  | none => return property.text

/-- The name by which a call expression calls, if it has one. A tagged template has none. -/
def calleeOf (call : Node) : Option String :=
  match call.child? "arguments" with
  | some a => if a.kind == "template_string" then none else callee
  | none => callee
where
  callee : Option String := do
    let f ← call.child? "function"
    if f.kind == "identifier" then some f.text
    else if f.kind == "member_expression" then memberCallee f
    else none

/-- The call that a node is, if it is one in the range and calls by a name. -/
def callAt? (file : SourceFile) (r : LineRange) (n : Node) : Option CallSite := do
  let line : Int := n.start.row + 1
  if n.kind == "call_expression" && r.first ≤ line then
    let name ← presentName (calleeOf n)
    return { callee := name, line, column := file.columnOf n.start }
  else none

/-- Whether a node lies before the range or after it. -/
def outside (r : LineRange) (n : Node) : Bool :=
  ((n.stop.row + 1 : Nat) : Int) < r.first || r.last < ((n.start.row + 1 : Nat) : Int)

mutual

def callsIn (file : SourceFile) (r : LineRange) : Node → List CallSite
  | .mk l cs =>
    if outside r (.mk l cs) then []
    else (callAt? file r (.mk l cs)).toList ++ callsAmong file r cs

def callsAmong (file : SourceFile) (r : LineRange) : List Node → List CallSite
  | [] => []
  | n :: ns => callsIn file r n ++ callsAmong file r ns

end

/-- The calls of a file that start in the range, in the order of the text. -/
def callsOf (file : SourceFile) (r : LineRange) : List CallSite := callsIn file r file.root

end ChangeGraph
