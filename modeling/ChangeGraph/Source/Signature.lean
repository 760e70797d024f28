import ChangeGraph.Syntax.Node
import ChangeGraph.Text.Blank

/-! # Signatures

The name of a function, its parameters as written, and the type it returns if one is written. -/

namespace ChangeGraph

open ChangeGraph.Syntax

/-- The parameters of a function as written: those of its list without comments, or its one bare parameter. -/
def parametersOf (f : Node) : List String :=
  match f.child? "parameters" with
  | some ps => (ps.namedChildren.filter (·.kind != "comment")).map (·.text)
  | none => match f.child? "parameter" with
    | some p => [p.text]
    | none => []

/-- The type that a function returns as written, without the colons in front of it. -/
def returnTypeOf (f : Node) : Option String := do
  let t ← f.child? "return_type"
  let s := Text.strip (String.ofList (t.text.toList.dropWhile (· == ':')))
  if s.isEmpty then none else some s

def signature (f : Node) (name : String) : String :=
  let call := name ++ "(" ++ ", ".intercalate (parametersOf f) ++ ")"
  match returnTypeOf f with
  | some t => call ++ ": " ++ t
  | none => call

end ChangeGraph
