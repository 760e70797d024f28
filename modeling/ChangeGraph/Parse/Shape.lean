import ChangeGraph.Parse.Engine
import ChangeGraph.Syntax.Node

/-! # From parsed trees to syntax trees

Only shown nodes are kept; what is not shown gives its children to the node around it. A field name on a part that is
not shown goes to the first node in its place. -/

namespace ChangeGraph.Parse

open ChangeGraph.Grammar
open ChangeGraph.Syntax (Node Point)

def Cursor.point (c : Cursor) : Point := ⟨c.row, c.column⟩

/-- The characters of the first `n` bytes. -/
def takeBytes : Nat → List Char → List Char
  | 0, _ => []
  | _, [] => []
  | n, c :: cs => if n < c.utf8Size then [] else c :: takeBytes (n - c.utf8Size) cs

/-- The kind a tree is shown under and whether it is a construct, if it is shown. -/
def shownAs (tb : Tables) (label : Grammar.Label) (t : Info) : Option (String × Bool) :=
  match label.shown with
  | some a => some (a.kind, a.named)
  | none => match t.head with
    | .symbol k => if (tb.info k).visible then some ((tb.info k).kind, (tb.info k).named) else none
    | .skipped => none
    | .error => some ("ERROR", true)

def withField (field : Option String) : Node → Node
  | .mk l cs => .mk { l with field := field.orElse fun _ => l.field } cs

def labelFirst (field : Option String) : List Node → List Node
  | [] => []
  | n :: ns => withField field n :: ns

mutual

/-- The nodes a tree stands for in the place of a production. -/
def Tree.nodes (tb : Tables) (label : Grammar.Label) : Tree → List Node
  | .mk t cs =>
    let inner := nodesOf tb t.labels 0 cs
    match shownAs tb label t with
    | none => labelFirst label.field inner
    | some (kind, named) =>
      let text := String.ofList (takeBytes (t.stop.offset - t.start.offset) t.start.rest)
      [.mk { kind, named, start := t.start.point, stop := t.stop.point, field := label.field, text := some text } inner]

/-- The nodes of a list of children, from the given place of their production on. -/
def nodesOf (tb : Tables) (labels : Array Grammar.Label) (place : Nat) : List Tree → List Node
  | [] => []
  | t :: ts =>
    if t.extra then Tree.nodes tb ⟨none, none⟩ t ++ nodesOf tb labels place ts
    else Tree.nodes tb (labels.getD place ⟨none, none⟩) t ++ nodesOf tb labels (place + 1) ts

end

/-- The syntax tree of a text. -/
def syntaxTree (l : Language) (text : String) : Node :=
  let whole : Node := .mk { kind := "ERROR", start := ⟨0, 0⟩, stop := ⟨0, 0⟩, text := some text } []
  match parse l text with
  | some t => (t.nodes l.tables ⟨none, none⟩).headD whole
  | none => whole

end ChangeGraph.Parse
