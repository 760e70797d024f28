import ChangeGraph.Source.Shape
import ChangeGraph.Source.Signature
import ChangeGraph.Source.Snippet
import ChangeGraph.Source.Symbol

/-! # Finding the symbols of a file

The tree is walked in the order of the text. Of a class declaration only the members are seen, and they belong to the
class; whatever else holds a function passes on the class around it. -/

namespace ChangeGraph

open ChangeGraph.Syntax

/-- A function met on the walk: the node it spans, the node with its parameters, its bare and its full name. -/
structure Sighting where
  node : Node
  body : Node
  name : String
  fullName : String
  kind : Symbol.Kind
  className : Option String := none

def fieldText (n : Node) (field : String) : String := ((n.child? field).map (·.text)).getD ""

/-- The name of a member, with its class in front if the class has a name. -/
def memberName (cls : Option String) (name : String) : String :=
  match presentName cls with
  | some c => c ++ "." ++ name
  | none => name

/-- The function that a node is, seen inside the class `cls` and under a node of kind `parent`. A signature without a
body counts only as the member of a class. -/
def sighting? (cls parent : Option String) (n : Node) : Option Sighting :=
  let name := fieldText n "name"
  match Shape.of? n with
  | some .functionDeclaration => some ⟨n, n, name, name, .function, none⟩
  | some .methodDeclaration => some ⟨n, n, name, memberName cls name, .method, cls⟩
  | some .methodSignature =>
    if (presentName cls).isSome && parent == some "class_body" then
      some ⟨n, n, name, memberName cls name, .method, cls⟩
    else none
  | some .arrowVariable => (n.child? "value").map fun v => ⟨n, v, name, name, .arrow, none⟩
  | _ => none

mutual

/-- The functions of a tree in the order of the text. -/
def sightings (cls parent : Option String) : Node → List Sighting
  | .mk l cs =>
    let n := Node.mk l cs
    (sighting? cls parent n).toList ++
      if Shape.of? n = some .classDeclaration then sightingsInBody (fieldText n "name") cs
      else sightingsAmong cls (some l.kind) cs

def sightingsAmong (cls parent : Option String) : List Node → List Sighting
  | [] => []
  | n :: ns => sightings cls parent n ++ sightingsAmong cls parent ns

/-- The functions among the members of a class, which are the named children of its first body. -/
def sightingsInBody (cls : String) : List Node → List Sighting
  | [] => []
  | .mk l cs :: ns =>
    if l.field == some "body" then sightingsAmongNamed (some cls) (some l.kind) cs else sightingsInBody cls ns

def sightingsAmongNamed (cls parent : Option String) : List Node → List Sighting
  | [] => []
  | n :: ns =>
    (if n.label.named then sightings cls parent n else []) ++ sightingsAmongNamed cls parent ns

end

/-- A symbol is known by its file, its full name and its first line. The number of a line counts the lines of a file, so
it is always within the digits that a number may have in a text (`Text.digitLimit`). -/
def symbolId (path name : String) (r : LineRange) : String := s!"{path}:{name}:{r.first}"

/-- The symbol of a function, marked as changed if one of its lines is. -/
def Sighting.symbol (file : SourceFile) (changed : List LineRange) (budget : Int) (s : Sighting) (r : LineRange) :
    Symbol :=
  { id := symbolId file.path s.fullName r
    name := s.fullName
    signature := signature s.body s.name
    path := file.path
    range := r
    changed := r.meetsAny changed
    kind := s.kind
    snippet := snippet file.lines r budget
    className := s.className }

/-- Keeps the first of several elements with one key. -/
def firstByKey {α : Type} (key : α → String) : List String → List α → List α
  | _, [] => []
  | seen, a :: as => if seen.contains (key a) then firstByKey key seen as else a :: firstByKey key (key a :: seen) as

/-- The symbols of a file in the order of the text; of several with one id the first. -/
def symbolsOf (file : SourceFile) (changed : List LineRange) (budget : Int) :
    Except LineRange.Backward (List Symbol) := do
  let all ← (sightings none none file.root).mapM fun s => do
    return s.symbol file changed budget (← nodeRange s.node)
  return firstByKey Symbol.id [] all

end ChangeGraph
