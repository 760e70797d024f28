import ChangeGraph.Value.Shown

/-! # Options of a graph

How many nodes and edges a graph may have, whether it shows functions outside the files at hand, and how many lines a
snippet may have. -/

namespace ChangeGraph

structure GraphOptions where
  maxNodes : Nat := 80
  maxEdges : Nat := 150
  showExternal : Bool := true
  maxSnippetLines : Nat := 20
deriving DecidableEq, Repr

namespace GraphOptions

/-- The four options. -/
inductive Key where
  | maxNodes
  | maxEdges
  | showExternal
  | maxSnippetLines
deriving DecidableEq, Repr

def Key.all : List Key := [.maxNodes, .maxEdges, .showExternal, .maxSnippetLines]

def Key.name : Key → String
  | .maxNodes => "max_nodes"
  | .maxEdges => "max_edges"
  | .showExternal => "show_external"
  | .maxSnippetLines => "max_snippet_lines"

def Key.ofName? (s : String) : Option Key := Key.all.find? (·.name == s)

def get (o : GraphOptions) : Key → Value
  | .maxNodes => .int o.maxNodes
  | .maxEdges => .int o.maxEdges
  | .showExternal => .bool o.showExternal
  | .maxSnippetLines => .int o.maxSnippetLines

/-- All options by name, in order. -/
def entries (o : GraphOptions) : Entries := Key.all.map fun k => (k.name, o.get k)

/-- Why a value does not suit an option. -/
inductive Fault where
  | notInteger (key : Key) (v : Value)
  | negative (key : Key) (n : Int)
  | notBoolean (key : Key) (v : Value)

def Fault.message : Fault → String
  | .notInteger k v => k.name ++ " must be an integer, got " ++ v.shown
  | .negative k n => s!"{k.name} must be >= 0, got {n}"
  | .notBoolean k v => k.name ++ " must be a boolean, got " ++ v.shown

def limit (k : Key) : Value → Except Fault Nat
  | .int n => if 0 ≤ n then .ok n.toNat else .error (.negative k n)
  | v => .error (.notInteger k v)

def flag (k : Key) : Value → Except Fault Bool
  | .bool b => .ok b
  | v => .error (.notBoolean k v)

/-- The options that a choice of values makes. The limits are checked first, in order. -/
def ofValues (value : Key → Value) : Except Fault GraphOptions := do
  let maxNodes ← limit .maxNodes (value .maxNodes)
  let maxEdges ← limit .maxEdges (value .maxEdges)
  let maxSnippetLines ← limit .maxSnippetLines (value .maxSnippetLines)
  let showExternal ← flag .showExternal (value .showExternal)
  return { maxNodes, maxEdges, showExternal, maxSnippetLines }

/-- The options with some values replaced; entries that name no option have no part. -/
def replace (o : GraphOptions) (es : Entries) : Except Fault GraphOptions :=
  ofValues fun k => (es.lookup k.name).getD (o.get k)

end GraphOptions

end ChangeGraph
