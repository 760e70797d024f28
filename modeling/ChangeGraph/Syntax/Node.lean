/-! # Syntax trees

A node has a kind, a place in the text, perhaps a field name under its parent, perhaps a text, and children in order.
Named nodes stand for constructs, the others for punctuation. -/

namespace ChangeGraph.Syntax

/-- A place in a text: row and byte within the row, both from zero. -/
structure Point where
  row : Nat
  column : Nat
deriving DecidableEq, Repr, Inhabited

structure Label where
  kind : String
  start : Point
  stop : Point
  field : Option String := none
  named : Bool := true
  text : Option String := none
deriving DecidableEq, Repr, Inhabited

inductive Node where
  | mk (label : Label) (children : List Node)
deriving Repr, Inhabited

namespace Node

def label : Node → Label
  | mk l _ => l

def children : Node → List Node
  | mk _ cs => cs

def kind (n : Node) : String := n.label.kind

def start (n : Node) : Point := n.label.start

def stop (n : Node) : Point := n.label.stop

/-- The text of a node; one without a text reads as empty. -/
def text (n : Node) : String := n.label.text.getD ""

def namedChildren (n : Node) : List Node := n.children.filter (·.label.named)

/-- The first child with the given field name. -/
def child? (n : Node) (field : String) : Option Node := n.children.find? (·.label.field == some field)

end Node

end ChangeGraph.Syntax
