import ChangeGraph.Source.File

/-! # Shapes of syntax nodes

The few shapes that matter for finding functions; every other node is of no shape. -/

namespace ChangeGraph

open ChangeGraph.Syntax

inductive Shape where
  | functionDeclaration
  | methodDeclaration
  | methodSignature
  | arrowVariable
  | classDeclaration
deriving DecidableEq, Repr

def Shape.word : Shape → String
  | .functionDeclaration => "function_declaration"
  | .methodDeclaration => "method_declaration"
  | .methodSignature => "method_signature"
  | .arrowVariable => "arrow_variable"
  | .classDeclaration => "class_declaration"

def functionKinds : List String := ["function_declaration", "generator_function_declaration"]

def methodSignatureKinds : List String := ["abstract_method_signature", "method_signature"]

def classKinds : List String := ["class_declaration", "abstract_class_declaration"]

/-- Kinds of expression whose value is a function. -/
def functionValueKinds : List String := ["arrow_function", "function_expression", "function", "generator_function"]

/-- The shape of a node, if it has one. All but a variable need a name. -/
def Shape.of? (n : Node) : Option Shape :=
  let named (s : Shape) : Option Shape := if (n.child? "name").isSome then some s else none
  if functionKinds.contains n.kind then named .functionDeclaration
  else if n.kind == "method_definition" then named .methodDeclaration
  else if methodSignatureKinds.contains n.kind then named .methodSignature
  else if n.kind == "variable_declarator" then
    match n.child? "value" with
    | some v => if functionValueKinds.contains v.kind then some .arrowVariable else none
    | none => none
  else if classKinds.contains n.kind then named .classDeclaration
  else none

/-- A shape with the lines of its node. -/
structure ShapeAt where
  shape : Shape
  range : LineRange

mutual

/-- All nodes of a tree, each before its children. -/
def Syntax.Node.preorder : Node → List Node
  | .mk l cs => .mk l cs :: preorderAll cs

def Syntax.preorderAll : List Node → List Node
  | [] => []
  | n :: ns => n.preorder ++ preorderAll ns

end

/-- The shapes of a tree in the order of the text. -/
def shapesOf (root : Node) : Except LineRange.Backward (List ShapeAt) :=
  root.preorder.filterMapM fun n =>
    match Shape.of? n with
    | none => .ok none
    | some s => do return some ⟨s, ← nodeRange n⟩

end ChangeGraph
