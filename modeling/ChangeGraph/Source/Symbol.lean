import ChangeGraph.LineRange.Basic

/-! # Symbols and call sites

A symbol is a function with a name and a place; a call site is a call with the name it calls by. -/

namespace ChangeGraph

namespace Symbol

inductive Kind where
  | function
  | method
  | arrow
  | classType
  | external
deriving DecidableEq, Repr

def Kind.all : List Kind := [.function, .method, .arrow, .classType, .external]

def Kind.word : Kind → String
  | .function => "function"
  | .method => "method"
  | .arrow => "arrow"
  | .classType => "class"
  | .external => "external"

def Kind.ofWord? (s : String) : Option Kind := Kind.all.find? (·.word == s)

end Symbol

structure Symbol where
  id : String
  name : String
  signature : String
  path : String
  range : LineRange
  changed : Bool
  kind : Symbol.Kind
  snippet : String
  className : Option String := none
deriving DecidableEq, Repr

structure CallSite where
  callee : String
  line : Int
  column : Int
  resolved : Bool := false
  target : Option String := none
deriving DecidableEq, Repr

/-- A name that may be missing, where an empty name counts as missing. -/
def presentName (name : Option String) : Option String := name.filter (!·.isEmpty)

end ChangeGraph
