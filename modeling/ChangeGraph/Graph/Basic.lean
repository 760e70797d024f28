import ChangeGraph.Source.Symbol

/-! # Call graphs -/

namespace ChangeGraph

structure GraphNode where
  id : String
  symbol : Symbol
  calls : List CallSite := []
  calledBy : List String := []
deriving DecidableEq, Repr

structure GraphEdge where
  id : String
  source : String
  target : String
  call : CallSite
  external : Bool := false
deriving DecidableEq, Repr

structure CallGraph where
  nodes : List GraphNode := []
  edges : List GraphEdge := []
  total : Int := 0
  capped : Bool := false
deriving DecidableEq, Repr

def externalMark : String := "external:"

def externalId (callee : String) : String := externalMark ++ callee

/-- The symbol that stands for a function outside the files at hand. -/
def externalSymbol (callee : String) : Symbol :=
  { id := externalId callee
    name := callee
    signature := callee ++ "()"
    path := "(external)"
    range := LineRange.single 0
    changed := false
    kind := .external
    snippet := "// External function\n// Not in changed files" }

def edgeId (source target : String) (line : Int) : String := s!"{source}->{target}:{line}"

end ChangeGraph
