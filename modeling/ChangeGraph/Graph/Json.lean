import ChangeGraph.Graph.Basic
import ChangeGraph.Json.Writer

/-! # Call graphs as JSON

A name that is missing has no entry. -/

namespace ChangeGraph

def LineRange.toValue (r : LineRange) : Value := .table [("start", .int r.first), ("end", .int r.last)]

/-- An entry for a name that may be missing. -/
def optionalEntry (key : String) : Option String → Entries
  | some s => [(key, .text s)]
  | none => []

def Symbol.toValue (s : Symbol) : Value :=
  .table <|
    [("id", .text s.id), ("name", .text s.name), ("signature", .text s.signature), ("filePath", .text s.path),
      ("range", s.range.toValue), ("isChanged", .bool s.changed), ("kind", .text s.kind.word),
      ("snippet", .text s.snippet)] ++ optionalEntry "className" s.className

def CallSite.toValue (c : CallSite) : Value :=
  .table <|
    [("callee", .text c.callee), ("line", .int c.line), ("column", .int c.column), ("resolved", .bool c.resolved)] ++
      optionalEntry "targetId" c.target

def GraphNode.toValue (n : GraphNode) : Value :=
  .table
    [("id", .text n.id), ("symbol", n.symbol.toValue), ("calls", .list (n.calls.map CallSite.toValue)),
      ("calledBy", .list (n.calledBy.map Value.text))]

def GraphEdge.toValue (e : GraphEdge) : Value :=
  .table
    [("id", .text e.id), ("source", .text e.source), ("target", .text e.target), ("callSite", e.call.toValue),
      ("isExternal", .bool e.external)]

def CallGraph.toValue (g : CallGraph) : Value :=
  .table
    [("nodes", .list (g.nodes.map GraphNode.toValue)), ("edges", .list (g.edges.map GraphEdge.toValue)),
      ("totalFunctions", .int g.total), ("wasCapped", .bool g.capped)]

def CallGraph.toJson (g : CallGraph) (indent : Option Nat := some 2) : Except Json.WriteFault String :=
  Json.write indent g.toValue

end ChangeGraph
