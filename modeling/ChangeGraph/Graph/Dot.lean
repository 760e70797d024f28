import ChangeGraph.Graph.Basic

/-! # Call graphs as DOT

Changed functions are filled; functions outside and the calls to them are dashed. -/

namespace ChangeGraph.Dot

/-- The text with a backslash before every double quote. -/
def escape (s : String) : String :=
  String.ofList (s.toList.flatMap fun c => if c == '"' then ['\\', '"'] else [c])

def quote (s : String) : String := "\"" ++ escape s ++ "\""

/-- The label of a node has two lines; the line end between them is written as DOT writes it. The number of the first
line is taken to be within the digits that a number may have in a text (`Text.digitLimit`), as the number of a line of a
file always is. -/
def label (s : Symbol) : String :=
  if s.kind = .external then s.name ++ "\\n(external)"
  else s.name ++ "\\n" ++ s.path ++ ":" ++ toString s.range.first

def attributes (s : Symbol) : String :=
  if s.kind = .external then ", style=dashed"
  else if s.changed then ", style=filled, fillcolor=\"#fde68a\""
  else ""

def nodeLine (n : GraphNode) : String :=
  "  " ++ quote n.id ++ " [label=" ++ quote (label n.symbol) ++ attributes n.symbol ++ "];"

def edgeLine (e : GraphEdge) : String :=
  "  " ++ quote e.source ++ " -> " ++ quote e.target ++ (if e.external then " [style=dashed]" else "") ++ ";"

def header : List String := ["digraph CodeFlow \x7b", "  rankdir=LR;", "  node [shape=box, fontname=\"monospace\"];"]

end ChangeGraph.Dot

namespace ChangeGraph

def CallGraph.toDot (g : CallGraph) : String :=
  "\n".intercalate (Dot.header ++ g.nodes.map Dot.nodeLine ++ g.edges.map Dot.edgeLine ++ ["\x7d"])

end ChangeGraph
