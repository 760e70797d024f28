import ChangeGraph.LineRange.Basic
import ChangeGraph.Source.Kind
import ChangeGraph.Text.Lines
import ChangeGraph.Text.Utf8

/-! # Source files

A source file with its syntax tree and its lines, both as texts and as bytes: the tree counts columns in bytes, a
reader in characters. -/

namespace ChangeGraph

open ChangeGraph.Syntax

structure SourceFile where
  path : String
  root : Node
  lines : List String
  byteLines : List (List UInt8)

/-- A path whose end belongs to no language. -/
structure UnsupportedPath where
  path : String

def UnsupportedPath.message (u : UnsupportedPath) : String := s!"Unsupported file type: {u.path}"

instance : ToString UnsupportedPath := ⟨UnsupportedPath.message⟩

namespace SourceFile

/-- A file with the given lines and syntax tree. -/
def ofLines (path : String) (lines : List String) (root : Node) : SourceFile :=
  ⟨path, root, lines, lines.map Text.Utf8.encode⟩

/-- Line ends are line feeds; carriage returns before them do not belong to the line as text. -/
def ofTree (path source : String) (root : Node) : SourceFile :=
  { path, root
    lines := (Text.splitLines source).map Text.dropReturns
    byteLines := Text.splitAtEach 10 (Text.Utf8.encode source) }

/-- Reads a source in the language that its path names. -/
def parse (source path : String) : Except UnsupportedPath SourceFile :=
  match SourceKind.ofPath? path with
  | some k => .ok (ofTree path source (Parse.syntaxTree k.language source))
  | none => .error ⟨path⟩

/-- The column of a place in characters, counted from one. -/
def columnOf (f : SourceFile) (p : Point) : Nat :=
  (Text.Utf8.decode ((f.byteLines.getD p.row []).take p.column)).length + 1

end SourceFile

/-- The lines of a node, counted from one. -/
def nodeRange (n : Node) : Except LineRange.Backward LineRange :=
  LineRange.between (n.start.row + 1) (n.stop.row + 1)

end ChangeGraph
