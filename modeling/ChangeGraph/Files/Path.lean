import ChangeGraph.Text.Lines

/-! # Paths

Names with slashes between them. A path is shown without empty names and without names that stand for the place where
they are. -/

namespace ChangeGraph.Path

/-- The pieces between slashes. -/
def pieces (path : String) : List String := (Text.splitAtEach '/' path.toList).map String.ofList

/-- The slashes in front that set a path at the root. Exactly two are kept apart from one. -/
def root (path : String) : String :=
  match path.toList.takeWhile (· == '/') with
  | [] => ""
  | [_, _] => "//"
  | _ => "/"

/-- The names on the way. -/
def names (path : String) : List String := (pieces path).filter fun n => n != "" && n != "."

/-- A path as it is shown. -/
def plain (path : String) : String :=
  let shown := root path ++ "/".intercalate (names path)
  if shown.isEmpty then "." else shown

/-- A path seen from a directory; one at the root stays where it is. -/
def under (directory path : String) : String :=
  if root path == "" then plain (directory ++ "/" ++ path) else plain path

/-- The last name, empty at the root and where a path begins. -/
def name (path : String) : String := (names path).getLast?.getD ""

/-- The directory that holds a path. -/
def parent (path : String) : String :=
  let shown := root path ++ "/".intercalate (names path).dropLast
  if shown.isEmpty then "." else shown

/-- The last dot of a name and what follows it, unless the dot is at one of the name's ends. -/
def suffix (path : String) : String :=
  let back := (name path).toList.reverse
  let tail := back.takeWhile (· != '.')
  let front := (back.dropWhile (· != '.')).drop 1
  if tail.isEmpty || front.isEmpty then "" else String.ofList ('.' :: tail.reverse)

end ChangeGraph.Path
