import ChangeGraph.Diff.Hunk
import ChangeGraph.LineRange.Merge

/-! # Changed files

From the hunks of a change to the changed lines of each file. Entries for one path are put together where the path
first has a changed line. -/

namespace ChangeGraph

/-- The hunks of one file, under the path that the change gives it. -/
structure FileDiff where
  path : String
  hunks : List Hunk
deriving DecidableEq, Repr

/-- A file diff from outside: it may lack a path, and its hunks may be anything. -/
structure RawDiff where
  path : Option String
  hunks : List Value

/-- What is left when a missing path is read as empty and all that is no hunk is dropped. -/
def RawDiff.valid (d : RawDiff) : FileDiff :=
  ⟨d.path.getD "", d.hunks.filterMap fun v => (Hunk.ofValue v).toOption⟩

/-- A file diff as it would come from outside. -/
def FileDiff.raw (d : FileDiff) : RawDiff := ⟨some d.path, d.hunks.map Hunk.toValue⟩

/-- A file and its changed lines. -/
structure ChangedFile where
  path : String
  ranges : List LineRange
deriving DecidableEq, Repr

namespace FileDiff

def ranges (d : FileDiff) : List LineRange := LineRange.merge (d.hunks.filterMap Hunk.range?)

/-- The path without one leading `a/` or `b/`, by which diffs tell the old side from the new. -/
def plainPath (path : String) : String :=
  match path.toList with
  | 'a' :: '/' :: rest => String.ofList rest
  | 'b' :: '/' :: rest => String.ofList rest
  | _ => path

end FileDiff

namespace ChangedFile

/-- Adds ranges to the entry of a path, or an entry at the end if the path has none. -/
def add (path : String) (rs : List LineRange) : List ChangedFile → List ChangedFile
  | [] => [⟨path, rs⟩]
  | f :: fs => if f.path == path then ⟨f.path, f.ranges ++ rs⟩ :: fs else f :: add path rs fs

def addDiff (fs : List ChangedFile) (d : FileDiff) : List ChangedFile :=
  let path := FileDiff.plainPath d.path
  if path.isEmpty || d.ranges.isEmpty then fs else add path d.ranges fs

/-- The changed lines of each file of a change. -/
def ofDiffs (ds : List FileDiff) : List ChangedFile :=
  (ds.foldl addDiff []).map fun f => ⟨f.path, LineRange.merge f.ranges⟩

end ChangedFile

end ChangeGraph
