import ChangeGraph.Files.Host
import ChangeGraph.Files.Path

/-! # Files held in memory

A directory tree as a list of files and a list of directories, both by the names on the way from the top. The
directories above a file or a directory are there with it. -/

namespace ChangeGraph

abbrev Route := List String

structure FileTree where
  files : List (Route × List UInt8) := []
  directories : List Route := []
deriving DecidableEq, Repr

namespace FileTree

def bytes? (t : FileTree) (r : Route) : Option (List UInt8) := t.files.lookup r

/-- Whether a route leads from the top upwards, or stays there. -/
def isAbove (r : Route) : Bool := r.all (· == "..")

def isDirectory (t : FileTree) (r : Route) : Bool :=
  isAbove r || t.directories.any r.isPrefixOf || t.files.any fun f => r.isPrefixOf f.1 && r != f.1

def kindAt (t : FileTree) (r : Route) : Option FileKind :=
  if (t.bytes? r).isSome then some .file
  else if t.isDirectory r then some .directory
  else none

/-- Follows names from a place. Every name but the last must lead to a directory; two dots lead one up. Above the top
there is nothing but directories. -/
def follow (t : FileTree) : Route → List String → Except FileFault.Cause Route
  | place, [] => .ok place
  | place, n :: ns =>
    match t.kindAt place with
    | none => .error .missing
    | some .file => .error .notDirectory
    | some .directory =>
      if n == "" || n == "." then follow t place ns
      else if n == ".." && !isAbove place then follow t place.dropLast ns
      else follow t (place ++ [n]) ns

/-- The place a path leads to. Nothing is at the root, and the empty path leads nowhere. -/
def locate (t : FileTree) (path : String) : Except FileFault.Cause Route :=
  if path.isEmpty || Path.root path != "" then .error .missing else t.follow [] (Path.pieces path)

def kind (t : FileTree) (path : String) : Option FileKind :=
  match t.locate path with
  | .ok r => t.kindAt r
  | .error _ => none

def read (t : FileTree) (path : String) : Except FileFault (List UInt8) :=
  match t.locate path with
  | .error cause => .error ⟨cause, some path⟩
  | .ok r =>
    match t.bytes? r with
    | some bs => .ok bs
    | none => .error ⟨if t.isDirectory r then .isDirectory else .missing, some path⟩

/-- The tree with a file at a place, whatever was there. -/
def put (t : FileTree) (r : Route) (bs : List UInt8) : FileTree :=
  if (t.bytes? r).isSome then { t with files := t.files.map fun f => if f.1 == r then (r, bs) else f }
  else { t with files := t.files ++ [(r, bs)] }

def write (t : FileTree) (path : String) (bs : List UInt8) : Except FileFault FileTree :=
  match t.locate path with
  | .error cause => .error ⟨cause, some path⟩
  | .ok r =>
    match t.kindAt r with
    | some .directory => .error ⟨.isDirectory, some path⟩
    | some .file => .ok (t.put r bs)
    | none => if t.isDirectory r.dropLast then .ok (t.put r bs) else .error ⟨.missing, some path⟩

def append (t : FileTree) (path : String) (bs : List UInt8) : Except FileFault FileTree :=
  match t.read path with
  | .error f => .error f
  | .ok old => t.write path (old ++ bs)

def makeDirectory (t : FileTree) (path : String) : Except FileFault FileTree :=
  let r := Path.names path
  match t.kindAt r with
  | some .directory => .ok t
  | some .file => .error ⟨.exists, some path⟩
  | none =>
    if (List.range r.length).any fun n => (t.bytes? (r.take n)).isSome then .error ⟨.notDirectory, some path⟩
    else .ok { t with directories := t.directories ++ [r] }

end FileTree

/-- Files in memory and a program that answers from a table. -/
structure World where
  tree : FileTree := {}
  /-- How the program ends for each program name and arguments. -/
  program : String → List String → ProgramEnd
  /-- The requests made so far. -/
  requests : List (List String) := []

namespace World

def change (f : FileTree → Except FileFault FileTree) : StateM World (Except FileFault Unit) := do
  match f (← get).tree with
  | .ok tree => modify ({ · with tree }); return .ok ()
  | .error e => return .error e

def host : Host (StateM World) where
  kind path := do return (← get).tree.kind path
  read path := do return (← get).tree.read path
  clear path := change (·.write path [])
  append path bs := change (·.append path bs)
  makeDirectory path := change (·.makeDirectory path)
  start _ name arguments := do
    modify fun w => { w with requests := w.requests ++ [name :: arguments] }
    return (← get).program name arguments

end World

end ChangeGraph
