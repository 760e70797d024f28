import ChangeGraph.Files.Host
import ChangeGraph.Files.Path
import ChangeGraph.Text.Blank
import ChangeGraph.Text.Utf8

/-! # Changes and sources from version control

The requests that are made of the version control program, and what its answers give. Headers of patches always carry
the same two letters in front of paths, whatever the user has chosen. -/

namespace ChangeGraph.Git

abbrev Request := List String

/-- A request that failed, with what was written about it. -/
structure Fault where
  request : Request
  code : Int
  errors : String
deriving DecidableEq, Repr

/-- A fault, from all that was written; blanks around it have no part. -/
def Fault.of (request : Request) (code : Int) (written : String) : Fault := ⟨request, code, Text.strip written⟩

def Fault.message (f : Fault) : String :=
  "git " ++ " ".intercalate f.request ++ s!" failed ({f.code}): {f.errors}"

def marks : Request := ["--src-prefix=a/", "--dst-prefix=b/"]

/-- Asks for the changes that are staged, or for those that are not. -/
def changes (staged : Bool) : Request :=
  ["diff", "--no-color", "--no-ext-diff"] ++ marks ++ (if staged then ["--cached"] else [])

/-- Asks for the changes of a commit. -/
def changesOf (commit : String) : Request :=
  ["show", "--no-color", "--no-ext-diff"] ++ marks ++ ["--format=", "--patch", commit]

/-- Asks for a file as it was at a revision. -/
def fileAt (revision path : String) : Request := ["show", revision ++ ":" ++ path]

/-- Where a program ends when it could not be found. -/
def notFound : Int := 127

/-- What a request gives, by the way the program ended. -/
def outcome (request : Request) : ProgramEnd → Except Fault String
  | .missing f => .error (.of request notFound f.message)
  | .exited code output errors => if code = 0 then .ok output else .error (.of request code errors)

end ChangeGraph.Git

namespace ChangeGraph

/-- A directory under version control, and the program that knows about it. -/
structure Repository where
  directory : String
  program : String := "git"
deriving DecidableEq, Repr

/-- Why a source cannot be read. -/
inductive SourceFault where
  | file (fault : FileFault)
  | request (fault : Git.Fault)
deriving DecidableEq, Repr

def SourceFault.message : SourceFault → String
  | .file f => f.message
  | .request f => f.message

instance : ToString SourceFault := ⟨SourceFault.message⟩

namespace Host

variable {m : Type → Type} [Monad m] (host : Host m)

/-- The text of a file. Octets that are no text are replaced, and all line ends become plain. -/
def readText (path : String) : m (Except FileFault String) := do
  return (← host.read path).map fun bs => Text.withPlainLineEnds (Text.Utf8.decode bs)

/-- The text of a file of a directory as it is now. -/
def readUnder (directory path : String) : m (Except SourceFault String) := do
  return (← host.readText (Path.under directory path)).mapError .file

end Host

namespace Repository

variable {m : Type → Type} [Monad m] (host : Host m) (r : Repository)

def ask (request : Git.Request) : m (Except Git.Fault String) := do
  return Git.outcome request (← host.start r.directory r.program request)

def changes (staged : Bool) : m (Except Git.Fault String) := r.ask host (Git.changes staged)

/-- The staged changes and then the others, as one patch. -/
def allChanges : m (Except Git.Fault String) := do
  match ← r.changes host true with
  | .error f => return .error f
  | .ok staged =>
    match ← r.changes host false with
    | .error f => return .error f
    | .ok others => return .ok (staged ++ others)

def changesOf (commit : String) : m (Except Git.Fault String) := r.ask host (Git.changesOf commit)

/-- A file at a revision, or as it is now. -/
def read (path : String) : Option String → m (Except SourceFault String)
  | none => host.readUnder r.directory path
  | some revision => do return (← r.ask host (Git.fileAt revision path)).mapError .request

end Repository

end ChangeGraph
