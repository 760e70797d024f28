import ChangeGraph.Text.Quoted

/-! # Why a file cannot be had -/

namespace ChangeGraph

inductive FileFault.Cause where
  | missing
  | exists
  | notDirectory
  | isDirectory
  /-- Any other reason, with its number and its text. -/
  | other (number : Nat) (reason : String)
deriving DecidableEq, Repr

structure FileFault where
  cause : FileFault.Cause
  /-- The path, unless the file was open already. -/
  path : Option String
deriving DecidableEq, Repr

namespace FileFault

def Cause.number : Cause → Nat
  | .missing => 2
  | .exists => 17
  | .notDirectory => 20
  | .isDirectory => 21
  | .other n _ => n

def Cause.reason : Cause → String
  | .missing => "No such file or directory"
  | .exists => "File exists"
  | .notDirectory => "Not a directory"
  | .isDirectory => "Is a directory"
  | .other _ reason => reason

def message (f : FileFault) : String :=
  let reason := s!"[Errno {f.cause.number}] {f.cause.reason}"
  match f.path with
  | some path => s!"{reason}: {Text.quoted path}"
  | none => reason

end FileFault

end ChangeGraph
