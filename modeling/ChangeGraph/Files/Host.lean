import ChangeGraph.Files.Fault

/-! # The surroundings

What the library asks of the place it runs in: files, and answers of the version control program. Everything that
reads or writes is stated over these operations, whatever carries them out. -/

namespace ChangeGraph

inductive FileKind where
  | file
  | directory
deriving DecidableEq, Repr

/-- How a program that was started ended. -/
inductive ProgramEnd where
  | missing (fault : FileFault)
  | exited (code : Int) (output errors : String)
deriving DecidableEq, Repr

structure Host (m : Type → Type) where
  /-- What stands at a path. -/
  kind : String → m (Option FileKind)
  read : String → m (Except FileFault (List UInt8))
  /-- Opens a file for writing, which leaves nothing in it. -/
  clear : String → m (Except FileFault Unit)
  /-- Adds octets to a file that is open for writing. -/
  append : String → List UInt8 → m (Except FileFault Unit)
  /-- Makes a directory with those above it; one that is there is left alone. -/
  makeDirectory : String → m (Except FileFault Unit)
  /-- Runs a program with its arguments in a directory. -/
  start : String → String → List String → m ProgramEnd

/-- Puts octets in place of whatever a file held. Where that fails, what it held may be gone. -/
def Host.write {m : Type → Type} [Monad m] (host : Host m) (path : String) (bs : List UInt8) :
    m (Except FileFault Unit) := do
  match ← host.clear path with
  | .error f => return .error f
  | .ok () => host.append path bs

end ChangeGraph
