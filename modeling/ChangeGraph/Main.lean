import ChangeGraph.Command.Run

/-! # The command line

Carries commands out on the files of the machine. No program is started from here, so a change comes from a patch, and
a request to the version control program is answered as if there were none. -/

namespace ChangeGraph.CommandLine

def causeOf : IO.Error → FileFault.Cause
  | .noFileOrDirectory .. => .missing
  | .alreadyExists .. => .exists
  | .inappropriateType _ code reason => if code = 20 then .notDirectory else if code = 21 then .isDirectory
    else .other code.toNat reason
  | e => .other 5 (toString e)

def attempt {α : Type} (path : Option String) (action : IO α) : IO (Except FileFault α) := do
  try return .ok (← action)
  catch e => return .error ⟨causeOf e, path⟩

/-- What stands at a path: a directory, or else a file. -/
def kindOf (path : String) : IO (Option FileKind) := do
  match ← attempt path (IO.FS.realPath path) with
  | .error _ => return none
  | .ok place =>
    if ← place.isDir then return some .directory
    else if ← place.pathExists then return some .file
    else return none

def host : Host IO where
  kind := kindOf
  read path := attempt path do return (← IO.FS.readBinFile path).toList
  clear path := attempt path (IO.FS.writeBinFile path ByteArray.empty)
  append path bs := attempt none do
    let file ← IO.FS.Handle.mk path .append
    file.write (ByteArray.mk bs.toArray)
    file.flush
  makeDirectory path := attempt path (IO.FS.createDirAll path)
  start _ program _ := return .missing ⟨.missing, some program⟩

/-- The file with the settings, in a directory that may be chosen. -/
def settingsPath : IO String := do
  let home := (← IO.getEnv "HOME").getD "."
  return Path.under ((← IO.getEnv "CODEFLOW_HOME").getD (home ++ "/.codeflow")) "config.toml"

/-- The columns of the screen, eighty if nothing else is said. -/
def columns : IO Nat := do
  return (((← IO.getEnv "COLUMNS").bind Text.readInteger?).map Int.toNat).getD 80

/-- Tells how a command ended, and gives its code. -/
def finish : Except Stop Unit → IO UInt32
  | .ok () => return 0
  | .error (.exit code) => return code.toUInt32
  | .error (.usage text) => do
    IO.eprintln ("Usage error: " ++ text.getD "the arguments cannot be read")
    return 2
  | .error (.broken cause) => do
    IO.eprintln cause.message
    return 1

def run (words : List String) : IO UInt32 := do
  let place : Place IO := { host, settingsPath := ← settingsPath, columns := ← columns }
  let (result, output) ← Command.runWords place words
  for n in output.notices do IO.eprintln n.text
  IO.print output.results
  IO.eprint output.errors
  finish result

end ChangeGraph.CommandLine

def main (words : List String) : IO UInt32 := ChangeGraph.CommandLine.run words
