import ChangeGraph.Analysis.Notice
import ChangeGraph.Files.Host
import ChangeGraph.Files.Path
import ChangeGraph.Settings.Word
import ChangeGraph.Text.Utf8
import ChangeGraph.Toml.Reader
import ChangeGraph.Toml.Writer

/-! # Settings

The settings are a file of tables, one of which holds the options of graphs. What is in the file is read as it is
needed; saving the options keeps all other tables. A file that cannot be read counts as empty. Nothing here depends on
how the tables are written down: that is the matter of a format. -/

namespace ChangeGraph.Settings

/-- How settings are read from a text and written to one. -/
structure Format where
  read : String → Except Toml.Fault Entries
  write : Entries → Except Toml.WriteFault String

def Format.toml : Format where
  read := Toml.read
  write := Toml.write

/-- The table that holds the options. -/
def tableName : String := "graph"

inductive Fault where
  /-- The file is no text. -/
  | noText (fault : Text.Utf8.Fault)
  /-- The file runs into a gap of the reader. -/
  | gap (fault : Toml.Fault)
  /-- An option has a value that does not suit it. -/
  | badOption (path : String) (fault : GraphOptions.Fault)
  /-- The settings hold a value that cannot be written. -/
  | unwritable (fault : Toml.WriteFault)

def Fault.message : Fault → String
  | .noText f => f.message
  | .gap f => f.message
  | .badOption path f => "Invalid [" ++ tableName ++ "] config in " ++ path ++ ": " ++ f.message
  | .unwritable f => f.message

/-- All settings that a text holds; a malformed text counts as empty. -/
def ofText (format : Format) (path text : String) : Except Fault (Entries × List Notice) :=
  match format.read text with
  | .ok es => .ok (es, [])
  | .error .malformed => .ok ([], [.unreadSettings path])
  | .error f => .error (.gap f)

/-- All settings that a file holds, by what reading it gave. -/
def ofFile (format : Format) (path : String) : Except FileFault (List UInt8) → Except Fault (Entries × List Notice)
  | .error _ => .ok ([], [.unreadSettings path])
  | .ok bs =>
    match Text.Utf8.read bs with
    | .error f => .error (.noText f)
    | .ok text => ofText format path (Text.withPlainLineEnds text)

/-- The options among all settings. Entries that name no option are left out. -/
def options (path : String) (es : Entries) : Except Fault GraphOptions × List Notice :=
  match (es.lookup tableName).getD (.table []) with
  | .table os =>
    let isKnown (e : String × Value) : Bool := (GraphOptions.Key.ofName? e.1).isSome
    ((GraphOptions.replace {} (os.filter isKnown)).mapError (.badOption path),
      (os.filter fun e => !isKnown e).map fun e => .unknownSetting e.1)
  | _ => (.ok {}, [.settingsNotTable])

/-- All settings with the options replaced. -/
def withOptions (o : GraphOptions) (es : Entries) : Entries := Entries.set tableName (.table o.entries) es

/-! ### The file -/

/-- A computation that tells notices and may fail. -/
abbrev Noting (m : Type → Type) := ExceptT Fault (StateT (List Notice) m)

variable {m : Type → Type} [Monad m]

def note (ns : List Notice) : Noting m Unit := modify (· ++ ns)

def told {α : Type} (x : Except Fault (α × List Notice)) : Noting m α := do
  let (a, ns) ← ExceptT.mk (pure x)
  note ns
  return a

variable (format : Format) (host : Host m) (path : String)

/-- All settings. -/
def loadAll : Noting m Entries := do
  match ← (host.kind path : m _) with
  | none => return []
  | some _ => told (ofFile format path (← (host.read path : m _)))

/-- The options, those not set by default. -/
def load : Noting m GraphOptions := do
  let (result, ns) := options path (← loadAll format host path)
  note ns
  ExceptT.mk (pure result)

/-- Writes settings. The file is opened before there is a text to write to it, so a file whose settings cannot be written
is left empty. -/
def put (es : Entries) : Noting m (Except FileFault Unit) := do
  match ← (host.makeDirectory (Path.parent path) : m _) with
  | .error f => return .error f
  | .ok () =>
    match ← (host.clear path : m _) with
    | .error f => return .error f
    | .ok () =>
      match format.write es with
      | .error fault => throw (.unwritable fault)
      | .ok text => host.append path (Text.Utf8.encode text)

/-- Saves the options; tells whether that could be done. -/
def save (o : GraphOptions) : Noting m Bool := do
  let es ← loadAll format host path
  match ← put format host path (withOptions o es) with
  | .ok () => return true
  | .error f =>
    note [.unwrittenSettings path f.message]
    return false

/-! ### Setting one option -/

/-- Why an option was not set. -/
inductive SetFault where
  | word (fault : WordFault)
  | store (fault : Fault)
  | value (fault : GraphOptions.Fault)

def SetFault.message : SetFault → String
  | .word f => f.message
  | .store f => f.message
  | .value f => f.message

/-- The saved options with one replaced. -/
def changed (name word : String) : ExceptT SetFault (StateT (List Notice) m) GraphOptions := do
  let (key, value) ← ExceptT.mk (pure ((readWord name word).mapError .word))
  let o ← ExceptT.adapt SetFault.store (load format host path)
  ExceptT.mk (pure ((o.replace [(key.name, value)]).mapError .value))

end ChangeGraph.Settings
