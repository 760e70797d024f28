import ChangeGraph.Analysis.Analyzer
import ChangeGraph.Command.Basic
import ChangeGraph.Git.Repository
import ChangeGraph.Graph.Dot
import ChangeGraph.Graph.Json
import ChangeGraph.LineRange.Reader
import ChangeGraph.Screen.Rule
import ChangeGraph.Screen.Table
import ChangeGraph.Settings.Store

/-! # Running commands

A command reads and writes through its surroundings. It prints results and errors apart, tells notices, and ends: with a
code, with a complaint about how it was called, or broken off by something that it does not handle. -/

namespace ChangeGraph

def versionText : String := "CodeFlow CLI v0.3.0"

/-- What breaks a command off. -/
inductive Breakdown where
  | file (fault : FileFault)
  | hunk (fault : Hunk.Fault)
  | mark (fault : Screen.MarkFault)
  | settings (fault : Settings.Fault)
  | range (fault : LineRange.Backward)
  | path (fault : UnsupportedPath)
  | json (fault : Json.WriteFault)

def Breakdown.message : Breakdown → String
  | .file f => f.message
  | .hunk f => f.message
  | .mark f => f.message
  | .settings f => f.message
  | .range f => f.message
  | .path f => f.message
  | .json f => f.message

/-- How a command ends before its work is done. -/
inductive Stop where
  | exit (code : Nat)
  /-- The command was called in a way that has no sense, with a text where there is one. -/
  | usage (text : Option String)
  | broken (cause : Breakdown)

/-- What a command has printed and told. -/
structure Output where
  results : String := ""
  errors : String := ""
  notices : List Notice := []

/-- Where a command runs. -/
structure Place (m : Type → Type) where
  host : Host m
  settingsPath : String
  /-- The columns of the screen. -/
  columns : Nat
  /-- What the screen knows. -/
  lexicon : Screen.Lexicon := .usual

abbrev Running (m : Type → Type) := ExceptT Stop (StateT Output m)

namespace Command

variable {m : Type → Type} [Monad m]

/-! ### Printing -/

def orBreak {ε α : Type} (cause : ε → Breakdown) (x : Except ε α) : Running m α :=
  ExceptT.mk (pure (x.mapError fun e => .broken (cause e)))

/-- The two places to print to. -/
inductive Stream where
  | results
  | errors
deriving DecidableEq, Repr

def write (s : Stream) (text : String) : Running m Unit :=
  modify fun o =>
    match s with
    | .results => { o with results := o.results ++ text }
    | .errors => { o with errors := o.errors ++ text }

/-- Prints a text as it is. -/
def say (text : String) : Running m Unit := write .results (text ++ "\n")

variable (p : Place m)

/-- Prints a marked text. -/
def display (s : Stream) (text : String) : Running m Unit := do
  write s (Screen.printed p.columns (← orBreak .mark (Screen.marked p.lexicon text)))

/-! ### Settings -/

def noting {ε α : Type} (stop : ε → Stop) (x : ExceptT ε (StateT (List Notice) m) α) : Running m α := do
  let (result, notices) ← (x.run.run [] : m _)
  modify fun o => { o with notices := o.notices ++ notices }
  ExceptT.mk (pure (result.mapError stop))

/-- Settings with values that do not suit them are complained about; a reader that fails breaks the command off. -/
def settingsStop (f : Settings.Fault) : Stop :=
  match f with
  | .noText _ => .usage f.message
  | .badOption .. => .usage f.message
  | .gap _ => .broken (.settings f)
  | .unwritable _ => .broken (.settings f)

def setStop : Settings.SetFault → Stop
  | .store f => settingsStop f
  | f => .usage f.message

/-- The saved options with choices made for the command. -/
def optionsFor (c : Choices) : Running m GraphOptions := do
  let o ← noting settingsStop (Settings.load .toml p.host p.settingsPath)
  ExceptT.mk (pure ((o.replace c.entries).mapError fun f => .usage f.message))

def runShowSettings : Running m Unit := do
  let o ← noting settingsStop (Settings.load .toml p.host p.settingsPath)
  say ("Config file: " ++ p.settingsPath)
  for key in GraphOptions.Key.all do
    let value := match o.get key with
      | .bool true => "true"
      | .bool false => "false"
      | v => v.shown
    say ("  " ++ key.name ++ " = " ++ value)

def runSetSetting (name word : String) : Running m Unit := do
  let o ← noting setStop (Settings.changed .toml p.host p.settingsPath name word)
  if ← noting settingsStop (Settings.save .toml p.host p.settingsPath o) then
    say ("Set " ++ name ++ " = " ++ word)
  else
    display p .errors ("[red]Could not write " ++ p.settingsPath ++ "[/red]")
    throw (.exit 1)

/-! ### Changes -/

def isGiven (commit : Option String) : Bool := commit.any fun c => !c.isEmpty

/-- The text of a patch. An empty name of a commit counts as none. -/
def patchText (o : Origin) : Running m String := do
  match o.patch with
  | some path => orBreak .file (← (p.host.readText (Path.plain path) : m _))
  | none =>
    let repository : Repository := { directory := Path.plain o.directory }
    let answer ← (match o.commit with
      | some commit => if commit.isEmpty then repository.allChanges p.host else repository.changesOf p.host commit
      | none => repository.allChanges p.host : m _)
    match answer with
    | .ok text => return text
    | .error f =>
      display p .errors ("[red]Git error:[/red] " ++ f.message)
      throw (.exit 1)

/-- Reads sources: with a patch and no commit from a directory, else from a repository. -/
def sourceText (o : Origin) (path : String) (revision : Option String) : m (Except SourceFault String) :=
  let directory := Path.plain o.directory
  if o.patch.isSome && !isGiven o.commit then p.host.readUnder directory path
  else Repository.read p.host { directory } path revision

def complainOfPatch {α : Type} (f : Patch.Fault) : Running m α := do
  display p .errors ("[red]Could not parse diff:[/red] " ++ (Patch.Failure.malformed f).message)
  throw (.exit 1)

def runRanges (o : Origin) : Running m Unit := do
  match Patch.read (← patchText p o) with
  | .error (.malformed f) => complainOfPatch p f
  | .error (.badHunk f) => throw (.broken (.hunk f))
  | .ok diffs =>
    let files := ChangedFile.ofDiffs diffs
    if files.isEmpty then say "No changes to analyze."
    for f in files do
      let mark := if isParseable f.path then " " else "-"
      say (mark ++ " " ++ f.path ++ ": " ++ ", ".intercalate (f.ranges.map (·.text)))

/-! ### Graphs -/

def changedMark (changed : Bool) : String := if changed then "[yellow]●[/yellow]" else ""

def location (s : Symbol) : String := if s.kind = .external then s.path else s.path ++ ":" ++ s.range.text

def graphTable (g : CallGraph) : Screen.Table where
  title := "Call graph"
  columns := [⟨"Function", .left⟩, ⟨"Kind", .left⟩, ⟨"Location", .left⟩, ⟨"Changed", .center⟩, ⟨"Calls", .right⟩,
    ⟨"Called by", .right⟩]
  rows := g.nodes.map fun n =>
    [n.symbol.name, n.symbol.kind.word, location n.symbol, changedMark n.symbol.changed, toString n.calls.length,
      toString n.calledBy.length]

/-- The name of the node with an id, of the last one if there are several. -/
def nameOf (g : CallGraph) (id : String) : String :=
  ((g.nodes.reverse.find? (·.id == id)).map (·.symbol.name)).getD ""

def edgeLine (g : CallGraph) (e : GraphEdge) : String :=
  let arrow := if e.external then "⇢" else "→"
  s!"  {nameOf g e.source} {arrow} {nameOf g e.target}  [dim](line {e.call.line})[/dim]"

def showGraph (g : CallGraph) : Running m Unit := do
  write .results (← orBreak .mark ((graphTable g).printed p.lexicon p.columns))
  for e in g.edges do display p .results (edgeLine g e)

/-- Prints a text, or writes it to a file and says so. -/
def emit (text : String) : Option String → Running m Unit
  | none => say text
  | some path => do
    orBreak .file (← (p.host.write (Path.plain path) (Text.Utf8.encode text) : m _))
    display p .errors ("Wrote " ++ Path.plain path)

/-- Tells what stands in the way of a graph. -/
def remarks (r : Report) : List String :=
  r.skipped.map ("[yellow]Skipped unreadable file:[/yellow] " ++ ·) ++
  (if !r.hasChanges then ["No changes to analyze."]
    else if r.parseableFiles = 0 then [s!"No TypeScript/JavaScript files changed ({r.changedFiles} changed file(s))."]
    else [])

def cappedRemark (g : CallGraph) : String :=
  s!"[yellow]Graph capped:[/yellow] showing {g.nodes.length} of {g.total} functions and {g.edges.length} edges."

def showReport (r : Report) (format : GraphFormat) (output : Option String) : Running m Unit := do
  let aside : Stream := if format = .table then .results else .errors
  if let some f := r.error then complainOfPatch p f
  for text in remarks r do display p aside text
  match format with
  | .json => emit p (← orBreak .json r.graph.toJson) output
  | .dot => emit p r.graph.toDot output
  | .table =>
    if !r.graph.nodes.isEmpty then showGraph p r.graph
    else if r.parseableFiles ≠ 0 then display p aside "No functions found in the changed lines."
  if r.graph.capped then display p aside (cappedRemark r.graph)

def runGraph (o : Origin) (c : Choices) (format : GraphFormat) (output : Option String) : Running m Unit := do
  let options ← optionsFor p c
  let patch ← patchText p o
  let analyzer : Analyzer m SourceFault UnsupportedPath := ⟨options, sourceText p o, SourceFile.parse⟩
  let answer ← orBreak .hunk (← (analyzer.analyzePatch [] patch o.commit : m _))
  modify fun out => { out with notices := out.notices ++ answer.notices }
  showReport p answer.report format output

/-! ### Functions of a file -/

def symbolTable (path : String) (ss : List Symbol) : Screen.Table where
  title := path
  columns := [⟨"Name", .left⟩, ⟨"Kind", .left⟩, ⟨"Lines", .left⟩, ⟨"Changed", .center⟩, ⟨"Signature", .left⟩]
  rows := ss.map fun s => [s.name, s.kind.word, s.range.text, changedMark s.changed, s.signature]

def showSnippet (s : Symbol) : Running m Unit := do
  write .results (← orBreak .mark (Screen.rule p.lexicon p.columns s.name))
  write .results (Screen.printed p.columns (Screen.untagged p.lexicon s.snippet))

def unsupportedText (path : String) : String :=
  let suffix := Path.suffix path
  "Unsupported file type: " ++ (if suffix.isEmpty then Path.name path else suffix)

def runSymbols (file : String) (changed : List String) (limit : Option Int) (snippets : Bool) : Running m Unit := do
  let path := Path.plain file
  if !isParseable (Path.name path) then throw (.usage (some (unsupportedText path)))
  let ranges ← ExceptT.mk (pure ((changed.mapM LineRange.read).mapError fun u => .usage u.message))
  let options ← optionsFor p { maxSnippetLines := limit }
  let source ← orBreak .path (SourceFile.parse (← orBreak .file (← (p.host.readText path : m _))) path)
  let symbols ← orBreak .range (symbolsOf source ranges options.maxSnippetLines)
  if symbols.isEmpty then say "No functions found."
  else
    write .results (← orBreak .mark ((symbolTable path symbols).printed p.lexicon p.columns))
    if snippets then
      for s in symbols do showSnippet p s

/-! ### All commands -/

/-- Whether the files and directories that a command names are there. -/
def hasPlaces (host : Host m) : Command → m Bool
  | .graph o _ _ _ => ofOrigin o
  | .ranges o => ofOrigin o
  | .symbols path .. => do return (← host.kind path) == some .file
  | _ => return true
where
  ofOrigin (o : Origin) : m Bool := do
    let directory ← host.kind o.directory
    match o.patch with
    | none => return directory == some .directory
    | some path => return directory == some .directory && (← host.kind path) == some .file

def run : Command → Running m Unit
  | .version => say versionText
  | .graph o c format output => runGraph p o c format output
  | .ranges o => runRanges p o
  | .symbols path changed limit snippets => runSymbols p path changed limit snippets
  | .showSettings => runShowSettings p
  | .setSetting name word => runSetSetting p name word

/-- Runs the command that words stand for. -/
def runWords (words : List String) : m (Except Stop Unit × Output) := do
  match read? words with
  | none => return (.error (.usage none), {})
  | some c =>
    if ← c.hasPlaces p.host then (c.run p).run.run {}
    else return (.error (.usage none), {})

end Command

end ChangeGraph
