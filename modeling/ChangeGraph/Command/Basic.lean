import ChangeGraph.Command.Arguments
import ChangeGraph.Files.Path
import ChangeGraph.Text.Integer
import ChangeGraph.Value.Basic

/-! # Commands

What can be asked on the command line: the graph of a change, its ranges, the functions of a file, the settings, and
the version. -/

namespace ChangeGraph

/-- Where a change comes from: a patch, a commit, or what has changed in a directory. -/
structure Origin where
  directory : String := "."
  commit : Option String := none
  patch : Option String := none
deriving DecidableEq, Repr

inductive GraphFormat where
  | table
  | json
  | dot
deriving DecidableEq, Repr

def GraphFormat.ofWord? : String → Option GraphFormat
  | "table" => some .table
  | "json" => some .json
  | "dot" => some .dot
  | _ => none

/-- Options of graphs that are chosen for one command. -/
structure Choices where
  maxNodes : Option Int := none
  maxEdges : Option Int := none
  showExternal : Option Bool := none
  maxSnippetLines : Option Int := none
deriving DecidableEq, Repr

/-- The choices that were made, by the names of the options. -/
def Choices.entries (c : Choices) : Entries :=
  (c.maxNodes.map fun n => ("max_nodes", Value.int n)).toList ++
  (c.maxEdges.map fun n => ("max_edges", Value.int n)).toList ++
  (c.showExternal.map fun b => ("show_external", Value.bool b)).toList ++
  (c.maxSnippetLines.map fun n => ("max_snippet_lines", Value.int n)).toList

inductive Command where
  | version
  | graph (origin : Origin) (choices : Choices) (format : GraphFormat) (output : Option String)
  | ranges (origin : Origin)
  | symbols (path : String) (changed : List String) (maxSnippetLines : Option Int) (snippets : Bool)
  | showSettings
  | setSetting (name word : String)
deriving DecidableEq, Repr

namespace Command

/-! ### Options -/

inductive Key where
  | version
  | verbose
  | commit
  | patch
  | maxNodes
  | maxEdges
  | external
  | noExternal
  | maxSnippetLines
  | format
  | output
  | changed
  | snippets
deriving DecidableEq, Repr

def commonSwitches : List (Switch Key) :=
  [⟨.version, ["--version", "-V"], false⟩, ⟨.verbose, ["--verbose", "-v"], false⟩]

def originSwitches : List (Switch Key) := [⟨.commit, ["--commit", "-c"], true⟩, ⟨.patch, ["--patch", "-p"], true⟩]

def snippetSwitch : Switch Key := ⟨.maxSnippetLines, ["--max-snippet-lines"], true⟩

def graphSwitches : List (Switch Key) :=
  originSwitches ++
  [⟨.maxNodes, ["--max-nodes"], true⟩, ⟨.maxEdges, ["--max-edges"], true⟩, ⟨.external, ["--external"], false⟩,
   ⟨.noExternal, ["--no-external"], false⟩, snippetSwitch, ⟨.format, ["--format", "-f"], true⟩,
   ⟨.output, ["--output", "-o"], true⟩]

def symbolSwitches : List (Switch Key) :=
  [⟨.changed, ["--changed"], true⟩, snippetSwitch, ⟨.snippets, ["--snippets"], false⟩]

/-! ### Reading -/

/-- A limit that may be left out: an integer that is not negative. -/
def limit? (g : Given Key) (key : Key) : Option (Option Int) :=
  match g.value? key with
  | none => some none
  | some word => do
    let n ← Text.readInteger? word
    if 0 ≤ n then some (some n) else none

def origin? (g : Given Key) : Option Origin :=
  let origin (directory : String) : Origin := { directory, commit := g.value? .commit, patch := g.value? .patch }
  match g.places with
  | [] => some (origin ".")
  | [directory] => some (origin directory)
  | _ => none

def format? (g : Given Key) : Option GraphFormat :=
  match g.value? .format with
  | none => some .table
  | some word => GraphFormat.ofWord? word

/-- The last of the two words that say whether to show functions from elsewhere. -/
def showExternal? (g : Given Key) : Option Bool :=
  (g.options.filterMap fun o =>
    match o.1 with
    | .external => some true
    | .noExternal => some false
    | _ => none).getLast?

def readGraph? (words : List String) : Option Command := do
  let g ← readWords graphSwitches true {} words
  let choices : Choices :=
    { maxNodes := ← limit? g .maxNodes, maxEdges := ← limit? g .maxEdges, showExternal := showExternal? g,
      maxSnippetLines := ← limit? g .maxSnippetLines }
  return .graph (← origin? g) choices (← format? g) (g.value? .output)

def readRanges? (words : List String) : Option Command := do
  return .ranges (← origin? (← readWords originSwitches true {} words))

def readSymbols? (words : List String) : Option Command := do
  let g ← readWords symbolSwitches true {} words
  match g.places with
  | [path] => return .symbols path (g.values .changed) (← limit? g .maxSnippetLines) (g.has .snippets)
  | _ => none

/-- Reads what follows the word for the settings. -/
def readSettings? (words : List String) : Option Command := do
  let g ← readWords ([] : List (Switch Key)) false {} words
  match g.places with
  | "show" :: words =>
    match (← readWords ([] : List (Switch Key)) true {} words).places with
    | [] => return .showSettings
    | _ => none
  | "set" :: words =>
    match (← readWords ([] : List (Switch Key)) true {} words).places with
    | [name, word] => return .setSetting name word
    | _ => none
  | _ => none

/-- The command that words stand for. -/
def read? (words : List String) : Option Command := do
  let g ← readWords commonSwitches false {} words
  if g.has .version then return .version
  match g.places with
  | "graph" :: words => readGraph? words
  | "ranges" :: words => readRanges? words
  | "symbols" :: words => readSymbols? words
  | "config" :: words => readSettings? words
  | _ => none

end Command

end ChangeGraph
