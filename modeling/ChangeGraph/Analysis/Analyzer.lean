import ChangeGraph.Analysis.Notice
import ChangeGraph.Graph.Build
import ChangeGraph.Patch.Reader

/-! # Analysing changes

From a change and the sources to a report with the call graph. The sources are read through a function that may fail
for any path. What was found at a fixed revision is remembered and not looked for again; without a revision the
sources may change at any time, so they are always read. -/

namespace ChangeGraph

structure Report where
  graph : CallGraph := {}
  changedFiles : Nat := 0
  parseableFiles : Nat := 0
  /-- Files that could not be read. -/
  skipped : List String := []
  error : Option Patch.Fault := none
deriving DecidableEq, Repr

def Report.hasChanges (r : Report) : Bool := 0 < r.changedFiles

/-- What is remembered of an analysis. -/
structure Finding where
  graph : CallGraph
  skipped : List String
deriving DecidableEq, Repr

/-- What an analysis depends on, once the options are fixed. -/
structure Question where
  files : List ChangedFile
  revision : String
deriving DecidableEq, Repr

abbrev Memo := List (Question × Finding)

/-- How sources are had and read. -/
structure Analyzer (m : Type → Type) (ε δ : Type) where
  options : GraphOptions
  /-- The text of a file at a revision, or as it is now. -/
  read : String → Option String → m (Except ε String)
  parse : String → String → Except δ SourceFile

structure Answer where
  report : Report
  memo : Memo
  notices : List Notice := []

/-- The files whose functions can be found. -/
def parseableFiles (fs : List ChangedFile) : List ChangedFile := fs.filter (isParseable ·.path)

def report (fs : List ChangedFile) (f : Finding) : Report :=
  { graph := f.graph, changedFiles := fs.length, parseableFiles := (parseableFiles fs).length, skipped := f.skipped }

/-- The text of each path that was read. -/
def contentsOf {ε : Type} (loaded : List (String × Except ε String)) (path : String) : Option String :=
  match loaded.lookup path with
  | some (.ok s) => some s
  | _ => none

def skippedOf {ε : Type} (loaded : List (String × Except ε String)) : List String :=
  (loaded.filter fun x => !x.2.isOk).map (·.1)

def unreadNotices {ε : Type} [ToString ε] (loaded : List (String × Except ε String)) : List Notice :=
  loaded.filterMap fun (path, x) =>
    match x with
    | .ok _ => none
    | .error e => some (.unreadSource path (toString e))

def unparsedNotice {δ : Type} [ToString δ] (o : Omission δ) : Notice :=
  .unparsedSource o.path (o.fault.message toString)

namespace Analyzer

variable {m : Type → Type} [Monad m] {ε δ : Type} [ToString ε] [ToString δ] (a : Analyzer m ε δ)

/-- Reads each file once, in order. -/
def load (revision : Option String) (fs : List ChangedFile) : m (List (String × Except ε String)) :=
  fs.mapM fun f => do return (f.path, ← a.read f.path revision)

/-- Looks for the graph of parseable files. -/
def find (revision : Option String) (fs : List ChangedFile) : m (Finding × List Notice) := do
  let loaded ← a.load revision fs
  let (graph, omissions) := buildGraph a.parse a.options fs (contentsOf loaded)
  return (⟨graph, skippedOf loaded⟩, unreadNotices loaded ++ omissions.map unparsedNotice)

/-- Analyses the change that file diffs from outside describe. -/
def analyze (memo : Memo) (diffs : List RawDiff) (revision : Option String) : m Answer := do
  let fs := ChangedFile.ofDiffs (diffs.map RawDiff.valid)
  let parseable := parseableFiles fs
  match revision with
  | none =>
    let (finding, notices) ← a.find none parseable
    return ⟨report fs finding, memo, notices⟩
  | some r =>
    match memo.lookup ⟨parseable, r⟩ with
    | some finding => return ⟨report fs finding, memo, []⟩
    | none =>
      let (finding, notices) ← a.find (some r) parseable
      return ⟨report fs finding, (⟨parseable, r⟩, finding) :: memo, notices⟩

/-- Analyses the change that a patch describes. A malformed patch gives a report of the fault. -/
def analyzePatch (memo : Memo) (patch : String) (revision : Option String) : m (Except Hunk.Fault Answer) := do
  match Patch.read patch with
  | .ok diffs => return .ok (← a.analyze memo (diffs.map FileDiff.raw) revision)
  | .error (.malformed f) =>
    return .ok ⟨{ error := some f }, memo, [.badPatch (Patch.Failure.malformed f).message]⟩
  | .error (.badHunk f) => return .error f

end Analyzer

end ChangeGraph
