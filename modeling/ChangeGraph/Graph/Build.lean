import ChangeGraph.Diff.ChangedFile
import ChangeGraph.Graph.Basic
import ChangeGraph.Graph.Options
import ChangeGraph.Source.Calls
import ChangeGraph.Source.NameIndex
import ChangeGraph.Source.Symbols

/-! # The call graph around a change

The graph holds the changed functions, what they call, and what calls them, one step far. First the symbols of all
files are found, then every call of interest is resolved to a reference, and last the references are laid out as nodes
and edges within the limits. -/

namespace ChangeGraph

/-- A file with its symbols. -/
structure Extract where
  file : SourceFile
  symbols : List Symbol

/-- Why nothing was extracted from a file. -/
inductive ExtractFault (ε : Type) where
  | unreadable (e : ε)
  | backward (b : LineRange.Backward)

/-- A file that was left out, and why. -/
structure Omission (ε : Type) where
  path : String
  fault : ExtractFault ε

/-- The words for a fault, given those for an unreadable file. -/
def ExtractFault.message {ε : Type} (describe : ε → String) : ExtractFault ε → String
  | .unreadable e => describe e
  | .backward b => b.message

/-- What is known when the files have been read. -/
structure Extraction (ε : Type) where
  extracts : List Extract := []
  omissions : List (Omission ε) := []

section Extraction

variable {ε : Type} (parse : String → String → Except ε SourceFile) (contents : String → Option String)

def extractFile (budget : Int) (f : ChangedFile) (source : String) : Except (ExtractFault ε) Extract := do
  let file ← (parse source f.path).mapError ExtractFault.unreadable
  let symbols ← (symbolsOf file f.ranges budget).mapError ExtractFault.backward
  return ⟨file, symbols⟩

/-- Takes one changed file in. A path that was taken in already, that names no source or that has no content adds
nothing. -/
def Extraction.add (budget : Int) (x : Extraction ε) (f : ChangedFile) : Extraction ε :=
  if x.extracts.any (·.file.path == f.path) || !isParseable f.path then x
  else match contents f.path with
    | none => x
    | some source =>
      match extractFile parse budget f source with
      | .ok e => { x with extracts := x.extracts ++ [e] }
      | .error fault => { x with omissions := x.omissions ++ [⟨f.path, fault⟩] }

def extract (budget : Int) (fs : List ChangedFile) : Extraction ε :=
  fs.foldl (Extraction.add parse contents budget) {}

end Extraction

/-! ### References -/

/-- A call of interest: who calls, at which site, and the id of what is called. -/
structure Reference where
  caller : Symbol
  call : CallSite
  target : String
  external : Bool

/-- A function with its calls, each resolved if it can be. -/
structure Caller where
  symbol : Symbol
  calls : List (Option Symbol × CallSite)

/-- The calls of a function within its own file. -/
def callerOf (index : NameIndex) (x : Extract) (s : Symbol) : Caller :=
  ⟨s, (callsOf x.file s.range).map (index.resolve s.path)⟩

/-- All functions with their calls, in order. -/
def callersOf (index : NameIndex) (xs : List Extract) : List Caller :=
  xs.flatMap fun x => x.symbols.map (callerOf index x)

/-- A call site of a changed function as the graph shows it. -/
def shownCall (showExternal : Bool) : Option Symbol × CallSite → CallSite
  | (some _, c) => c
  | (none, c) => if showExternal then { c with target := some (externalId c.callee) } else c

/-- What a changed function calls. -/
def outgoing (showExternal : Bool) (f : Caller) : List Reference :=
  f.calls.filterMap fun (t, c) =>
    match t with
    | some s => some ⟨f.symbol, c, s.id, false⟩
    | none =>
      if showExternal then some ⟨f.symbol, shownCall showExternal (none, c), externalId c.callee, true⟩ else none

/-- The calls of an unchanged function to changed ones. -/
def incoming (f : Caller) : List Reference :=
  f.calls.filterMap fun (t, c) =>
    match t with
    | some s => if s.changed then some ⟨f.symbol, c, s.id, false⟩ else none
    | none => none

def Reference.edge (r : Reference) : GraphEdge :=
  ⟨edgeId r.caller.id r.target r.call.line, r.caller.id, r.target, r.call, r.external⟩

/-- One edge for each caller, target and line. -/
def edgesOf (rs : List Reference) : List GraphEdge := firstByKey GraphEdge.id [] (rs.map Reference.edge)

/-! ### Layout -/

/-- Elements in order of first occurrence, each once. -/
def distinct (ids : List String) : List String := firstByKey (fun s => s) [] ids

/-- What the graph is laid out from. -/
structure Plan where
  functions : List Symbol
  changed : List Caller
  forward : List Reference
  backward : List Reference

namespace Plan

def references (p : Plan) : List Reference := p.forward ++ p.backward

/-- The ids of all functions of the graph, those outside included. -/
def included (p : Plan) : List String :=
  distinct (p.changed.map (·.symbol.id) ++ p.forward.map (·.target) ++ p.backward.map (·.caller.id))

def edges (p : Plan) : List GraphEdge := edgesOf p.references

/-- The calls that the node of an id shows: all calls of a changed function, and the calls of interest of others. -/
def callsFor (p : Plan) (showExternal : Bool) (id : String) : List CallSite :=
  let own := (p.changed.reverse.find? (·.symbol.id == id)).map fun f => f.calls.map (shownCall showExternal)
  own.getD [] ++ (p.backward.filter (·.caller.id == id)).map (·.call)

/-- The callers of an id, each once. -/
def callersFor (p : Plan) (id : String) : List String :=
  distinct ((p.references.filter fun r => r.target == id && !r.external).map (·.caller.id))

def node (p : Plan) (showExternal : Bool) (s : Symbol) : GraphNode :=
  ⟨s.id, s, p.callsFor showExternal s.id, p.callersFor s.id⟩

/-- Nodes of the functions at hand, in the order of the files. -/
def ownNodes (p : Plan) (showExternal : Bool) : List GraphNode :=
  let ids := p.included
  (p.functions.filter fun s => ids.contains s.id).map (p.node showExternal)

/-- Nodes of the functions outside, in the order in which they are first called. -/
def externalNodes (p : Plan) : List GraphNode :=
  (distinct ((p.edges.filter (·.external)).map (·.target))).map fun id =>
    { id, symbol := externalSymbol (String.ofList (id.toList.drop externalMark.length)) }

/-- All nodes before any limit. -/
def allNodes (p : Plan) (showExternal : Bool) : List GraphNode :=
  p.ownNodes showExternal ++ if showExternal then p.externalNodes else []

/-- The edges that have both ends among some nodes. -/
def edgesAmong (p : Plan) (nodes : List GraphNode) : List GraphEdge :=
  let ids := nodes.map (·.id)
  p.edges.filter fun e => ids.contains e.source && ids.contains e.target

/-- The graph within the limits: nodes beyond the limit are left out with their edges, then edges beyond theirs. -/
def graph (p : Plan) (o : GraphOptions) : CallGraph :=
  let all := p.allNodes o.showExternal
  let nodes := all.take o.maxNodes
  let kept := p.edgesAmong nodes
  { nodes
    edges := kept.take o.maxEdges
    total := p.included.length
    capped := o.maxNodes < all.length || o.maxEdges < kept.length }

end Plan

/-- The plan of a graph over extracted files. -/
def plan (o : GraphOptions) (xs : List Extract) : Plan :=
  let functions := xs.flatMap (·.symbols)
  let callers := callersOf (NameIndex.ofSymbols functions) xs
  let changed := callers.filter (·.symbol.changed)
  { functions, changed
    forward := changed.flatMap (outgoing o.showExternal)
    backward := (callers.filter (!·.symbol.changed)).flatMap incoming }

/-- The call graph around the changed lines of files with the given contents, and the files left out. -/
def buildGraph {ε : Type} (parse : String → String → Except ε SourceFile) (o : GraphOptions) (fs : List ChangedFile)
    (contents : String → Option String) : CallGraph × List (Omission ε) :=
  let x := extract parse contents o.maxSnippetLines fs
  ((plan o x.extracts).graph o, x.omissions)

end ChangeGraph
