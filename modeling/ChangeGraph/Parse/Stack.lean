import ChangeGraph.Parse.Lexer

/-! # Stacks with shared parts

Several readings of a text are followed at once. Each is a strand, whose frames lead back to the beginning; strands
that reach the same state at the same place are joined, so that a frame may have several links. -/

namespace ChangeGraph.Parse

open ChangeGraph.Grammar

structure Link where
  frame : Nat
  /-- None marks the place where the parser lost its way. -/
  tree : Option Tree
deriving Inhabited

structure Frame where
  state : Nat
  place : Cursor
  links : List Link := []
  /-- Nodes pushed so far. -/
  count : Nat := 0
  cost : Nat := 0
  weight : Int := 0
deriving Inhabited

inductive Status where
  | active
  /-- Waiting, with the token that did not fit. -/
  | paused (token : Tree)
  | halted
deriving Inhabited

/-- A state that lies below the place where the parser lost its way. -/
structure Fallback where
  place : Cursor
  depth : Nat
  state : Nat

structure Strand where
  frame : Nat
  countAtError : Nat := 0
  status : Status := .active
  fallbacks : Option (List Fallback) := none
deriving Inhabited

def Strand.isActive (s : Strand) : Bool :=
  match s.status with
  | .active => true
  | _ => false

def Strand.isPaused (s : Strand) : Bool :=
  match s.status with
  | .paused _ => true
  | _ => false

def Strand.isHalted (s : Strand) : Bool :=
  match s.status with
  | .halted => true
  | _ => false

structure Stack where
  frames : Array Frame := #[]
  strands : Array Strand := #[]
deriving Inhabited

namespace Stack

def maxLinks : Nat := 8
def maxPaths : Nat := 64
def maxFallbackDepth : Nat := 16

def create (start : Cursor) : Stack :=
  { frames := #[{ state := initial, place := start }], strands := #[{ frame := 0 }] }

def frame (s : Stack) (k : Nat) : Frame := s.frames.getD k default

def strand (s : Stack) (v : Nat) : Strand := s.strands.getD v default

/-- The newest frame of a strand. -/
def top (s : Stack) (v : Nat) : Frame := s.frame (s.strand v).frame

def state (s : Stack) (v : Nat) : Nat := (s.top v).state

def place (s : Stack) (v : Nat) : Cursor := (s.top v).place

def modifyStrand (s : Stack) (v : Nat) (f : Strand → Strand) : Stack :=
  { s with strands := s.strands.modify v f }

def push (tb : Tables) (s : Stack) (v : Nat) (tree : Option Tree) (state : Nat) : Stack :=
  let below := (s.strand v).frame
  let f := s.frame below
  let new : Frame := match tree with
    | none => { f with state, links := [⟨below, none⟩] }
    | some t =>
      { state
        place := t.info.stop
        links := [⟨below, some t⟩]
        count := f.count + t.progress tb
        cost := f.cost + t.cost
        weight := f.weight + t.weight }
  let id := s.frames.size
  let s := { s with frames := s.frames.push new }
  s.modifyStrand v fun h =>
    { h with frame := id, countAtError := if tree.isNone then new.count else h.countAtError }

def halt (s : Stack) (v : Nat) : Stack := s.modifyStrand v fun h => { h with status := .halted }

def pause (s : Stack) (v : Nat) (token : Tree) : Stack :=
  s.modifyStrand v fun h => { h with status := .paused token, countAtError := (s.top v).count }

def remove (s : Stack) (v : Nat) : Stack := { s with strands := s.strands.eraseIdxIfInBounds v }

/-- Puts strand `v` in the place of strand `w`, which comes before it. -/
def renumber (s : Stack) (v w : Nat) : Stack :=
  if v == w then s
  else
    let new := s.strand v
    let old := s.strand w
    let kept := if new.fallbacks.isSome then new.fallbacks else old.fallbacks
    { s with strands := (s.strands.setIfInBounds w { new with fallbacks := kept }).eraseIdxIfInBounds v }

def swap (s : Stack) (v w : Nat) : Stack := { s with strands := s.strands.swapIfInBounds v w }

/-- A copy of a strand at the end of the list. -/
def copy (s : Stack) (v : Nat) : Stack × Nat :=
  ({ s with strands := s.strands.push { s.strand v with fallbacks := none } }, s.strands.size)

/-- A strand that was cut back counts its progress from where it stands now. -/
def settle (s : Stack) (v : Nat) : Stack :=
  let count := (s.top v).count
  s.modifyStrand v fun h => { h with countAtError := min h.countAtError count }

/-- Nodes pushed since the parser last lost its way. -/
def progress (s : Stack) (v : Nat) : Nat := (s.top v).count - (s.strand v).countAtError

def cost (s : Stack) (v : Nat) : Nat :=
  let f := s.top v
  let lostHere := f.state == lost && ((f.links.head?.map (·.tree.isNone)).getD false)
  f.cost + (if (s.strand v).isPaused || lostHere then costOfRecovery else 0)

/-- Whether text was consumed since the parser last lost its way. -/
def hasAdvanced (s : Stack) (v : Nat) : Bool :=
  let f := s.top v
  f.cost == 0 || go f s.frames.size
where
  go (f : Frame) : Nat → Bool
    | 0 => false
    | n + 1 => match f.links.head? with
      | some ⟨below, some t⟩ =>
        if t.totalBytes > 0 then true
        else if f.count > (s.strand v).countAtError && t.cost == 0 then go (s.frame below) n
        else false
      | _ => false

/-! ### Joining -/

/-- Adds a link to a frame; equal links and links to joinable frames are merged. -/
def addLink (tb : Tables) : Nat → Stack → Nat → Link → Stack
  | 0, s, _, _ => s
  | fuel + 1, s, k, link =>
    if link.frame == k then s
    else
      let f := s.frame k
      let other := s.frame link.frame
      let total := other.weight + ((link.tree.map Tree.weight).getD 0)
      let alike (l : Link) : Bool := match l.tree, link.tree with
        | none, none => true
        | some a, some b => a.similar b
        | _, _ => false
      let same (l : Link) : Bool := alike l && l.frame == link.frame
      let joins (l : Link) : Bool :=
        let g := s.frame l.frame
        alike l && g.state == other.state && g.place.offset == other.place.offset && g.cost == other.cost
      match f.links.find? fun l => same l || joins l with
      | some l =>
        if same l then
          let better := ((link.tree.map Tree.weight).getD 0) > ((l.tree.map Tree.weight).getD 0)
          if better then
            let links := f.links.map fun x => if same x then link else x
            { s with frames := s.frames.setIfInBounds k { f with links, weight := total } }
          else s
        else
          let s := other.links.foldl (fun s x => addLink tb fuel s l.frame x) s
          { s with frames := s.frames.modify k fun f => { f with weight := max f.weight total } }
      | none =>
        if f.links.length ≥ maxLinks then s
        else
          let count := other.count + ((link.tree.map (Tree.progress tb)).getD 0)
          let f := { f with links := f.links ++ [link], count := max f.count count, weight := max f.weight total }
          { s with frames := s.frames.setIfInBounds k f }

def canMerge (s : Stack) (v w : Nat) : Bool :=
  let a := s.top v
  let b := s.top w
  (s.strand v).isActive && (s.strand w).isActive &&
    a.state == b.state && a.place.offset == b.place.offset && a.cost == b.cost

/-- Joins strand `w` into strand `v`, which is at the same state and place. -/
def join (tb : Tables) (s : Stack) (v w : Nat) : Stack :=
  let k := (s.strand v).frame
  let links := (s.top w).links
  let s := links.foldl (fun s l => addLink tb s.frames.size s k l) s
  let count := (s.frame k).count
  let s := if s.state v == lost then s.modifyStrand v fun h => { h with countAtError := count } else s
  s.remove w

/-! ### Paths back -/

/-- A path back from a frame, with the trees it passes, oldest first. -/
structure Path where
  frame : Nat
  trees : List Tree := []
  depth : Nat := 0

/-- Follows every link of a path's frame; the first one continues in place. -/
def Path.extend (s : Stack) (p : Path) : Option Path × List Path :=
  let step (l : Link) : Path := match l.tree with
    | some t => ⟨l.frame, t :: p.trees, if t.extra then p.depth else p.depth + 1⟩
    | none => ⟨l.frame, p.trees, p.depth + 1⟩
  match (s.frame p.frame).links with
  | [] => (none, [])
  | l :: ls => (some (step l), ls.map step)

/-- One step along all paths: the finished ones, and the others one link further. -/
def stepPaths (s : Stack) (done : Path → Bool) : List Path → List Path → List Path →
    List Path × List Path × List Path
  | [], kept, more => ([], kept, more)
  | p :: ps, kept, more =>
    if done p then
      let (found, kept, more) := stepPaths s done ps kept more
      (p :: found, kept, more)
    else
      let (first, others) := p.extend s
      let room := maxPaths - (kept.length + more.length + ps.length + 1)
      stepPaths s done ps (match first with
        | some q => kept ++ [q]
        | none => kept) (more ++ others.take room)

def findPaths (s : Stack) (done : Path → Bool) : Nat → List Path → List Path
  | 0, _ => []
  | fuel + 1, ps =>
    if ps.isEmpty then []
    else
      let (found, kept, more) := stepPaths s done ps [] []
      found ++ findPaths s done fuel (kept ++ more)

/-- All paths of the given depth back from a strand. -/
def pathsOfDepth (s : Stack) (v depth : Nat) : List Path :=
  findPaths s (fun p => p.depth == depth) (s.frames.size + 1) [{ frame := (s.strand v).frame }]

/-- All paths back to the beginning. -/
def pathsToStart (s : Stack) (v : Nat) : List Path :=
  findPaths s (fun p => (s.frame p.frame).links.isEmpty) (s.frames.size + 1) [{ frame := (s.strand v).frame }]

/-- Adds a strand for each frame that paths lead to; paths to one frame stay together. -/
def addStrands (s : Stack) (v : Nat) (paths : List Path) : Stack × List (Nat × List (List Tree)) :=
  let origin := s.strand v
  paths.foldl (fun (s, groups) p =>
    match groups.find? fun g => (s.strand g.1).frame == p.frame with
    | some g => (s, groups.map fun x => if x.1 == g.1 then (x.1, x.2 ++ [p.trees]) else x)
    | none =>
      let w := s.strands.size
      let new : Strand := { frame := p.frame, countAtError := origin.countAtError }
      ({ s with strands := s.strands.push new }, groups ++ [(w, [p.trees])]))
    (s, [])

/-- Pops the given number of trees: one new strand for each frame reached, with the ways to it. -/
def pop (s : Stack) (v depth : Nat) : Stack × List (Nat × List (List Tree)) :=
  s.addStrands v (s.pathsOfDepth v depth)

/-! ### Fallbacks -/

/-- States met on the way back, nearest first, each once per depth. -/
def collectFallbacks (s : Stack) : Nat → List Path → List Fallback → List Fallback
  | 0, _, acc => acc
  | fuel + 1, ps, acc =>
    if ps.isEmpty then acc
    else
      let fitting := ps.filter fun p => p.depth ≤ maxFallbackDepth
      let acc := fitting.foldl (fun acc p =>
        let f := s.frame p.frame
        if acc.any fun e => e.depth == p.depth && e.state == f.state then acc
        else acc ++ [⟨f.place, p.depth, f.state⟩]) acc
      let (_, kept, more) := stepPaths s (fun _ => false) fitting [] []
      collectFallbacks s fuel (kept ++ more) acc

def recordFallbacks (s : Stack) (v : Nat) : Stack :=
  let found := collectFallbacks s (s.frames.size + 1) [{ frame := (s.strand v).frame }] []
  s.modifyStrand v fun h => { h with fallbacks := some found }

end Stack

end ChangeGraph.Parse
