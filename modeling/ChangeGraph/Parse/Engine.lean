import ChangeGraph.Parse.Stack

/-! # Following all readings

The parser moves every strand over the next token. Where a state allows several actions, the strand splits; where
readings meet again, the better one is kept. Text that fits no rule is skipped, or a missing token is assumed, at the
least cost; strands that cost clearly more than another one are dropped. -/

namespace ChangeGraph.Parse

open ChangeGraph.Grammar

def maxStrands : Nat := 6
def maxStrandOverflow : Nat := 4
def maxCostDifference : Nat := 18 * costOfSkippedTree

/-- The last token read, with the state it was read for. -/
structure LastToken where
  state : Nat
  token : Tree

structure Run where
  stack : Stack
  auto : Automaton
  finished : Option Tree := none
  accepted : Nat := 0
  last : Option LastToken := none

abbrev RunM := StateM Run

namespace RunM

def auto {α : Type} (x : Automaton.M α) : RunM α := fun ⟨stack, auto, finished, accepted, last⟩ =>
  let (a, auto) := x auto
  (a, ⟨stack, auto, finished, accepted, last⟩)

def onStack (f : Stack → Stack) : RunM Unit := fun ⟨stack, auto, finished, accepted, last⟩ =>
  ((), ⟨f stack, auto, finished, accepted, last⟩)

def withStack {α : Type} (f : Stack → α × Stack) : RunM α := fun ⟨stack, auto, finished, accepted, last⟩ =>
  let (a, stack) := f stack
  (a, ⟨stack, auto, finished, accepted, last⟩)

def stack : RunM Stack := return (← get).stack

def strandCount : RunM Nat := return (← get).stack.strands.size

/-- Joins strand `w` into `v` if they fit. -/
def tryMerge (tb : Tables) (v w : Nat) : RunM Bool := withStack fun s =>
  if s.canMerge v w then (true, s.join tb v w) else (false, s)

end RunM

open RunM

/-! ### Comparing strands -/

structure Standing where
  cost : Nat
  progress : Nat
  weight : Int
  failing : Bool

inductive Preference where
  | takeLeft
  | preferLeft
  | neither
  | preferRight
  | takeRight
deriving BEq

def Standing.compare (a b : Standing) : Preference :=
  if !a.failing && b.failing then
    if a.cost < b.cost then .takeLeft else .preferLeft
  else if a.failing && !b.failing then
    if b.cost < a.cost then .takeRight else .preferRight
  else if a.cost < b.cost then
    if (b.cost - a.cost) * (1 + a.progress) > maxCostDifference then .takeLeft else .preferLeft
  else if b.cost < a.cost then
    if (a.cost - b.cost) * (1 + b.progress) > maxCostDifference then .takeRight else .preferRight
  else if a.weight > b.weight then .preferLeft
  else if b.weight > a.weight then .preferRight
  else .neither

/-- How a strand stands against the others. -/
def standing (v : Nat) : RunM Standing := do
  onStack (·.settle v)
  let s ← stack
  let paused := (s.strand v).isPaused
  return {
    cost := s.cost v + (if paused then costOfSkippedTree else 0)
    progress := s.progress v
    weight := (s.top v).weight
    failing := paused || s.state v == lost }

/-- Whether another strand makes a continuation of this one at the given cost pointless. -/
def outdone (v : Nat) (failing : Bool) (cost : Nat) : RunM Bool := do
  if let some t := (← get).finished then
    if t.cost ≤ cost then return true
  onStack (·.settle v)
  let s ← stack
  let mine : Standing := ⟨cost, s.progress v, (s.top v).weight, failing⟩
  let here := (s.place v).offset
  for i in [0:s.strands.size] do
    if i != v && (s.strand i).isActive && (s.place i).offset ≥ here then
      match mine.compare (← standing i) with
      | .takeRight => return true
      | .preferRight => if s.canMerge i v then return true
      | _ => pure ()
  return false

/-! ### Reducing and accepting -/

/-- Splits off the extras at the end. -/
def splitTrailing (trees : List Tree) : List Tree × List Tree :=
  let back := trees.reverse
  ((back.dropWhile Tree.extra).reverse, (back.takeWhile Tree.extra).reverse)

/-- Replaces the newest parts of a strand by one node, along every path. Gives the first new strand, if one is left
over after joining. -/
def reduce (l : Language) (v : Nat) (r : Reduction) : RunM (Option Nat) := do
  let tb := l.tables
  let before ← strandCount
  let groups ← withStack fun s =>
    let (s, groups) := s.pop v r.size
    (groups, s)
  let halted := ((← stack).strands.filter Strand.isHalted).size
  let mut removed := 0
  for (given, ways) in groups do
    let w := given - removed
    if w > maxStrands + maxStrandOverflow + halted then
      onStack (·.remove w)
      removed := removed + 1
    else
      let s ← stack
      let here := s.place w
      let build (trees : List Tree) : Tree × List Tree :=
        let (inner, trailing) := splitTrailing trees
        (Tree.node tb (.symbol r.lhs) r.labels here inner, trailing)
      let (node, trailing) := match ways with
        | [] => build []
        | first :: others => others.foldl (fun best trees =>
            let new := build trees
            if best.1.prefersSecond new.1 then new else best) (build first)
      let next ← RunM.auto (Automaton.next tb (s.state w) r.lhs)
      onStack fun s =>
        let s := s.push tb w (some (node.addWeight r.weight)) next
        trailing.foldl (fun s t => s.push tb w (some t) next) s
      for j in [0:w] do
        if j != v then
          if ← tryMerge tb j w then
            removed := removed + 1
            break
  return if (← strandCount) > before then some before else none

/-- The whole text as one tree: the children of the last part that is no extra, with what stands around it. -/
def rootOf (tb : Tables) (here : Cursor) (trees : List Tree) : Option Tree :=
  let (upTo, trailing) := splitTrailing trees
  match upTo.reverse with
  | [] => none
  | t :: before =>
    some (Tree.node tb t.head t.info.labels here (before.reverse ++ t.children ++ trailing))

def accept (l : Language) (v : Nat) (token : Tree) : RunM Unit := do
  let tb := l.tables
  onStack fun s => s.push tb v (some token) initial
  let s ← stack
  for p in s.pathsToStart v do
    if let some root := rootOf tb (s.place v) p.trees then
      modify fun r =>
        let better := match r.finished with
          | some old => old.prefersSecond root
          | none => true
        { r with finished := if better then some root else r.finished, accepted := r.accepted + 1 }
  onStack (·.halt v)

/-! ### Recovering from errors -/

/-- Reductions a state may make, for one token or for any, and whether it can take one. -/
def possible (tb : Tables) (state : Nat) (tokens : List Nat) : RunM (List Reduction × Bool) := do
  let mut found : Array Reduction := #[]
  let mut takes := false
  for k in tokens do
    for a in ← RunM.auto (Automaton.actions tb state k) do
      match a with
      | .shift repeated => if !repeated then takes := true
      | .recover => takes := true
      | .reduce r =>
        if r.size > 0 && !found.any fun o => o.lhs == r.lhs && o.size == r.size then found := found.push r
      | _ => pure ()
  return (found.toList, takes)

/-- Bound on rounds of forced reductions. -/
def reductionRounds : Nat := 1000

/-- Makes every reduction that some token would allow, or that the given token allows; the end of the text counts as
any token. Says whether the token can then be taken by a strand. -/
def reduceAll (l : Language) (start : Nat) (wanted : Option Nat) : RunM Bool := do
  let tb := l.tables
  let token := wanted.filter (· != 0)
  let tokens := match token with
    | some k => [k]
    | none => (List.range tb.terminals).drop 1
  let initialCount ← strandCount
  let mut takes := false
  let mut v := start
  for i in [0:reductionRounds] do
    let count ← strandCount
    if v ≥ count then break
    let mut merged := false
    for j in [initialCount:v] do
      if ← tryMerge tb j v then
        merged := true
        break
    if merged then continue
    let (reductions, here) ← possible tb ((← stack).state v) tokens
    let mut last : Option Nat := none
    for r in reductions do
      last ← reduce l v r
    if here then takes := true
    else if let some w := last then
      if i < maxStrands then
        onStack (·.renumber w v)
        continue
      else if token.isSome then onStack (·.remove v)
    else if token.isSome then onStack (·.remove v)
    v := if v == start then count else v + 1
  return takes

/-- Goes back to an earlier state and keeps what lies above it as an error. -/
def fallBack (l : Language) (v depth goal : Nat) : RunM Bool := do
  let tb := l.tables
  let groups ← withStack fun s =>
    let (s, groups) := s.pop v depth
    (groups, s)
  let mut done := false
  for (w, ways) in groups do
    let s ← stack
    if s.state w != goal then onStack (·.halt w)
    else
      let trees := ways.headD []
      let f := s.top w
      let (below, skippedBefore) := match f.links.find? fun k => (k.tree.map Tree.isError).getD false with
        | some ⟨k, some t⟩ => (k, t.children)
        | _ => ((s.strand w).frame, [])
      onStack fun s => s.modifyStrand w fun h => { h with frame := below }
      let (inner, trailing) := splitTrailing (skippedBefore ++ trees)
      if !inner.isEmpty then
        let e := (Tree.node tb .error #[] (s.place w) inner).withExtra true
        onStack fun s => s.push tb w (some e) goal
      onStack fun s => trailing.foldl (fun s t => s.push tb w (some t) goal) s
      done := true
  return done

/-- Removes strands from the given one on that are no longer active. -/
def dropInactiveFrom (first : Nat) : RunM Unit :=
  onStack fun s =>
    let kept := s.strands.toList.take first ++ (s.strands.toList.drop first).filter Strand.isActive
    { s with strands := kept.toArray }

/-- Handles a token in the lost state: goes back to an earlier state that can use it, and also skips it. -/
def recover (l : Language) (v : Nat) (token : Tree) : RunM Unit := do
  let tb := l.tables
  onStack (·.settle v)
  let s ← stack
  let count := s.strands.size
  let here := s.place v
  let progressed := s.progress v > 0
  let cost := s.cost v
  let mut recovered := false
  if let some k := token.symbol? then
    for e in (s.strand v).fallbacks.getD [] do
      if e.state == lost || e.place.offset == here.offset then continue
      let joins := (List.range count).any fun j => s.state j == e.state && (s.place j).offset == here.offset
      if joins then continue
      let newCost := cost + (here.offset - e.place.offset) * costOfSkippedByte +
        (here.row - e.place.row) * costOfSkippedRow
      if ← outdone v false newCost then break
      if !(← RunM.auto (Automaton.actions tb e.state k)).isEmpty then
        if ← fallBack l v (if progressed then e.depth + 1 else e.depth) e.state then
          recovered := true
          break
  dropInactiveFrom count
  if token.head == .symbol 0 then
    onStack fun s => s.push tb v (some (Tree.node tb .error #[] here [])) initial
    accept l v token
    return
  if recovered && (← strandCount) > maxStrands then
    onStack (·.halt v)
    return
  let newCost := cost + costOfSkippedTree + token.totalBytes * costOfSkippedByte + token.totalRows * costOfSkippedRow
  if ← outdone v false newCost then
    onStack (·.halt v)
    return
  let skipped := match token.symbol? with
    | some k => if tb.extras.has k then token.withExtra true else token
    | none => token
  let run := Tree.node tb .skipped #[] here [skipped]
  if progressed then
    let groups ← withStack fun s =>
      let (s, groups) := s.pop v 1
      (groups, s)
    match groups with
    | [] => onStack fun s => s.push tb v (some run) lost
    | (w, ways) :: _ =>
      onStack fun s =>
        let s := { s with strands := s.strands.shrink (w + 1) }
        let s := s.renumber w v
        s.push tb v (some (Tree.node tb .skipped #[] here (ways.headD [] ++ [run]))) lost
  else onStack fun s => s.push tb v (some run) lost

/-- Whether the state after a token would reduce on another one. -/
def reducesOn (tb : Tables) (state token : Nat) : RunM Bool := do
  match (← RunM.auto (Automaton.actions tb state token)).head? with
  | some (.reduce _) => return true
  | _ => return false

/-- Tries to go on as if one token were there that is not. -/
def assumeMissing (l : Language) (v : Nat) (token : Tree) : RunM Bool := do
  let tb := l.tables
  let some ahead := token.symbol? | return false
  let s ← stack
  let state := s.state v
  let valid := (← RunM.auto (Automaton.state state)).valid
  for k in (List.range tb.terminals).drop 1 do
    if !valid.has k then continue
    let after ← RunM.auto (Automaton.next tb state k)
    if after == lost || after == state then continue
    if !(← reducesOn tb after ahead) then continue
    let w ← withStack fun s =>
      let (s, w) := s.copy v
      (w, s.push tb w (some (Tree.absent k (s.place v))) after)
    if ← reduceAll l w (some ahead) then return true
  return false

/-- Starts recovery on a strand that cannot use a token. -/
def handleError (l : Language) (v : Nat) (token : Tree) : RunM Unit := do
  let tb := l.tables
  let before ← strandCount
  let _ ← reduceAll l v none
  let after ← strandCount
  let mut assumed := false
  for w in v :: (List.range after).drop before do
    if !assumed then assumed ← assumeMissing l w token
    onStack fun s => s.push tb w none lost
  for _ in [before:after] do
    let _ ← tryMerge tb v before
  onStack (·.recordFallbacks v)
  recover l v token

/-! ### Moving on -/

/-- Handles one token on a strand: all reductions it allows, then the token itself. -/
def settleToken (l : Language) (v : Nat) : Nat → Tree → RunM Unit
  | 0, _ => onStack (·.halt v)
  | fuel + 1, token => do
    let tb := l.tables
    let s ← stack
    let state := s.state v
    let acts ← match token.symbol? with
      | some k => RunM.auto (Automaton.actions tb state k)
      | none => pure []
    let mut reduced := false
    let mut last : Option Nat := none
    for a in acts do
      match a with
      | .shift true => pure ()
      | .shift false =>
        let next ← RunM.auto (Automaton.follow? tb state (token.symbol?.getD 0))
        onStack fun s => s.push tb v (some (token.withExtra false)) (next.getD lost)
        return
      | .extra =>
        onStack fun s => s.push tb v (some (token.withExtra true)) state
        return
      | .reduce r =>
        reduced := true
        if let some w ← reduce l v r then last := some w
      | .accept =>
        accept l v token
        return
      | .recover =>
        recover l v token
        return
    if let some w := last then
      onStack (·.renumber w v)
      settleToken l v fuel token
    else if reduced then onStack (·.halt v)
    else
      let st ← RunM.auto (Automaton.state state)
      let asWord := match token.symbol? with
        | some k => token.info.keyword && k != tb.word && !(st.reserves && tb.reserved.has k)
        | none => false
      if asWord && !(← RunM.auto (Automaton.actions tb state tb.word)).isEmpty then
        settleToken l v fuel (token.withHead (.symbol tb.word))
      else if state == lost then recover l v token
      else onStack (·.pause v token)

/-- The last token, if it lies at the given place and fits a state that sees the same contextual tokens. A word is
taken over only for the state it was read for. -/
def reusableToken (l : Language) (state : Nat) (st : State) (here : Cursor) : RunM (Option Tree) := do
  let tb := l.tables
  let some last := (← get).last | return none
  let some k := last.token.symbol? | return none
  if last.token.info.lead.offset != here.offset then return none
  let before ← RunM.auto (Automaton.state last.state)
  let sameView := before.valid &&& tb.contextualBits == st.valid &&& tb.contextualBits && before.reserves == st.reserves
  let fits := k != tb.word || (!last.token.info.keyword && last.state == state)
  if sameView && fits && !(← RunM.auto (Automaton.actions tb state k)).isEmpty then return some last.token
  return none

def advance (l : Language) (fuel v : Nat) : RunM Unit := do
  let s ← stack
  let state := s.state v
  let st ← RunM.auto (Automaton.state state)
  let here := s.place v
  match ← reusableToken l state st here with
  | some token => settleToken l v fuel token
  | none =>
    let token := nextToken l state st (s.hasAdvanced v) here
    modify fun r => { r with last := some ⟨state, token⟩ }
    settleToken l v fuel token

/-- Compares a strand with the ones before it. Gives the number of the strand that comes last of those compared. -/
def compareWithEarlier (tb : Tables) (mine : Standing) : Nat → Nat → Nat → RunM Nat
  | 0, i, _ => return i
  | fuel + 1, i, j => do
    if j ≥ i then return i
    match (← standing j).compare mine with
    | .takeLeft =>
      onStack (·.remove i)
      return i - 1
    | .preferLeft | .neither =>
      if ← tryMerge tb j i then return i - 1
      compareWithEarlier tb mine fuel i (j + 1)
    | .preferRight =>
      if ← tryMerge tb j i then return i - 1
      onStack (·.swap i j)
      compareWithEarlier tb mine fuel i (j + 1)
    | .takeRight =>
      onStack (·.remove j)
      compareWithEarlier tb mine fuel (i - 1) j

/-- Drops halted strands and clearly worse ones, joins the others, and orders them by promise. Gives the least cost of
a strand that is not failing. -/
def pruneFrom (tb : Tables) : Nat → Nat → Option Nat → RunM (Option Nat)
  | 0, _, least => return least
  | fuel + 1, i, least => do
    let s ← stack
    if i ≥ s.strands.size then return least
    if (s.strand i).isHalted then
      onStack (·.remove i)
      pruneFrom tb fuel i least
    else
      let mine ← standing i
      let least := if mine.failing then least else match least with
        | some c => some (min c mine.cost)
        | none => some mine.cost
      let last ← compareWithEarlier tb mine (s.strands.size + 1) i 0
      pruneFrom tb fuel (last + 1) least

/-- Wakes the first paused strand if no better one is active, and drops the other paused ones. -/
def wakePaused (l : Language) : Nat → Nat → Bool → Option Nat → RunM (Option Nat)
  | 0, _, _, least => return least
  | left + 1, i, moving, least => do
    let s ← stack
    match (s.strand i).status with
    | .paused token =>
      if !moving && (← get).accepted < maxStrands then
        let least := some (s.cost i)
        onStack fun s => s.modifyStrand i fun h => { h with status := .active }
        handleError l i token
        wakePaused l left (i + 1) true least
      else
        onStack (·.remove i)
        wakePaused l left i moving least
    | _ => wakePaused l left (i + 1) true least

def condense (l : Language) : RunM (Option Nat) := do
  let least ← pruneFrom l.tables (4 * ((← strandCount) + 1)) 0 none
  onStack fun s => { s with strands := s.strands.shrink maxStrands }
  wakePaused l (← strandCount) 0 false least

/-- Moves a strand on until it has passed the last place reached. -/
def advanceStrand (l : Language) (fuel v : Nat) : Nat → Nat → RunM Nat
  | 0, reached => return reached
  | n + 1, reached => do
    if !((← stack).strand v).isActive then return reached
    advance l fuel v
    let here := ((← stack).place v).offset
    if here > reached || (v > 0 && here == reached) then return here
    advanceStrand l fuel v n reached

/-- Moves all strands on, including those that arise on the way. -/
def advanceAll (l : Language) (fuel : Nat) : Nat → Nat → Nat → RunM Nat
  | 0, _, reached => return reached
  | n + 1, v, reached => do
    if v ≥ (← strandCount) then return reached
    let reached ← advanceStrand l fuel v fuel reached
    advanceAll l fuel n (v + 1) reached

def parseLoop (l : Language) (fuel : Nat) : Nat → Nat → RunM Unit
  | 0, _ => return
  | n + 1, reached => do
    let reached ← advanceAll l fuel fuel 0 reached
    let least ← condense l
    let done := match (← get).finished, least with
      | some t, some c => t.cost < c
      | some _, none => true
      | none, _ => false
    if done || (← strandCount) == 0 then return
    parseLoop l fuel n reached

/-- Steps that suffice for a text, with room to spare. -/
def stepsFor (text : String) : Nat := 200 * (text.length + 20)

/-- Parses a text. Every text has a tree; what fits no rule is in error nodes. -/
def parse (l : Language) (text : String) : Option Tree :=
  let start := Cursor.ofText text
  let run : Run := { stack := Stack.create start, auto := Automaton.create l.tables }
  let fuel := stepsFor text
  ((parseLoop l fuel fuel 0).run run).2.finished

end ChangeGraph.Parse
