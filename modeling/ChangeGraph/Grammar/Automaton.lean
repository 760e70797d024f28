import ChangeGraph.Grammar.Tables

/-! # The parsing automaton

States are sets of items with the tokens that can follow them, made when they are first reached. Where a token allows
more than one action, declared strengths and sides decide; what they leave open stays open, and the parser follows
every action. -/

namespace ChangeGraph.Grammar

/-- The state of a parser that has lost its place. -/
def lost : Nat := 0

def initial : Nat := 1

structure State where
  /-- Items reached by the symbol that led here, each with the tokens that can follow. -/
  kernel : Array (Nat × Bits)
  /-- By nonterminal: the tokens that can follow it if it starts here, zero if it cannot. -/
  opened : Array Bits
  /-- Tokens for which there is an action. -/
  valid : Bits
  /-- Reserved words are keywords here. -/
  reserves : Bool
deriving Inhabited

/-- Replaces the last `size` parts by one node. -/
structure Reduction where
  lhs : Nat
  size : Nat
  weight : Int
  labels : Array Label
deriving Inhabited

inductive Action where
  /-- Takes the token and moves on; a repeated shift only stays known, it is never taken. -/
  | shift (repeated : Bool)
  /-- Takes the token and stays. -/
  | extra
  | reduce (r : Reduction)
  | accept
  /-- Skips the token. -/
  | recover
deriving Inhabited

structure Automaton where
  states : Array State := #[]
  index : Std.HashMap (Array (Nat × Bits)) Nat := {}
  edges : Std.HashMap Nat Nat := {}
  decided : Std.HashMap Nat (List Action) := {}

/-! ### Comparing strengths -/

/-- A strength, together with the rules that bring it. -/
structure Bid where
  prec : Precedence
  symbols : List Nat

def RankedBy.covers (r : RankedBy) (c : Bid) : Bool :=
  match r with
  | .named name => c.prec == .named name
  | .symbol k => c.symbols.contains k

/-- Compares two claims by one declared order, strongest first. -/
def compareIn (order : List RankedBy) (a b : Bid) : Option Ordering :=
  go order false false
where
  go : List RankedBy → Bool → Bool → Option Ordering
    | [], _, _ => none
    | r :: rest, sawA, sawB =>
      if r.covers a then
        if sawB then some .lt else go rest true sawB
      else if r.covers b then
        if sawA then some .gt else go rest sawA true
      else go rest sawA sawB

def Bid.compare (orders : List (List RankedBy)) (a b : Bid) : Ordering :=
  match a.prec, b.prec with
  | .level x, .level y => if x != 0 || y != 0 then Ord.compare x y else byOrder
  | .level x, .none => if x != 0 then Ord.compare x 0 else byOrder
  | .none, .level y => if y != 0 then Ord.compare 0 y else byOrder
  | _, _ => byOrder
where
  byOrder : Ordering := (orders.findSome? fun o => compareIn o a b).getD .eq

/-! ### Making states -/

/-- Nonterminals that open when the kernel's next symbols are expected. -/
def openedBy (t : Tables) (kernel : Array (Nat × Bits)) : Array Bits := Id.run do
  let count := t.openings.size
  let mut wanted : Array Bits := Array.replicate count 0
  for (k, ahead) in kernel do
    let it := t.item k
    if let some x := it.next then
      if x ≥ t.terminals then
        wanted := wanted.modify (x - t.terminals) (· ||| it.follow.getD ahead)
  let mut opened : Array Bits := Array.replicate count 0
  for h : i in [0:wanted.size] do
    let follow := wanted[i]
    if follow != 0 then
      for o in t.openings.getD i #[] do
        opened := opened.modify (o.symbol - t.terminals)
          (· ||| o.follow ||| (if o.passes then follow else 0))
  return opened

def State.ofKernel (t : Tables) (kernel : Array (Nat × Bits)) : State := Id.run do
  let opened := openedBy t kernel
  let mut valid : Bits := 0
  for (k, ahead) in kernel do
    let it := t.item k
    match it.next with
    | some x =>
      valid := valid ||| t.first x
      if it.anyWord && x == t.word then valid := valid ||| Bits.single t.anyWordBit
    | none => valid := valid ||| ahead
  for (lhs, _) in t.empties do
    valid := valid ||| opened.getD (lhs - t.terminals) 0
  return {
    kernel, opened
    valid := valid ||| t.extras
    reserves := valid.has t.word && !valid.has t.anyWordBit }

namespace Automaton

abbrev M := StateM Automaton

/-- The state with the given kernel, made if it is new. -/
def stateOf (t : Tables) (kernel : Array (Nat × Bits)) : M Nat := fun a =>
  match a.index[kernel]? with
  | some s => (s, a)
  | none =>
    let s := a.states.size
    let st := State.ofKernel t kernel
    (s, { a with states := a.states.push st, index := a.index.insert kernel s })

/-- An automaton that knows only the lost state and the initial one. -/
def create (t : Tables) : Automaton :=
  let lostState : State := { kernel := #[], opened := #[], valid := t.loose ||| t.extras, reserves := false }
  let a : Automaton := { states := #[lostState] }
  (stateOf t #[(t.start, Bits.single 0)] a).2

def state (s : Nat) : M State := fun a => (a.states.getD s default, a)

/-- Joins entries for the same item in a list ordered by item. -/
def mergeKernel (items : Array (Nat × Bits)) : Array (Nat × Bits) :=
  items.foldl (fun acc (k, ahead) => match acc.back? with
    | some (k', ahead') => if k == k' then acc.pop.push (k, ahead ||| ahead') else acc.push (k, ahead)
    | none => acc.push (k, ahead)) #[]

/-- The kernel reached from a state by a symbol. -/
def successor (t : Tables) (st : State) (symbol : Nat) : Array (Nat × Bits) :=
  let moved := st.kernel.filterMap fun (k, ahead) =>
    let it := t.item k
    if it.next == some symbol then some (it.after, ahead) else none
  let opened := (t.leads.getD symbol #[]).filterMap fun (lhs, after) =>
    let ahead := st.opened.getD (lhs - t.terminals) 0
    if ahead == 0 then none else some (after, ahead)
  mergeKernel ((moved ++ opened).qsort fun x y => x.1 < y.1)

/-- The hidden symbol that a kernel does nothing but stand for, if it is such a kernel. -/
def passesTo? (t : Tables) (kernel : Array (Nat × Bits)) : Option Nat := do
  let (k, _) ← kernel[0]?
  let lhs := (t.item k).lhs
  let unit (it : Item) : Bool :=
    it.next.isNone && it.size == 1 && it.weight == 0 && it.lhs == lhs &&
      it.labels.all fun l => l.shown.isNone && l.field.isNone
  guard (t.passing.getD (lhs - t.terminals) false && lhs != t.root && kernel.all fun (k, _) => unit (t.item k))
  return lhs

/-- How many hidden symbols may be passed in a row. -/
def passDepth : Nat := 8

/-- The kernel a symbol leads to, hidden symbols of one part passed over. -/
def settledSuccessor (t : Tables) (st : State) : Nat → Nat → Array (Nat × Bits)
  | 0, symbol => successor t st symbol
  | depth + 1, symbol =>
    let kernel := successor t st symbol
    match passesTo? t kernel with
    | some lhs => settledSuccessor t st depth lhs
    | none => kernel

/-- Where a symbol leads from a state, if the state knows it. -/
def follow? (t : Tables) (s symbol : Nat) : M (Option Nat) := do
  let key := s * t.infos.size + symbol
  match (← get).edges[key]? with
  | some s' => return some s'
  | none =>
    let kernel := settledSuccessor t (← state s) passDepth symbol
    if kernel.isEmpty then return none
    let s' ← stateOf t kernel
    modify fun a => { a with edges := a.edges.insert key s' }
    return some s'

/-! ### Deciding actions -/

/-- Reductions that survive comparison with each other, and what they bid. -/
structure Candidates where
  items : List Item := []
  bid : Bid := ⟨.none, []⟩
  left : Bool := false
  right : Bool := false
  neither : Bool := false

def Candidates.add (orders : List (List RankedBy)) (c : Candidates) (it : Item) : Candidates :=
  let mark (c : Candidates) : Candidates :=
    { c with
      items := c.items ++ [it]
      bid := ⟨it.prec, if c.bid.symbols.contains it.lhs then c.bid.symbols else it.lhs :: c.bid.symbols⟩
      left := c.left || it.side == some .left
      right := c.right || it.side == some .right
      neither := c.neither || it.side == none }
  if c.items.isEmpty then mark c
  else match Bid.compare orders ⟨it.prec, [it.lhs]⟩ c.bid with
    | .gt => mark {}
    | .eq => mark c
    | .lt => c

/-- Reads the choice between taking a token and reducing. -/
inductive Verdict where
  | both
  | onlyShift
  | onlyReduce
  | repeatedShift

def decideShift (t : Tables) (shifting completed : List Item) (c : Candidates) : Verdict :=
  let involved := shifting ++ completed
  let sameHelper := match involved with
    | [] => false
    | it :: rest => (t.info it.lhs).helper && rest.all fun o => o.lhs == it.lhs
  if sameHelper then .repeatedShift
  else
    let results := shifting.map fun it => Bid.compare t.orders ⟨it.prec, [it.lhs]⟩ c.bid
    let more := results.contains .gt
    let less := results.contains .lt
    if more && !less then .onlyShift
    else if less && !more then .onlyReduce
    else if !less && !more then
      match c.left, c.neither, c.right with
      | true, false, false => .onlyReduce
      | false, false, true => .onlyShift
      | _, _, _ => .both
    else .both

def Item.reduction (t : Tables) (it : Item) : Action :=
  if it.lhs == t.root then .accept else .reduce ⟨it.lhs, it.size, it.weight, it.labels⟩

/-- What a state does with a token, reductions first. -/
def decide (t : Tables) (st : State) (token : Nat) : List Action :=
  let all := st.kernel.toList.map fun (k, ahead) => (t.item k, ahead)
  let empty := t.empties.filterMap fun (lhs, k) =>
    if (st.opened.getD (lhs - t.terminals) 0).has token then some (t.item k) else none
  let completed := (all.filterMap fun (it, ahead) =>
    if it.next.isNone && Bits.has ahead token then some it else none) ++ empty
  let expecting := all.filterMap fun (it, _) => match it.next with
    | some x => if (t.first x).has token then some it else none
    | none => none
  let c := completed.foldl (Candidates.add t.orders) {}
  let reductions := c.items.map (Item.reduction t)
  let actions :=
    if expecting.isEmpty then reductions
    else if reductions.isEmpty then [.shift false]
    else match decideShift t (expecting.filter (·.dot > 0)) completed c with
      | .both => reductions ++ [.shift false]
      | .onlyShift => [.shift false]
      | .onlyReduce => reductions
      | .repeatedShift => reductions ++ [.shift true]
  if actions.isEmpty && t.extras.has token then [.extra] else actions

/-- What the parser may do with a token in a state. -/
def actions (t : Tables) (s token : Nat) : M (List Action) := do
  if s == lost then
    if t.extras.has token then return [.extra]
    if t.loose.has token then return [.recover]
    return []
  let key := s * t.infos.size + token
  match (← get).decided[key]? with
  | some as => return as
  | none =>
    let st ← state s
    let as := if st.valid.has token then decide t st token else []
    modify fun a => { a with decided := a.decided.insert key as }
    return as

/-- The state after a symbol; the lost state if the symbol does not fit. -/
def next (t : Tables) (s symbol : Nat) : M Nat := do
  if t.isTerminal symbol then
    match (← actions t s symbol).getLast? with
    | some (.shift _) => return (← follow? t s symbol).getD lost
    | some .extra => return s
    | _ => return lost
  else return (← follow? t s symbol).getD lost

end Automaton

end ChangeGraph.Grammar
