import ChangeGraph.Grammar.Production
import Std.Data.HashMap
import Std.Data.HashSet

/-! # Grammar tables

Everything about a grammar that does not depend on a text: numbered symbols, first tokens, the items of its
productions, what opens when a nonterminal is expected, and the texts of its tokens. Sets of tokens are
natural numbers read as bits. -/

namespace ChangeGraph.Grammar

/-- A set of tokens: token `k` is in it when bit `k` is set. -/
abbrev Bits := Nat

namespace Bits

def single (k : Nat) : Bits := 1 <<< k

def has (b : Bits) (k : Nat) : Bool := b.testBit k

end Bits

/-- What a place of a production says about how its child is shown. -/
structure Label where
  shown : Option Alias
  field : Option String
deriving BEq, Hashable, Repr, Inhabited

/-- A production with a place marked in it. Productions that agree on everything a parser can still see from the
marked place share one item. -/
structure Item where
  lhs : Nat
  dot : Nat
  size : Nat
  weight : Int
  /-- The symbol at the marked place; none when the production is complete. -/
  next : Option Nat
  /-- The place takes any word. -/
  anyWord : Bool
  /-- The item after that symbol. -/
  after : Nat
  /-- First tokens of what stands behind that symbol; none when nothing does. -/
  follow : Option Bits
  prec : Precedence
  side : Option Side
  /-- Labels of all places. -/
  labels : Array Label
deriving Inhabited

/-- A nonterminal that opens with another one, the tokens that can follow it there, and whether what follows the
outer one can follow it too. -/
structure Opening where
  symbol : Nat
  follow : Bits
  passes : Bool

/-- Which constructs a declared order of strengths ranks. -/
inductive RankedBy where
  | named (name : String)
  | symbol (k : Nat)

structure Tables where
  infos : Array SymbolInfo
  terminals : Nat
  /-- Symbol of the whole text, around the start rule. -/
  root : Nat
  word : Nat
  keywords : Std.HashMap String Nat
  keywordBits : Bits
  /-- Literal texts that are no words, by first character. -/
  marks : Std.HashMap Nat (List (List Char × Nat))
  patterns : List (Nat × Pattern)
  contextual : Std.HashMap String Nat
  contextualBits : Bits
  extras : Bits
  reserved : Bits
  /-- Tokens recognised while looking for a place to resume. -/
  loose : Bits
  orders : List (List RankedBy)
  /-- By nonterminal: it is hidden and bears no label, so a production of one part need not be noticed. -/
  passing : Array Bool
  firsts : Array Bits
  items : Array Item
  /-- By nonterminal: what opens with it. -/
  openings : Array (Array Opening)
  /-- By symbol: nonterminals with a production that starts with it, and the item behind it. -/
  leads : Array (Array (Nat × Nat))
  /-- Nonterminals that may be empty, with the item. -/
  empties : List (Nat × Nat)
  start : Nat

namespace Tables

/-- A bit past the terminals records that a word expected next may be any word. -/
def anyWordBit (t : Tables) : Nat := t.infos.size

def info (t : Tables) (symbol : Nat) : SymbolInfo := t.infos.getD symbol default

def item (t : Tables) (k : Nat) : Item := t.items.getD k default

def first (t : Tables) (symbol : Nat) : Bits := t.firsts.getD symbol 0

def isTerminal (t : Tables) (symbol : Nat) : Bool := symbol < t.terminals

end Tables

/-! ### First tokens -/

/-- First tokens of a place, given those of each symbol. -/
def firstOfStep (anyWordBit word : Nat) (firsts : Array Bits) (st : Step) : Bits :=
  let base := firsts.getD st.symbol 0
  if st.anyWord && st.symbol == word then base ||| Bits.single anyWordBit else base

/-- One round of collecting first tokens over all productions. -/
def growFirsts (anyWordBit word terminals : Nat) (prods : Array (List Production)) (firsts : Array Bits) : Array Bits :=
  Id.run do
    let mut fs := firsts
    let mut k := terminals
    for ps in prods do
      let mut b := fs.getD k 0
      for p in ps do
        match p.steps with
        | [] => pure ()
        | st :: _ => b := b ||| firstOfStep anyWordBit word fs st
      fs := fs.setIfInBounds k b
      k := k + 1
    return fs

/-- First tokens settle after at most as many rounds as there are symbols; a dozen suffice for nested rules and
further rounds change nothing. -/
def firstSets (anyWordBit word terminals count : Nat) (prods : Array (List Production)) : Array Bits := Id.run do
  let mut fs := (Array.range count).map fun k => if k < terminals then Bits.single k else 0
  for _ in [0:count] do
    let next := growFirsts anyWordBit word terminals prods fs
    if next == fs then return fs
    fs := next
  return fs

/-! ### Openings -/

/-- All nonterminals that open with the given one, by symbol number less the number of terminals. -/
def openingsOf (anyWordBit word terminals : Nat) (prods : Array (List Production)) (firsts : Array Bits)
    (nonterminal : Nat) : Array Opening := Id.run do
  let count := prods.size
  let mut found : Array (Option Opening) := Array.replicate count none
  found := found.setIfInBounds nonterminal (some ⟨nonterminal + terminals, 0, true⟩)
  let mut queue : List Nat := [nonterminal]
  for _ in [0:count * count] do
    match queue with
    | [] => break
    | k :: rest =>
      queue := rest
      let here := (found.getD k none).getD ⟨k + terminals, 0, false⟩
      for p in prods.getD k [] do
        match p.steps with
        | st :: tail =>
          if st.symbol ≥ terminals then
            let m := st.symbol - terminals
            let (follow, passes) := match tail with
              | [] => (here.follow, here.passes)
              | nx :: _ => (firstOfStep anyWordBit word firsts nx, false)
            match found.getD m none with
            | none =>
              found := found.setIfInBounds m (some ⟨st.symbol, follow, passes⟩)
              queue := queue ++ [m]
            | some o =>
              let o' : Opening := ⟨o.symbol, o.follow ||| follow, o.passes || passes⟩
              if o'.follow != o.follow || o'.passes != o.passes then
                found := found.setIfInBounds m (some o')
                if !queue.contains m then queue := queue ++ [m]
        | [] => pure ()
  return found.filterMap id

/-! ### Items -/

/-- What a parser can still see of a production from a marked place. -/
structure ItemKey where
  lhs : Nat
  dot : Nat
  size : Nat
  weight : Int
  prec : Precedence
  side : Option Side
  behind : Nat
  ahead : Nat
deriving BEq, Hashable

/-- Numbering of items, with the shared beginnings and endings of productions. -/
structure ItemStore where
  endings : Std.HashMap (Step × Nat) Nat := {}
  beginnings : Std.HashMap (Nat × Label) Nat := {}
  keys : Std.HashMap ItemKey Nat := {}
  items : Array Item := #[]

namespace ItemStore

def ending (s : ItemStore) (k : Step × Nat) : ItemStore × Nat :=
  match s.endings[k]? with
  | some n => (s, n)
  | none =>
    let n := s.endings.size + 1
    ({ s with endings := s.endings.insert k n }, n)

def beginning (s : ItemStore) (k : Nat × Label) : ItemStore × Nat :=
  match s.beginnings[k]? with
  | some n => (s, n)
  | none =>
    let n := s.beginnings.size + 1
    ({ s with beginnings := s.beginnings.insert k n }, n)

/-- Adds all items of a production and gives the one with the first place marked. -/
def addProduction (anyWordBit word : Nat) (firsts : Array Bits) (lhs : Nat) (p : Production) (s : ItemStore) :
    ItemStore × Nat := Id.run do
  let mut s := s
  let steps := p.steps.toArray
  let labels := steps.map fun st => Label.mk st.shown st.field
  let size := steps.size
  let mut behind : Array Nat := #[0]
  for l in labels do
    let (s', k) := s.beginning (behind.back?.getD 0, l)
    s := s'
    behind := behind.push k
  let mut ahead := 0
  let mut after := 0
  for i in [0:size + 1] do
    let dot := size - i
    let here := steps[dot]?
    if let some st := here then
      let (s', k) := s.ending (st, ahead)
      s := s'
      ahead := k
    let prev := if dot == 0 then none else steps[dot - 1]?
    let prec := match prev with
      | some st => st.prec
      | none => .none
    let key : ItemKey := ⟨lhs, dot, size, p.weight, prec, prev.bind (·.side), behind.getD dot 0, ahead⟩
    match s.keys[key]? with
    | some id => after := id
    | none =>
      let id := s.items.size
      let it : Item :=
        { lhs, dot, size, weight := p.weight
          next := here.map (·.symbol)
          anyWord := (here.map (·.anyWord)).getD false
          after
          follow := steps[dot + 1]?.map (firstOfStep anyWordBit word firsts)
          prec := prec
          side := prev.bind (·.side)
          labels }
      s := { s with keys := s.keys.insert key id, items := s.items.push it }
      after := id
  return (s, after)

end ItemStore

/-- Items are ordered by progress, then by rule. -/
def Item.before (a b : Nat × Item) : Bool :=
  let (i, x) := a
  let (j, y) := b
  if x.dot != y.dot then x.dot < y.dot
  else if x.lhs != y.lhs then x.lhs < y.lhs
  else if x.weight != y.weight then x.weight < y.weight
  else if x.size != y.size then x.size < y.size
  else i < j

/-- A display kind for symbols that are never shown under their own. -/
def defaultKinds (infos : Array SymbolInfo) (prods : Array (List Production)) : Array SymbolInfo := Id.run do
  let mut plain : Std.HashMap Nat Bool := {}
  let mut shown : Std.HashMap Nat Alias := {}
  for ps in prods do
    for p in ps do
      for st in p.steps do
        match st.shown with
        | none => plain := plain.insert st.symbol true
        | some a => shown := shown.insertIfNew st.symbol a
  let mut out := infos
  for (k, a) in shown.toList do
    if !plain.contains k then
      out := out.modify k fun i => { i with kind := a.kind, visible := true, named := a.named }
  return out

/-- Nonterminals that are neither shown, nor grouping, nor labelled as a whole anywhere. -/
def passingSymbols (g : Ruleset) (infos : Array SymbolInfo) (names : Std.HashMap String Nat) (terminals : Nat)
    (prods : Array (List Production)) : Array Bool := Id.run do
  let mut relabelled : Std.HashSet Nat := {}
  for ps in prods do
    for p in ps do
      for st in p.steps do
        if st.shown.isSome then relabelled := relabelled.insert st.symbol
  let grouping : Std.HashSet Nat := Std.HashSet.ofList (g.groups.filterMap fun name => names[name]?)
  return (Array.range prods.size).map fun k =>
    let symbol := k + terminals
    !(infos.getD symbol default).visible && !grouping.contains symbol && !relabelled.contains symbol

/-! ### Assembly -/

def Tables.ofGrammar (g : Ruleset) : Tables := Id.run do
  let (plain, helpers) := unfoldRepeats g.rules
  let symbols := Symbols.ofGrammar g helpers
  let terminals := symbols.terminals
  let word := symbols.names.getD g.word 0
  let start := symbols.names.getD ((g.rules.head?.map (·.1)).getD "") 0
  let root := symbols.infos.size
  let infos := symbols.infos.push ⟨"root", false, false, false⟩
  let count := infos.size
  let prods := (productions g symbols plain helpers).push [{ steps := [{ symbol := start }] }]
  let firsts := firstSets count word terminals count prods
  let mut store : ItemStore := {}
  let mut entries : Array (Nat × Nat) := #[]
  let mut k := terminals
  for ps in prods do
    for p in ps do
      let (store', id) := store.addProduction count word firsts k p
      store := store'
      entries := entries.push (k, id)
    k := k + 1
  let order := ((Array.range store.items.size).map fun i => (i, store.items.getD i default)).qsort Item.before
  let mut rank : Array Nat := Array.replicate order.size 0
  for h : i in [0:order.size] do
    rank := rank.setIfInBounds order[i].1 i
  let items := order.map fun (_, it) => { it with after := rank.getD it.after 0 }
  let mut seen : Std.HashSet (Nat × Nat) := {}
  let mut leads : Array (Array (Nat × Nat)) := Array.replicate count #[]
  let mut empties : List (Nat × Nat) := []
  let mut startItem := 0
  for (lhs, raw) in entries do
    let id := rank.getD raw 0
    if seen.contains (lhs, id) then continue
    seen := seen.insert (lhs, id)
    let it := items.getD id default
    match it.next with
    | some x => leads := leads.modify x (·.push (lhs, it.after))
    | none => empties := (lhs, id) :: empties
    if lhs == root then startItem := id
  let literal := symbols.tokens.toList.filterMap fun (tk, id) => match tk with
    | .literal text => some (text, id)
    | .pattern _ => none
  let wordBody := ((g.patterns.find? (·.name == g.word)).map (·.body)).getD .never
  let isWord (text : String) : Bool := wordBody.longest text.toList == some text.length
  let bitsOf (names : List String) : Bits := names.foldl (fun b name => match symbols.find? name with
    | some id => b ||| Bits.single id
    | none => b) 0
  let patterns := g.patterns.filterMap fun p => (symbols.tokens[Token.pattern p.name]?).map fun id => (id, p)
  let tight := patterns.foldl (fun b (id, p) => if p.loose then b else b ||| Bits.single id) 0
  let all : Bits := (1 <<< terminals) - 1
  return {
    infos := defaultKinds infos prods
    terminals, root, word
    keywords := Std.HashMap.ofList (literal.filter fun (text, _) => isWord text)
    keywordBits := literal.foldl (fun b (text, id) => if isWord text then b ||| Bits.single id else b) 0
    marks := (literal.filter fun (text, _) => !isWord text).foldl (fun m (text, id) => match text.toList with
      | [] => m
      | c :: cs => m.insert c.toNat ((c :: cs, id) :: m.getD c.toNat [])) {}
    patterns
    contextual := Std.HashMap.ofList (g.contextual.filterMap fun name => (symbols.find? name).map fun id => (name, id))
    contextualBits := bitsOf g.contextual
    extras := bitsOf g.extras
    reserved := bitsOf g.reserved
    loose := all ^^^ (all &&& tight)
    orders := g.orders.map fun o => o.filterMap fun
      | .named name => some (.named name)
      | .rule name => (symbols.names[name]?).map .symbol
    passing := passingSymbols g infos symbols.names terminals prods
    firsts, items
    openings := (Array.range prods.size).map (openingsOf count word terminals prods firsts)
    leads, empties
    start := startItem }

end ChangeGraph.Grammar
