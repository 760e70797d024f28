import ChangeGraph.Grammar.Automaton
import ChangeGraph.Parse.Cursor

/-! # Trees under construction

A tree records where it lies, what it shows and what it costs. Text that fits no rule is kept in error trees, and
the costs say how much of a text was given up, so that readings with errors can be compared. -/

namespace ChangeGraph.Parse

open ChangeGraph.Grammar

/-! ### Costs -/

def costOfRecovery : Nat := 500
def costOfMissing : Nat := 110
def costOfSkippedTree : Nat := 100
def costOfSkippedByte : Nat := 1
def costOfSkippedRow : Nat := 30

/-- What a tree is a tree of. -/
inductive Head where
  | symbol (k : Nat)
  /-- A run of skipped parts that is still growing. -/
  | skipped
  | error
deriving BEq, Repr, Inhabited

namespace Head

/-- A number that orders heads; errors come last. -/
def rank : Head → Nat
  | .symbol k => k
  | .skipped => 65534
  | .error => 65535

def isFailure : Head → Bool
  | .symbol _ => false
  | _ => true

end Head

structure Info where
  head : Head
  /-- Where the blanks before it begin. -/
  lead : Cursor
  start : Cursor
  stop : Cursor
  extra : Bool := false
  missing : Bool := false
  keyword : Bool := false
  labels : Array Label := #[]
  cost : Nat := 0
  weight : Int := 0
  /-- Shown nodes strictly below. -/
  shownBelow : Nat := 0
  /-- Shown nodes that are its children in the result. -/
  shownChildren : Nat := 0
deriving Inhabited

inductive Tree where
  | mk (info : Info) (children : List Tree)
deriving Inhabited

namespace Tree

def info : Tree → Info
  | mk i _ => i

def children : Tree → List Tree
  | mk _ cs => cs

def head (t : Tree) : Head := t.info.head

def extra (t : Tree) : Bool := t.info.extra

def isLeaf (t : Tree) : Bool := t.children.isEmpty

def isError (t : Tree) : Bool := t.head == .error

def symbol? (t : Tree) : Option Nat :=
  match t.head with
  | .symbol k => some k
  | _ => none

def withExtra (t : Tree) (b : Bool) : Tree :=
  match t with
  | mk i cs => mk { i with extra := b } cs

def withHead (t : Tree) (h : Head) : Tree :=
  match t with
  | mk i cs => mk { i with head := h } cs

def addWeight (t : Tree) (w : Int) : Tree :=
  match t with
  | mk i cs => mk { i with weight := i.weight + w } cs

/-- What a tree adds to the cost of a reading. -/
def cost (t : Tree) : Nat :=
  if t.info.missing then costOfMissing + costOfRecovery else t.info.cost

def weight (t : Tree) : Int := t.info.weight

/-- Whether the tree is a node of the result by itself. -/
def shown (tb : Tables) (t : Tree) : Bool :=
  match t.head with
  | .symbol k => (tb.info k).visible
  | .skipped => false
  | .error => true

/-- Bytes from the blanks before it to its end. -/
def totalBytes (t : Tree) : Nat := t.info.stop.offset - t.info.lead.offset

def totalRows (t : Tree) : Nat := t.info.stop.row - t.info.lead.row

/-- A token. The end of the text counts as an extra. -/
def leaf (head : Head) (lead start stop : Cursor) (keyword : Bool) : Tree :=
  mk { head, lead, start, stop, keyword, extra := head == .symbol 0 } []

/-- A token that was expected and is not there. -/
def absent (k : Nat) (at_ : Cursor) : Tree :=
  mk { head := .symbol k, lead := at_, start := at_, stop := at_, missing := true } []

/-- What a child adds to the cost of the error it is skipped with. -/
def skipCost (tb : Tables) (t : Tree) : Nat :=
  if t.extra || (t.isError && t.isLeaf) then 0
  else if t.shown tb then costOfSkippedTree
  else if t.isLeaf then 0
  else costOfSkippedTree * t.info.shownChildren

/-- Running totals over the children of a node. -/
structure Totals where
  cost : Nat := 0
  weight : Int := 0
  below : Nat := 0
  children : Nat := 0
  /-- Place in the production; extras take none. -/
  place : Nat := 0

def Totals.add (tb : Tables) (failure : Bool) (labels : Array Label) (s : Totals) (c : Tree) : Totals :=
  let relabelled := !c.extra && ((labels[s.place]?).bind (·.shown)).isSome
  let own := relabelled || c.shown tb
  { cost := s.cost + (if c.head == .skipped then 0 else c.cost) + (if failure then c.skipCost tb else 0)
    weight := s.weight + c.weight
    below := s.below + c.info.shownBelow + (if own then 1 else 0)
    children := s.children + (if own then 1 else if c.isLeaf then 0 else c.info.shownChildren)
    place := if c.extra then s.place else s.place + 1 }

/-- A node over its children. `here` is where an empty node lies. -/
def node (tb : Tables) (head : Head) (labels : Array Label) (here : Cursor) (cs : List Tree) : Tree :=
  let s := cs.foldl (Totals.add tb head.isFailure labels) {}
  let (lead, start, stop) := match cs, cs.getLast? with
    | c :: _, some d => (c.info.lead, c.info.start, d.info.stop)
    | _, _ => (here, here, here)
  let own := if head.isFailure then
      costOfRecovery + costOfSkippedByte * (stop.offset - start.offset) + costOfSkippedRow * (stop.row - start.row)
    else 0
  mk { head, lead, start, stop, labels
       cost := s.cost + own, weight := s.weight, shownBelow := s.below, shownChildren := s.children } cs

/-- How many nodes a tree counts for when progress is measured. -/
def progress (tb : Tables) (t : Tree) : Nat :=
  t.info.shownBelow + (if t.shown tb then 1 else 0) + (if t.head == .skipped then 1 else 0)

mutual

/-- Orders trees by their symbols, outermost first, then by the number of children. -/
def order : Tree → Tree → Ordering
  | mk i cs, mk j ds =>
    match compare i.head.rank j.head.rank with
    | .eq => match compare cs.length ds.length with
      | .eq => orderAll cs ds
      | o => o
    | o => o

def orderAll : List Tree → List Tree → Ordering
  | c :: cs, d :: ds =>
    match order c d with
    | .eq => orderAll cs ds
    | o => o
  | _, _ => .eq

end

/-- Whether the second of two readings of the same text replaces the first. -/
def prefersSecond (a b : Tree) : Bool :=
  if b.cost < a.cost then true
  else if a.cost < b.cost then false
  else if b.weight > a.weight then true
  else if a.weight > b.weight then false
  else if a.cost > 0 then true
  else order a b == .gt

/-- Whether two trees may stand for each other on a stack. -/
def similar (a b : Tree) : Bool :=
  a.head == b.head &&
    ((a.cost > 0 && b.cost > 0) ||
      (a.info.start.offset - a.info.lead.offset == b.info.start.offset - b.info.lead.offset &&
        a.info.stop.offset - a.info.start.offset == b.info.stop.offset - b.info.start.offset &&
        a.children.length == b.children.length && a.extra == b.extra))

end Tree

end ChangeGraph.Parse
