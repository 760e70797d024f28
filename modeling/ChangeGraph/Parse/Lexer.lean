import ChangeGraph.Parse.Tree

/-! # Tokens in context

Which token a text starts with depends on the tokens the parser can use: a scanner of the language is asked first,
then literal texts and patterns compete. The higher priority wins, then the longer match, then literal text over
patterns. A word is a keyword only where the keyword is of use. -/

namespace ChangeGraph.Parse

open ChangeGraph.Grammar

/-- A token found from context: its name, the blanks before it and its length. -/
structure Found where
  name : String
  lead : Nat
  length : Nat

structure Language where
  tables : Tables
  isBlank : Char → Bool
  /-- Finds contextual tokens, given which of them are of use. -/
  scan : (String → Bool) → List Char → Option Found

/-- A literal text or pattern that matches. -/
structure Match where
  symbol : Nat
  start : Cursor
  /-- Blanks before it. -/
  blanks : Nat
  length : Nat
  priority : Int
  /-- Ranks literal text over patterns of the same length. -/
  form : Nat

namespace Match

def reach (m : Match) : Nat := m.blanks + m.length

def beats (a b : Match) : Bool :=
  if a.priority != b.priority then a.priority > b.priority
  else if a.reach != b.reach then a.reach > b.reach
  else if a.form != b.form then a.form > b.form
  else a.symbol < b.symbol

def best : List Match → Option Match
  | [] => none
  | m :: ms => match best ms with
    | none => some m
    | some o => if o.beats m then some o else some m

end Match

/-- Literal texts at a place. -/
def markMatches (tb : Tables) (valid : Bits) (blanks : Nat) (c : Cursor) : List Match :=
  match c.rest with
  | [] => []
  | ch :: _ =>
    (tb.marks.getD ch.toNat []).filterMap fun (text, k) =>
      if valid.has k && text.isPrefixOf c.rest then
        some ⟨k, c, blanks, text.length, 0, 2⟩
      else none

/-- Patterns at a place, the glued ones or the others. -/
def patternMatches (tb : Tables) (valid : Bits) (glued : Bool) (blanks : Nat) (c : Cursor) : List Match :=
  tb.patterns.filterMap fun (k, p) =>
    if p.glued == glued && valid.has k then
      match p.body.longest c.rest with
      | some n => if n == 0 then none else some ⟨k, c, blanks, n, p.priority, if glued then 1 else 0⟩
      | none => none
    else none

/-- The best plain token at a cursor, blanks skipped where the token allows it. -/
def plainToken (l : Language) (valid : Bits) (c : Cursor) : Option Match :=
  let tb := l.tables
  let blanks := (c.rest.takeWhile l.isBlank).length
  let ahead := c.advance blanks
  let valid := if valid &&& tb.keywordBits == 0 then valid else valid ||| Bits.single tb.word
  let ends := if ahead.atEnd && valid.has 0 then [⟨0, ahead, blanks, 0, 0, 3⟩] else []
  Match.best (ends ++ patternMatches tb valid true 0 c ++ markMatches tb valid blanks ahead ++
    patternMatches tb valid false blanks ahead)

/-- The tree of a plain token, a keyword if the state has a use for it. -/
def plainLeaf (l : Language) (st : State) (lead : Cursor) (m : Match) : Tree :=
  let tb := l.tables
  let stop := m.start.advance m.length
  if m.symbol == tb.word then
    match tb.keywords[String.ofList (m.start.rest.take m.length)]? with
    | some k =>
      let used := st.valid.has k || (st.reserves && tb.reserved.has k)
      Tree.leaf (.symbol (if used then k else m.symbol)) lead m.start stop true
    | none => Tree.leaf (.symbol m.symbol) lead m.start stop false
  else Tree.leaf (.symbol m.symbol) lead m.start stop false

/-- Skips characters that start no token, up to one that does or to the end. -/
def skipUnknown (l : Language) : Nat → Cursor → Cursor
  | 0, c => c
  | n + 1, c =>
    if c.atEnd || (plainToken l l.tables.loose c).isSome then c else skipUnknown l n (c.advance 1)

/-- An error leaf over text that starts no token at all. -/
def unknownLeaf (l : Language) (c : Cursor) : Tree :=
  let start := c.skipWhile l.isBlank
  Tree.leaf .error c start (skipUnknown l start.rest.length (start.advance 1)) false

/-- The next token for a state. A contextual token without text is dropped unless `emptyAllowed`. -/
def nextToken (l : Language) (s : Nat) (st : State) (emptyAllowed : Bool) (c : Cursor) : Tree :=
  let tb := l.tables
  let isValid (name : String) : Bool := ((tb.contextual[name]?).map st.valid.has).getD false
  let contextual := do
    guard (s != lost)
    let f ← l.scan isValid c.rest
    guard (emptyAllowed || f.length > 0)
    let k ← tb.contextual[f.name]?
    let start := c.advance f.lead
    return Tree.leaf (.symbol k) c start (start.advance f.length) false
  let plain (valid : Bits) : Option Tree := (plainToken l valid c).map (plainLeaf l st c)
  (contextual <|> plain st.valid <|> plain tb.loose).getD (unknownLeaf l c)

end ChangeGraph.Parse
