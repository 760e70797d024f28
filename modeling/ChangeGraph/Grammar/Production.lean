import ChangeGraph.Grammar.Rule
import Std.Data.HashMap

/-! # Productions

The rules of a grammar become numbered symbols and flat productions. A repetition becomes a helper rule that
joins two repetitions or holds one body; choices are multiplied out; inlined rules are replaced by their bodies.
Terminals are numbered before nonterminals, and number 0 is the end of the text. -/

namespace ChangeGraph.Grammar

/-- One place of a production, with what the place says about its child. -/
structure Step where
  symbol : Nat
  prec : Precedence := .none
  side : Option Side := none
  shown : Option Alias := none
  field : Option String := none
  anyWord : Bool := false
deriving BEq, Hashable, Repr

structure Production where
  steps : List Step
  weight : Int := 0
deriving BEq, Hashable, Repr

structure SymbolInfo where
  kind : String
  visible : Bool
  named : Bool
  /-- It stands for a repetition. -/
  helper : Bool := false
deriving Repr, Inhabited

/-! ### Repetitions -/

/-- Helper rules made so far, and how many of them the current rule has asked for. -/
structure Helpers where
  made : Array (String × Rule) := #[]
  known : List (Rule × String) := []
  count : Nat := 0

/-- Replaces each repetition by a reference to its helper rule. Equal bodies share one helper. -/
def Rule.unfoldRepeats (owner : String) : Rule → StateM Helpers Rule
  | .seq a b => return .seq (← a.unfoldRepeats owner) (← b.unfoldRepeats owner)
  | .choice a b => return .choice (← a.unfoldRepeats owner) (← b.unfoldRepeats owner)
  | .field f r => return .field f (← r.unfoldRepeats owner)
  | .shown k r => return .shown k (← r.unfoldRepeats owner)
  | .strength p s r => return .strength p s (← r.unfoldRepeats owner)
  | .weight w r => return .weight w (← r.unfoldRepeats owner)
  | .anyWord r => return .anyWord (← r.unfoldRepeats owner)
  | .many1 r => do
    let body ← r.unfoldRepeats owner
    let h ← get
    match h.known.lookup body with
    | some name => return .ref name
    | none =>
      let name := owner ++ "_repeat" ++ toString (h.count + 1)
      set { h with
        made := h.made.push (name, .choice (.seq (.ref name) (.ref name)) body)
        known := (body, name) :: h.known
        count := h.count + 1 }
      return .ref name
  | r => return r

/-- The rules without repetitions, and the helper rules after them. -/
def unfoldRepeats (rules : List (String × Rule)) : List (String × Rule) × List (String × Rule) :=
  let step : StateM Helpers (List (String × Rule)) :=
    rules.mapM fun (name, r) => do
      modify fun h => { h with count := 0 }
      return (name, ← r.unfoldRepeats name)
  let (plain, h) := step.run {}
  (plain, h.made.toList)

/-! ### Symbols -/

/-- A token as it is written in a rule. -/
inductive Token where
  | literal (text : String)
  | pattern (name : String)
deriving BEq, Hashable, Repr

def Rule.tokens : Rule → List Token
  | .literal t => [.literal t]
  | .pattern p => [.pattern p]
  | .seq a b | .choice a b => a.tokens ++ b.tokens
  | .many1 r | .field _ r | .shown _ r | .strength _ _ r | .weight _ r | .anyWord r => r.tokens
  | .blank | .ref _ => []

/-- The token a rule consists of, if it is nothing else. -/
def Rule.token? : Rule → Option Token
  | .literal t => some (.literal t)
  | .pattern p => some (.pattern p)
  | _ => none

structure Symbols where
  infos : Array SymbolInfo
  terminals : Nat
  tokens : Std.HashMap Token Nat
  names : Std.HashMap String Nat

def isHidden (name : String) : Bool := name.startsWith "_"

namespace Symbols

/-- Numbers the tokens in order of appearance, the word first, then the contextual tokens, then the rules. A rule
that is one token, written nowhere else, names that token. -/
def ofGrammar (g : Ruleset) (helpers : List (String × Rule)) : Symbols := Id.run do
  let mut uses : Std.HashMap Token Nat := {}
  for (_, r) in g.rules do
    for tk in r.tokens do
      uses := uses.insert tk (uses.getD tk 0 + 1)
  let mut infos : Array SymbolInfo := #[⟨"end", false, true, false⟩]
  let mut tokens : Std.HashMap Token Nat := {}
  let mut names : Std.HashMap String Nat := {}
  let own (name : String) (r : Rule) : Option Token :=
    r.token?.filter fun tk => uses.getD tk 0 == 1 || tk == .pattern name
  for (name, r) in g.rules.filter (·.1 == g.word) ++ g.rules.filter (·.1 != g.word) do
    match own name r with
    | some tk =>
      tokens := tokens.insert tk infos.size
      names := names.insert name infos.size
      infos := infos.push ⟨name, !isHidden name, true, false⟩
    | none =>
      for tk in r.tokens do
        if !tokens.contains tk && !g.rules.any (fun (other, body) => own other body == some tk) then
          tokens := tokens.insert tk infos.size
          match tk with
          | .literal text => infos := infos.push ⟨text, true, false, false⟩
          | .pattern p =>
            match g.patterns.find? (·.name == p) with
            | some p => infos := infos.push ⟨p.kind, p.visible, p.named, false⟩
            | none => infos := infos.push ⟨p, false, false, false⟩
  for name in g.contextual do
    if !tokens.contains (.literal name) && !names.contains name then
      names := names.insert name infos.size
      infos := infos.push ⟨name, !isHidden name, true, false⟩
  let terminals := infos.size
  for (name, _) in g.rules do
    if !names.contains name then
      names := names.insert name infos.size
      infos := infos.push ⟨name, !isHidden name && !g.groups.contains name, true, false⟩
  for (name, _) in helpers do
    names := names.insert name infos.size
    infos := infos.push ⟨name, false, false, true⟩
  return ⟨infos, terminals, tokens, names⟩

/-- The number of a contextual token, an extra or a rule. -/
def find? (s : Symbols) (name : String) : Option Nat :=
  s.names[name]? <|> s.tokens[Token.literal name]?

end Symbols

/-! ### Flattening -/

/-- What surrounding labels say about a place. -/
structure Labels where
  prec : Precedence := .none
  side : Option Side := none
  shown : Option Alias := none
  field : Option String := none
  anyWord : Bool := false

def heavier (a b : Int) : Int := if b.natAbs > a.natAbs then b else a

def Labels.place (l : Labels) (symbol : Nat) : Production :=
  { steps := [⟨symbol, l.prec, l.side, l.shown, l.field, l.anyWord⟩] }

def Production.append (a b : Production) : Production :=
  ⟨a.steps ++ b.steps, heavier a.weight b.weight⟩

def Production.mapLast (f : Step → Step) (p : Production) : Production :=
  match p.steps.reverse with
  | [] => p
  | s :: rest => { p with steps := (f s :: rest).reverse }

/-- All ways through a rule. Outside the end of its production a labelled part hands its last place back to the
surrounding strength, so that the label decides only inside the part. -/
def Rule.flatten (s : Symbols) (l : Labels) (atEnd : Bool) : Rule → List Production
  | .blank => [{ steps := [] }]
  | .ref name => [l.place (s.names.getD name 0)]
  | .literal text => [l.place (s.tokens.getD (.literal text) 0)]
  | .pattern p => [l.place (s.tokens.getD (.pattern p) 0)]
  | .seq a b =>
    let rest := b.flatten s l atEnd
    (a.flatten s l false).flatMap fun x => rest.map x.append
  | .choice a b => a.flatten s l atEnd ++ b.flatten s l atEnd
  | .many1 r => r.flatten s l atEnd
  | .field f r => r.flatten s { l with field := some f } atEnd
  | .shown k r => r.flatten s { l with shown := some k } atEnd
  | .anyWord r => r.flatten s { l with anyWord := true } atEnd
  | .weight w r => (r.flatten s l atEnd).map fun p => { p with weight := heavier w p.weight }
  | .strength p side r =>
    let inner := r.flatten s { l with prec := p, side := side.orElse fun _ => l.side } atEnd
    if atEnd then inner else
      inner.map <| Production.mapLast fun st =>
        { st with prec := l.prec, side := if side.isSome then l.side else st.side }

/-- Puts a production of an inlined rule in the place of a step, under the step's labels. -/
def Step.inline (st : Step) (p : Production) : Production :=
  let label (x : Step) : Step :=
    { x with shown := st.shown.orElse fun _ => x.shown, field := st.field.orElse fun _ => x.field }
  Production.mapLast
    (fun x => { x with
      prec := if x.prec == .none then st.prec else x.prec
      side := x.side.orElse fun _ => st.side })
    { p with steps := p.steps.map label }

/-- Replaces inlined symbols by their productions, one level deep. -/
def Production.inlineOnce (bodies : Std.HashMap Nat (List Production)) (p : Production) : List Production :=
  let parts : List (List Production) := p.steps.map fun st =>
    match bodies[st.symbol]? with
    | some ps => ps.map st.inline
    | none => [{ steps := [st] }]
  parts.foldr (fun alts rest => alts.flatMap fun a => rest.map a.append) [{ steps := [], weight := p.weight }]

/-- How deep inlined rules may refer to each other. -/
def inlineDepth : Nat := 6

def Production.inline (bodies : Std.HashMap Nat (List Production)) (p : Production) : List Production :=
  inlineDepth.repeat (fun ps => ps.flatMap (·.inlineOnce bodies)) [p]

/-- The productions of every nonterminal, by symbol number less the number of terminals. -/
def productions (g : Ruleset) (s : Symbols) (plain helpers : List (String × Rule)) : Array (List Production) :=
  let flat (r : Rule) : List Production := (r.flatten s {} true).eraseDups
  let isRule (name : String) : Bool := s.names.getD name 0 ≥ s.terminals
  let rules := (plain ++ helpers).filter fun (name, _) => isRule name
  let bodies : Std.HashMap Nat (List Production) :=
    Std.HashMap.ofList <| (plain.filter fun (name, _) => g.inlined.contains name && isRule name).map
      fun (name, r) => (s.names.getD name 0, flat r)
  (rules.map fun (_, r) => (flat r).flatMap (·.inline bodies)).toArray

end ChangeGraph.Grammar
