import ChangeGraph.Grammar.Regex

/-! # Grammar rules

A grammar is a list of named rules. A rule is built from references, literal texts and lexical patterns by
sequence, choice and repetition, and it may label its parts with field names, display kinds and binding
strengths. Nothing here runs: `Grammar.Production` turns rules into productions. -/

namespace ChangeGraph.Grammar

/-- How tightly a construct binds. Levels compare as numbers, names by the orders a grammar declares. -/
inductive Precedence where
  | none
  | level (n : Int)
  | named (name : String)
deriving BEq, Hashable, Repr, Inhabited

/-- To which side equal strengths group. -/
inductive Side where
  | left
  | right
deriving BEq, Hashable, Repr

/-- The kind under which a node is shown instead of its own. -/
structure Alias where
  kind : String
  named : Bool
deriving BEq, Hashable, Repr

inductive Rule where
  | blank
  | ref (name : String)
  | literal (text : String)
  | pattern (name : String)
  | seq (first rest : Rule)
  | choice (first rest : Rule)
  | many1 (body : Rule)
  | field (name : String) (body : Rule)
  | shown (kind : Alias) (body : Rule)
  | strength (p : Precedence) (side : Option Side) (body : Rule)
  /-- Prefers or avoids a reading when two readings of the same text are complete. -/
  | weight (w : Int) (body : Rule)
  /-- A place where keywords are ordinary words. -/
  | anyWord (body : Rule)
deriving BEq, Hashable, Repr, Inhabited

namespace Rule

/-- Reference to a rule. -/
abbrev n (name : String) : Rule := .ref name

/-- Literal text. -/
abbrev t (text : String) : Rule := .literal text

def seqs : List Rule → Rule
  | [] => .blank
  | [r] => r
  | r :: rs => .seq r (seqs rs)

def oneOf : List Rule → Rule
  | [] => .blank
  | [r] => r
  | r :: rs => .choice r (oneOf rs)

def opt (r : Rule) : Rule := .choice r .blank

def many (r : Rule) : Rule := opt (.many1 r)

def sepBy1 (sep r : Rule) : Rule := .seq r (many (.seq sep r))

def commaSep1 (r : Rule) : Rule := sepBy1 (t ",") r

def commaSep (r : Rule) : Rule := opt (commaSep1 r)

/-- Shows the part under another named kind. -/
def as (kind : String) (r : Rule) : Rule := .shown ⟨kind, true⟩ r

/-- Shows the part as punctuation. -/
def asText (kind : String) (r : Rule) : Rule := .shown ⟨kind, false⟩ r

def binds (name : String) (r : Rule) : Rule := .strength (.named name) none r

def bindsLeft (name : String) (r : Rule) : Rule := .strength (.named name) (some .left) r

def bindsRight (name : String) (r : Rule) : Rule := .strength (.named name) (some .right) r

def leftward (r : Rule) : Rule := .strength (.level 0) (some .left) r

def rightward (r : Rule) : Rule := .strength (.level 0) (some .right) r

end Rule

/-- An entry in a declared order of strengths: a strength's name, or every construct of a rule. -/
inductive Rank where
  | named (name : String)
  | rule (name : String)
deriving BEq, Repr

/-- A lexical pattern. -/
structure Pattern where
  name : String
  body : Regex
  /-- How a token of this pattern is shown where no rule names it. -/
  kind : String := name
  named : Bool := true
  visible : Bool := true
  /-- A match of higher priority wins over a longer one. -/
  priority : Int := 0
  /-- Blanks may not stand before it. -/
  glued : Bool := false
  /-- It is recognised while the parser looks for a place to resume. -/
  loose : Bool := true

/-- The rules of a language and all that they rest on. -/
structure Ruleset where
  /-- The first rule is the start. -/
  rules : List (String × Rule)
  patterns : List Pattern
  /-- The pattern of words, of which the literal words are special cases. -/
  word : String
  /-- Tokens that a scanner finds from context, by name. -/
  contextual : List String
  /-- Tokens that may stand anywhere. -/
  extras : List String
  /-- Rules that group others and are not shown. -/
  groups : List String
  /-- Rules that are replaced by their bodies. -/
  inlined : List String
  /-- Orders of strengths, strongest first. -/
  orders : List (List Rank)
  /-- Words that are keywords even where no rule expects them. -/
  reserved : List String

end ChangeGraph.Grammar
