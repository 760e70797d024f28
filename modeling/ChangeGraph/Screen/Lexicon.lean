import ChangeGraph.Screen.Action
import ChangeGraph.Screen.Emoji
import ChangeGraph.Screen.Style

/-! # What a screen knows

How a marked text is shown depends on the styles that the screen draws, on the signs that it has names for and on the
actions that it understands. -/

namespace ChangeGraph.Screen

/-- Whether a character can have a meaning in a marked text. -/
def isMark (c : Char) : Bool := c == '[' || c == '\\' || c == ':'

/-- A tag by the normal form of its style, with what stands behind a sign of equality. -/
structure Tag where
  name : String
  parameters : String := ""
deriving DecidableEq, Repr

/-- A tag calls for an action if its name begins with an at sign. -/
def Tag.isAction (t : Tag) : Bool := t.name.toList.head? == some '@'

/-- The styles that the commands use. -/
def ownStyles : List String := ["dim", "red", "yellow"]

structure Lexicon where
  /-- The normal form of a style, or what is wrong with it. -/
  style : String → Except String String
  /-- What is wrong with drawing a text under a tag. -/
  flaw? : Tag → Option String
  /-- The sign of a name. -/
  emoji? : String → Option (List Char)
  /-- What is wrong with the parameters of an action. -/
  objection? : String → Option String
  emoji_plain : ∀ name sign, emoji? name = some sign → ∀ c ∈ sign, isMark c = false
  own_styles : ∀ w ∈ ownStyles, style w = .ok w ∧ flaw? ⟨w, ""⟩ = none

namespace Lexicon

/-- The styles, signs and actions of a terminal. -/
def usual : Lexicon where
  style := normalStyle
  flaw? t := match readDefinition (t.name ++ " " ++ t.parameters) with
    | .error .badNumber => some badNumberMessage
    | _ => none
  -- no sign of the table holds a mark, so nothing is left out here
  emoji? name := (Screen.emoji? name).map (·.filter (!isMark ·))
  objection? := Screen.objection?
  emoji_plain := by
    intro name sign h c hc
    obtain ⟨cs, -, rfl⟩ := Option.map_eq_some_iff.mp h
    simpa using (List.mem_filter.mp hc).2
  own_styles := by
    intro w hw
    rw [ownStyles, List.mem_cons, List.mem_cons, List.mem_singleton] at hw
    rcases hw with rfl | rfl | rfl <;> exact ⟨rfl, rfl⟩

variable (lex : Lexicon)

/-- What is wrong with closing a tag. -/
def objectionTo? (t : Tag) : Option String :=
  if t.isAction && !t.parameters.isEmpty then lex.objection? t.parameters else none

end Lexicon

/-! ### Signs by their names -/

/-- A part of a text: a character, or a word between colons. -/
inductive Part where
  | char (c : Char)
  | code (word : List Char)
deriving DecidableEq, Repr

/-- The parts of a text, behind a colon and the characters since it, last first, if there is one that may begin a
word. -/
def partsFrom : Option (List Char) → List Char → List Part
  | none, [] => []
  | none, c :: cs => if c == ':' then partsFrom (some []) cs else .char c :: partsFrom none cs
  | some word, [] => .char ':' :: word.reverse.map .char
  | some word, c :: cs =>
    if c == ':' then .code word.reverse :: partsFrom none cs
    else if Text.isBlank c then .char ':' :: (word.reverse.map .char ++ .char c :: partsFrom none cs)
    else partsFrom (some (c :: word)) cs

def parts (cs : List Char) : List Part := partsFrom none cs

/-- The ends of a name that ask for a sign in colours or for a plain one, with what is put behind the sign. -/
def variants : List (List Char × Char) := [("-emoji".toList, '\uFE0F'), ("-text".toList, '\uFE0E')]

/-- The sign that a word between colons stands for. -/
def sign? (lex : Lexicon) (word : List Char) : Option (List Char) :=
  match variants.find? fun v => v.1.isSuffixOf word with
  | some (ending, variant) =>
    (lex.emoji? (String.ofList (word.take (word.length - ending.length)))).map (· ++ [variant])
  | none => lex.emoji? (String.ofList word)

namespace Part

def written : Part → List Char
  | .char c => [c]
  | .code word => ':' :: (word ++ [':'])

def shown (lex : Lexicon) : Part → List Char
  | .char c => [c]
  | .code word => (sign? lex word).getD (':' :: (word ++ [':']))

end Part

/-- A text with the signs for their names. -/
def signed (lex : Lexicon) (cs : List Char) : List Char := (parts cs).flatMap (Part.shown lex)

end ChangeGraph.Screen
