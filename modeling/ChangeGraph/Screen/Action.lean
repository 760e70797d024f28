import ChangeGraph.Text.Alphanumeric
import ChangeGraph.Text.Blank
import ChangeGraph.Text.Integer
import ChangeGraph.Text.Quoted

/-! # Actions

A tag may call for an action, with parameters that have to be literals: numbers, texts, truth values, and lists of such
in brackets of any kind. -/

namespace ChangeGraph.Screen

def skipBlanks (cs : List Char) : List Char := cs.dropWhile fun c => c == ' ' || c == '\t' || c == '\n'

def isWordChar (c : Char) : Bool := Text.isAlphanumeric c || c == '_' || c == '.'

/-- Whether a word is a number or one of the words for a value. -/
def isPlainLiteral (cs : List Char) : Bool :=
  ["True", "False", "None"].contains (String.ofList cs) ||
    ((cs.filter (· != '.')).length + 1 ≥ cs.length && (Text.digitsOf? (cs.filter (· != '.'))).isSome)

/-- Passes a text up to its closing quote. -/
def passText (quote : Char) : List Char → Option (List Char)
  | [] => none
  | '\\' :: _ :: cs => passText quote cs
  | c :: cs => if c == quote then some cs else if c == '\n' then none else passText quote cs

mutual

/-- Passes a literal. -/
def passLiteral : Nat → List Char → Option (List Char)
  | 0, _ => none
  | fuel + 1, cs =>
    match skipBlanks cs with
    | [] => none
    | c :: rest =>
      match [('(', ')'), ('[', ']'), ('\x7b', '\x7d')].lookup c with
      | some close => passItems fuel close rest
      | none =>
        if c == '"' || c == '\'' then passText c rest
        else
          let word := if c == '-' || c == '+' then rest else c :: rest
          if isPlainLiteral (word.takeWhile isWordChar) then some (word.dropWhile isWordChar) else none

/-- Passes literals between commas, or pairs of them, up to the closing bracket. -/
def passItems : Nat → Char → List Char → Option (List Char)
  | 0, _, _ => none
  | fuel + 1, close, cs =>
    if (skipBlanks cs).head? == some close then some ((skipBlanks cs).drop 1)
    else do
      let rest ← passLiteral fuel cs
      let rest ← match skipBlanks rest with
        | ':' :: rest => if close == '\x7d' then passLiteral fuel rest else none
        | rest => some rest
      match skipBlanks rest with
      | ',' :: rest => passItems fuel close rest
      | c :: rest => if c == close then some rest else none
      | [] => none

end

def isLiteral (cs : List Char) : Bool :=
  ((passLiteral (cs.length + 1) cs).map fun rest => (skipBlanks rest).isEmpty).getD false

/-- The last bracket that is not closed, after some that are open, the last one first. -/
def unclosed? : List Char → List Char → Option Char
  | opened, [] => opened.head?
  | opened, c :: cs =>
    if ['(', '[', '\x7b'].contains c then unclosed? (c :: opened) cs
    else match [(')', '('), (']', '['), ('\x7d', '\x7b')].lookup c with
      | none => unclosed? opened cs
      | some o => if opened.head? == some o then unclosed? opened.tail cs else none

/-- What is wrong with the parameters of an action. They may have a name before the parentheses, or be a name alone. -/
def objection? (parameters : String) : Option String :=
  let cs := (Text.strip parameters).toList
  let behind := cs.dropWhile isWordChar
  let literal :=
    if behind.isEmpty then ['(', ')']
    else if behind.head? == some '(' && behind.getLast? == some ')' && !behind.contains '\n' then behind
    else cs
  let complaint := match unclosed? [] literal with
    | some c => "'" ++ c.toString ++ "' was never closed"
    | none => "invalid syntax"
  if isLiteral literal then none
  else some s!"error parsing {Text.quoted (String.ofList literal)} in {Text.quoted parameters}; {complaint}"

end ChangeGraph.Screen
