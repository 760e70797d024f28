import ChangeGraph.Number.Shortest
import ChangeGraph.Text.Integer
import ChangeGraph.Text.Quoted
import ChangeGraph.Value.Basic

/-! # Writing JSON

The text is ASCII: every other character is written as one or two escaped units of sixteen bits. Without an indent
all stands on one line; with one, every element of a list and every entry of a table has a line of its own. There is no
text where an integer has too many digits, or where the indent is wider than any text. -/

namespace ChangeGraph.Json

def unitEscape (n : Nat) : List Char := '\\' :: 'u' :: Text.hex 4 n

def escape (c : Char) : List Char :=
  if c == '"' then ['\\', '"']
  else if c == '\\' then ['\\', '\\']
  else if c == '\n' then ['\\', 'n']
  else if c == '\r' then ['\\', 'r']
  else if c == '\t' then ['\\', 't']
  else if c.toNat == 0x08 then ['\\', 'b']
  else if c.toNat == 0x0C then ['\\', 'f']
  else if 0x20 ≤ c.toNat && c.toNat < 0x7F then [c]
  else if c.toNat < 0x10000 then unitEscape c.toNat
  else
    let n := c.toNat - 0x10000
    unitEscape (0xD800 + n / 0x400) ++ unitEscape (0xDC00 + n % 0x400)

def quote (s : String) : List Char := '"' :: s.toList.flatMap escape ++ ['"']

/-- What separates elements at the given depth: a line end and the indent, or a blank. -/
def breakAt (indent : Option Nat) (depth : Nat) : List Char :=
  match indent with
  | none => []
  | some n => '\n' :: List.replicate (n * depth) ' '

def between (indent : Option Nat) (depth : Nat) : List Char :=
  match indent with
  | none => [',', ' ']
  | some _ => ',' :: breakAt indent depth

mutual

def writeAt (indent : Option Nat) (depth : Nat) : Value → List Char
  | .null => "null".toList
  | .bool b => if b then "true".toList else "false".toList
  | .int n => (toString n).toList
  | .float x => x.text.toList
  | .text s => quote s
  | .moment m => quote m.text
  | .list [] => ['[', ']']
  | .list (v :: vs) =>
    '[' :: breakAt indent (depth + 1) ++ writeAt indent (depth + 1) v ++ writeElements indent (depth + 1) vs ++
      breakAt indent depth ++ [']']
  | .table [] => ['\x7b', '\x7d']
  | .table ((k, v) :: es) =>
    '\x7b' :: breakAt indent (depth + 1) ++ quote k ++ [':', ' '] ++ writeAt indent (depth + 1) v ++
      writeEntries indent (depth + 1) es ++ breakAt indent depth ++ ['\x7d']

/-- The elements after the first. -/
def writeElements (indent : Option Nat) (depth : Nat) : List Value → List Char
  | [] => []
  | v :: vs => between indent depth ++ writeAt indent depth v ++ writeElements indent depth vs

/-- The entries after the first. -/
def writeEntries (indent : Option Nat) (depth : Nat) : List (String × Value) → List Char
  | [] => []
  | (k, v) :: es =>
    between indent depth ++ quote k ++ [':', ' '] ++ writeAt indent depth v ++ writeEntries indent depth es

end

def render (indent : Option Nat) (v : Value) : String := String.ofList (writeAt indent 0 v)

/-! ### Values that have a text -/

mutual

/-- The integers within a value. -/
def integers : Value → List Int
  | .int n => [n]
  | .list vs => elementIntegers vs
  | .table es => entryIntegers es
  | _ => []

def elementIntegers : List Value → List Int
  | [] => []
  | v :: vs => integers v ++ elementIntegers vs

def entryIntegers : List (String × Value) → List Int
  | [] => []
  | (_, v) :: es => integers v ++ entryIntegers es

end

/-- More blanks than fit in a text. -/
def indentLimit : Nat := 0x8000000000000000

inductive WriteFault where
  | wideIndent
  | longNumber
deriving DecidableEq, Repr

def WriteFault.message : WriteFault → String
  | .wideIndent => "cannot fit 'int' into an index-sized integer"
  | .longNumber => Text.longNumberMessage

def write (indent : Option Nat) (v : Value) : Except WriteFault String :=
  if indentLimit ≤ indent.getD 0 then .error .wideIndent
  else if (integers v).all Text.isShort then .ok (render indent v)
  else .error .longNumber

end ChangeGraph.Json
