import ChangeGraph.Number.Shortest
import ChangeGraph.Text.Cut
import ChangeGraph.Text.Integer
import ChangeGraph.Text.Quoted
import ChangeGraph.Value.Basic

/-! # Writing settings

Plain values come first, in order, then lists of tables, then tables under headers of their own, level by level. A
table that holds nothing but tables has no header of its own. -/

namespace ChangeGraph.Toml

open ChangeGraph.Text (cutAll joinWith)

/-- Why settings cannot be written. -/
inductive WriteFault where
  /-- A text starts with a character that is written as a two-digit code. -/
  | codeInFront
  /-- An integer has too many digits. -/
  | longNumber
  /-- A clock is a day or more ahead or behind. -/
  | wideOffset
  /-- Anything else, with its text. -/
  | other (text : String)
deriving DecidableEq, Repr

def WriteFault.message : WriteFault → String
  | .codeInFront => "list index out of range"
  | .longNumber => Text.longNumberMessage
  | .wideOffset => "offset must be a timedelta strictly between -timedelta(hours=24) and timedelta(hours=24)."
  | .other text => text

/-! ### Texts -/

/-- Two backslashes in a row read as one. -/
def singleBackslashes : List Char → List Char
  | '\\' :: '\\' :: cs => '\\' :: singleBackslashes cs
  | c :: cs => c :: singleBackslashes cs
  | [] => []

/-- How a character without a sign of its own is marked after the given front: by `x` or, after a single backslash that
is not alone, by `u00`. -/
def codeMark (front : List Char) : List Char :=
  let n := (front.reverse.takeWhile (· == '\\')).length
  let m := min n (front.length - 1)
  let plain := if front.getLast? == some '\\' then m % 2 == 1 else true
  if plain then ['x'] else ['u', '0', '0']

/-- Joins pieces that were cut at the codes of characters without a sign. A text that starts with such a character
cannot be written. -/
def joinCodes : List Char → List (List Char) → Except WriteFault (List Char)
  | front, [] => .ok front
  | [], [_] => .error .codeInFront
  | [], p :: q :: ps =>
    let p := singleBackslashes p
    joinCodes (p ++ codeMark p ++ q) ps
  | front, p :: ps =>
    let front := singleBackslashes front
    joinCodes (front ++ codeMark front ++ p) ps
termination_by _ ps => ps.length

/-- A character between double quotes. -/
def quotedChar (c : Char) : List Char :=
  if c == '\'' then [c] else if c == '"' then ['\\', '"'] else Text.escaped '"' c

def quotedBody (cs : List Char) : List Char := cs.flatMap quotedChar

/-- The text in double quotes; what does not show is written as a code. -/
def quote (s : String) : Except WriteFault (List Char) :=
  match cutAll ['\\', 'x'] (quotedBody s.toList) with
  | [] => .ok ['"', '"']
  | front :: pieces => do return '"' :: (← joinCodes front pieces) ++ ['"']

/-- Characters of names without quotes. -/
def isBareChar (c : Char) : Bool := c.isAlphanum || c == '_' || c == '-'

def isBare (cs : List Char) : Bool := !cs.isEmpty && cs.all isBareChar

/-- A key that is written as it is. A line end may stand behind it. -/
def isBareKey (s : String) : Bool :=
  isBare s.toList || s.toList.getLast? == some '\n' && isBare s.toList.dropLast

def writeKey (s : String) : Except WriteFault (List Char) := if isBareKey s then .ok s.toList else quote s

/-! ### Plain values -/

/-- The text of a double with no zero in front of its exponent. -/
def doubleText (x : Double) : List Char :=
  let shorten (cs : List Char) (sign : Char) : List Char := joinWith ['e', sign] (cutAll ['e', sign, '0'] cs)
  shorten (shorten x.text.toList '+') '-'

def writeInteger (n : Int) : Except WriteFault (List Char) :=
  if (toString n.natAbs).length ≤ Text.digitLimit then .ok (toString n).toList else .error .longNumber

def minutesPerDay : Nat := 24 * 60

def writeMoment : Moment → Except WriteFault (List Char)
  | .instant d c (some n) =>
    if n.natAbs < minutesPerDay then .ok (Moment.instant d c (some n)).text.toList else .error .wideOffset
  | m => .ok m.text.toList

mutual

/-- A value on one line. A table within a list shows its keys only. -/
def writeValue : Value → Except WriteFault (List Char)
  | .null => .ok "None".toList
  | .bool b => .ok (if b then "true" else "false").toList
  | .int n => writeInteger n
  | .float x => .ok (doubleText x)
  | .text s => quote s
  | .moment m => writeMoment m
  | .list vs => do return '[' :: (← writeElements vs) ++ [']']
  | .table es => do return '[' :: (← writeKeys es) ++ [']']

def writeElements : List Value → Except WriteFault (List Char)
  | [] => .ok []
  | v :: vs => do return ' ' :: (← writeValue v) ++ ',' :: (← writeElements vs)

def writeKeys : List (String × Value) → Except WriteFault (List Char)
  | [] => .ok []
  | (k, _) :: es => do return ' ' :: (← quote k) ++ ',' :: (← writeKeys es)

end

def isTable : Value → Bool
  | .table _ => true
  | _ => false

def tableEntries : Value → Entries
  | .table es => es
  | _ => []

def listElements : Value → List Value
  | .list vs => vs
  | _ => []

def isListOfTables (v : Value) : Bool := (listElements v).any isTable

/-! ### Tables -/

/-- Tables under their names as written. -/
abbrev Named := List (List Char × Value)

/-- Puts a table under a name; one that has the name already is replaced. -/
def Named.put (name : List Char) (v : Value) : Named → Named
  | [] => [(name, v)]
  | t :: ts => if t.1 == name then (name, v) :: ts else t :: put name v ts

/-- What the entries of a table are written as: the lines of plain values, those of lists of tables, and the tables that
are still to be written. -/
structure Dump where
  plain : List Char := []
  lists : List Char := []
  tables : Named := []

def Dump.body (d : Dump) : List Char := d.plain ++ d.lists

def dotted (front back : List Char) : List Char := if front.isEmpty then back else front ++ '.' :: back

mutual

/-- Writes the entries of a table behind what is written of it. -/
def dump : Nat → List Char → Dump → Entries → Except WriteFault Dump
  | 0, _, d, _ => .ok d
  | _ + 1, _, d, [] => .ok d
  | fuel + 1, name, d, (k, v) :: es => do
    let key ← writeKey k
    if isTable v then dump fuel name { d with tables := d.tables.put key v } es
    else if isListOfTables v then
      let lines ← dumpElements fuel (dotted name key) (listElements v)
      dump fuel name { d with lists := d.lists ++ lines } es
    else
      let line := key ++ " = ".toList ++ (← writeValue v) ++ ['\n']
      dump fuel name { d with plain := d.plain ++ line } es

/-- The elements of a list of tables, each under a header in double brackets. -/
def dumpElements : Nat → List Char → List Value → Except WriteFault (List Char)
  | 0, _, _ => .ok []
  | _ + 1, _, [] => .ok []
  | fuel + 1, name, v :: vs => do
    let d ← dump fuel name {} (tableEntries v)
    let inner ← dumpInner fuel name d.tables
    let rest ← dumpElements fuel name vs
    let head := "[[".toList ++ name ++ "]]\n".toList
    if d.body.head? == some '[' then return head ++ '\n' :: d.body ++ inner ++ rest
    else return head ++ d.body ++ '\n' :: inner ++ rest

/-- The subtables of a list element, level by level. -/
def dumpInner : Nat → List Char → Named → Except WriteFault (List Char)
  | 0, _, _ => .ok []
  | _ + 1, _, [] => .ok []
  | fuel + 1, name, tables => do
    let dumps ← tables.mapM fun (k, v) => do return (k, ← dump fuel (dotted name k) {} (tableEntries v))
    let texts := dumps.map fun (k, d) =>
      if d.body.isEmpty then [] else '[' :: dotted name k ++ "]\n".toList ++ d.body
    let next := dumps.flatMap fun (k, d) => d.tables.map fun (k', v) => (dotted k k', v)
    return texts.flatten ++ (← dumpInner fuel name (next.foldl (fun ts (k, v) => ts.put k v) []))

end

mutual

/-- How many values there are within a value, itself included. -/
def weight : Value → Nat
  | .list vs => 1 + weightAll vs
  | .table es => 1 + weightEntries es
  | _ => 1

def weightAll : List Value → Nat
  | [] => 0
  | v :: vs => weight v + weightAll vs

def weightEntries : List (String × Value) → Nat
  | [] => 0
  | (_, v) :: es => weight v + weightEntries es

end

def dumpTable (name : List Char) (es : Entries) : Except WriteFault Dump :=
  dump (2 * weight (.table es) + 2) name {} es

/-- A blank line, unless the text is empty or ends with one. -/
def withGap (text : List Char) : List Char :=
  if text.isEmpty || (text.reverse.take 2) == ['\n', '\n'] then text else text ++ ['\n']

/-- Adds a table under its header to a text, and the tables in it to those of the next level. -/
def addTable : List Char × Named → List Char × Value → Except WriteFault (List Char × Named)
  | (text, next), (name, v) => do
    let d ← dumpTable name (tableEntries v)
    let next := d.tables.foldl (fun ts (k, v) => ts.put (dotted name k) v) next
    if d.body.isEmpty && !d.tables.isEmpty then return (text, next)
    else return (withGap text ++ '[' :: name ++ "]\n".toList ++ d.body, next)

/-- Adds tables to a text, level by level. -/
def addLevels : Nat → List Char → Named → Except WriteFault (List Char)
  | 0, text, _ => .ok text
  | _ + 1, text, [] => .ok text
  | fuel + 1, text, tables => do
    let (text, next) ← tables.foldlM addTable (text, [])
    addLevels fuel text next

/-- The text of settings. -/
def write (es : Entries) : Except WriteFault String := do
  let d ← dumpTable [] es
  return String.ofList (← addLevels (weight (.table es) + 1) d.body d.tables)

end ChangeGraph.Toml
