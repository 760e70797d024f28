import ChangeGraph.Value.Basic

/-! # Reading JSON

A value is read off the front of a text and the rest is left. A number with a point or an exponent is a double, any
other is an integer. Of two entries of a table with one key the later value counts, in the place of the earlier. -/

namespace ChangeGraph.Json

def isSpace (c : Char) : Bool := c == ' ' || c == '\n' || c == '\r' || c == '\t'

def skipSpace (cs : List Char) : List Char := cs.dropWhile isSpace

def hexDigit? (c : Char) : Option Nat :=
  if '0' ≤ c && c ≤ '9' then some (c.toNat - '0'.toNat)
  else if 'a' ≤ c && c ≤ 'f' then some (c.toNat - 'a'.toNat + 10)
  else if 'A' ≤ c && c ≤ 'F' then some (c.toNat - 'A'.toNat + 10)
  else none

def unit? (a b c d : Char) : Option Nat := do
  return (((← hexDigit? a) * 16 + (← hexDigit? b)) * 16 + (← hexDigit? c)) * 16 + (← hexDigit? d)

/-- The character of an escape that takes one letter. -/
def letterEscape? (c : Char) : Option Char :=
  match c with
  | '"' => some '"'
  | '\\' => some '\\'
  | '/' => some '/'
  | 'b' => some (Char.ofNat 0x08)
  | 'f' => some (Char.ofNat 0x0C)
  | 'n' => some '\n'
  | 'r' => some '\r'
  | 't' => some '\t'
  | _ => none

/-- Two halves of a character beyond sixteen bits. -/
def joined? (high low : Nat) : Option Char :=
  if 0xD800 ≤ high && high < 0xDC00 && 0xDC00 ≤ low && low < 0xE000 then
    some (Char.ofNat (0x10000 + (high - 0xD800) * 0x400 + (low - 0xDC00)))
  else none

/-- Reads the rest of a quoted text. -/
def readText : Nat → List Char → Option (List Char × List Char)
  | 0, _ => none
  | _ + 1, [] => none
  | _ + 1, '"' :: cs => some ([], cs)
  | fuel + 1, '\\' :: 'u' :: a :: b :: c :: d :: cs => do
    let n ← unit? a b c d
    let single := do
      let (s, rest) ← readText fuel cs
      return (Char.ofNat n :: s, rest)
    match cs with
    | '\\' :: 'u' :: a' :: b' :: c' :: d' :: cs' =>
      match joined? n (← unit? a' b' c' d') with
      | some ch => do
        let (s, rest) ← readText fuel cs'
        return (ch :: s, rest)
      | none => single
    | _ => single
  | fuel + 1, '\\' :: e :: cs => do
    let ch ← letterEscape? e
    let (s, rest) ← readText fuel cs
    return (ch :: s, rest)
  | fuel + 1, c :: cs => do
    if c.toNat < 0x20 || c == '\\' then none
    else
      let (s, rest) ← readText fuel cs
      return (c :: s, rest)

def isDigit (c : Char) : Bool := '0' ≤ c && c ≤ '9'

def natOf (ds : List Char) : Nat := ds.foldl (fun n d => 10 * n + (d.toNat - '0'.toNat)) 0

def readExponent (cs : List Char) : Option (Int × List Char) :=
  let (negative, cs) := match cs with
    | '-' :: cs => (true, cs)
    | '+' :: cs => (false, cs)
    | cs => (false, cs)
  let ds := cs.takeWhile isDigit
  if ds.isEmpty then none
  else
    let n : Int := natOf ds
    some (if negative then -n else n, cs.dropWhile isDigit)

def readUnsigned (negative : Bool) (cs : List Char) : Option (Value × List Char) := do
  let whole := cs.takeWhile isDigit
  let cs := cs.dropWhile isDigit
  if whole.isEmpty || (whole.length > 1 && whole.head? == some '0') then none
  else
    let (fraction, cs, decimal) ← match cs with
      | '.' :: cs =>
        let ds := cs.takeWhile isDigit
        if ds.isEmpty then none else some (ds, cs.dropWhile isDigit, true)
      | cs => some ([], cs, false)
    let (exponent, cs, decimal) ← match cs with
      | 'e' :: cs => (readExponent cs).map fun (x, cs) => (x, cs, true)
      | 'E' :: cs => (readExponent cs).map fun (x, cs) => (x, cs, true)
      | cs => some (0, cs, decimal)
    if decimal then
      some (.float (Double.ofDecimal negative (natOf (whole ++ fraction)) (exponent - fraction.length)), cs)
    else
      let n : Int := natOf whole
      some (.int (if negative then -n else n), cs)

def readNumber (cs : List Char) : Option (Value × List Char) :=
  match cs with
  | '-' :: cs => readUnsigned true cs
  | cs => readUnsigned false cs

mutual

def readValue : Nat → List Char → Option (Value × List Char)
  | 0, _ => none
  | fuel + 1, cs =>
    match skipSpace cs with
    | '"' :: cs => do
      let (s, rest) ← readText (cs.length + 1) cs
      return (.text (String.ofList s), rest)
    | '[' :: cs =>
      match skipSpace cs with
      | ']' :: rest => some (.list [], rest)
      | cs => do
        let (vs, rest) ← readElements fuel cs
        return (.list vs, rest)
    | '\x7b' :: cs =>
      match skipSpace cs with
      | '\x7d' :: rest => some (.table [], rest)
      | cs => do
        let (es, rest) ← readEntries fuel [] cs
        return (.table es, rest)
    | 't' :: 'r' :: 'u' :: 'e' :: rest => some (.bool true, rest)
    | 'f' :: 'a' :: 'l' :: 's' :: 'e' :: rest => some (.bool false, rest)
    | 'n' :: 'u' :: 'l' :: 'l' :: rest => some (.null, rest)
    | cs => readNumber cs

/-- Elements up to the closing bracket. -/
def readElements : Nat → List Char → Option (List Value × List Char)
  | 0, _ => none
  | fuel + 1, cs => do
    let (v, cs) ← readValue fuel cs
    match skipSpace cs with
    | ',' :: cs =>
      let (vs, rest) ← readElements fuel cs
      return (v :: vs, rest)
    | ']' :: rest => return ([v], rest)
    | _ => none

/-- Entries up to the closing brace, after those read so far. -/
def readEntries : Nat → Entries → List Char → Option (Entries × List Char)
  | 0, _, _ => none
  | fuel + 1, es, cs =>
    match skipSpace cs with
    | '"' :: cs => do
      let (k, cs) ← readText (cs.length + 1) cs
      match skipSpace cs with
      | ':' :: cs => do
        let (v, cs) ← readValue fuel cs
        let es := Entries.set (String.ofList k) v es
        match skipSpace cs with
        | ',' :: cs => readEntries fuel es cs
        | '\x7d' :: rest => return (es, rest)
        | _ => none
      | _ => none
    | _ => none

end

/-- The value that a text holds, with nothing but blanks around it. -/
def read? (s : String) : Option Value := do
  let cs := s.toList
  let (v, rest) ← readValue (cs.length + 1) cs
  if (skipSpace rest).isEmpty then some v else none

end ChangeGraph.Json
