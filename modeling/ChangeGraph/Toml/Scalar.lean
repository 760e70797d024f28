import ChangeGraph.Number.Double
import ChangeGraph.Text.Cut
import ChangeGraph.Text.Integer
import ChangeGraph.Toml.Fault
import ChangeGraph.Value.Basic

/-! # Plain values of a settings text

Texts in quotes, numbers, dates and times. -/

namespace ChangeGraph.Toml

open ChangeGraph.Text (stripChars cutAll cutAt? joinWith)

/-! ### Texts -/

/-- Letters after a backslash that stand for one character, and the characters. -/
def letterEscapes : List (Char × Char) :=
  [('0', Char.ofNat 0), ('b', Char.ofNat 0x08), ('f', Char.ofNat 0x0C), ('n', '\n'), ('r', '\r'), ('t', '\t'),
    ('"', '"')]

/-- The text with its letter escapes replaced. Escapes of numbered characters are left. -/
def unescape : List Char → Except Fault (List Char)
  | [] => .ok []
  | '\\' :: [] => .ok ['\\']
  | '\\' :: c :: cs => do
    match letterEscapes.lookup c with
    | some ch => return ch :: (← unescape cs)
    | none =>
      if c == '\\' then return '\\' :: (← unescape cs)
      else if c == 'u' || c == 'U' then return '\\' :: c :: (← unescape cs)
      else .error .malformed
  | c :: cs => do return c :: (← unescape cs)

/-- Whether a list ends with an odd number of backslashes. -/
def endsEscaping (cs : List Char) : Bool := (cs.reverse.takeWhile (· == '\\')).length % 2 == 1

def hexValue? (c : Char) : Option Nat :=
  if c.isDigit then some (c.toNat - '0'.toNat)
  else if 'a' ≤ c && c ≤ 'f' then some (c.toNat - 'a'.toNat + 10)
  else none

/-- The character of a code that has been found among the pieces after `\u` or `\U`. -/
def coded (width : Nat) (piece : List Char) : Except Fault (List Char) :=
  let code := (piece.take width).map Char.toLower
  match code.mapM hexValue? with
  | none => .error .malformed
  | some ds =>
    if ds.isEmpty || code == ['d'] then .error .emptyText
    else if code.head? == some 'd' && ((code.drop 1).head?.map fun c => c < '0' || '7' < c).getD false then
      .error .malformed
    else
      let n := ds.foldl (fun n d => 16 * n + d) 0
      if n < 0x110000 then .ok (Char.ofNat n :: piece.drop code.length) else .error .malformed

/-- Replaces codes after the mark, except where the backslash of the mark is itself escaped. -/
def decodeFrom (mark : List Char) (width : Nat) (front : List Char) (skip : Bool) :
    List (List Char) → Except Fault (List Char)
  | [] => .ok front
  | piece :: pieces =>
    if skip then decodeFrom mark width (front ++ mark ++ piece) (endsEscaping piece) pieces
    else do
      let ch ← coded width piece
      decodeFrom mark width (front ++ ch) false pieces

def decodeCodes (mark : List Char) (width : Nat) (cs : List Char) : Except Fault (List Char) :=
  match cutAll mark cs with
  | [] => .ok cs
  | [_] => .ok cs
  | front :: pieces => decodeFrom mark width front (endsEscaping front) pieces

/-- Whether every backslash starts an escape that exists. -/
def escapesExist : Bool → List (List Char) → Bool
  | _, [] => true
  | escaped, [] :: pieces => escapesExist (!escaped) pieces
  | escaped, (c :: _) :: pieces =>
    ((letterEscapes.lookup c).isSome || c == 'u' || c == 'U' || escaped) && escapesExist false pieces

/-- Whether nothing follows the closing quote, given the pieces between quotes. `streak` counts the quotes in a row
within a long text. -/
def closesOnce (long : Bool) : Nat → Bool → List (List Char) → Bool
  | _, _, [] => true
  | streak, closed, [] :: pieces =>
    if long then closesOnce long (streak + 1) closed pieces else closesOnce long streak true pieces
  | streak, closed, piece :: pieces =>
    if endsEscaping piece then closesOnce long streak closed pieces
    else if closed then false
    else if !long || 1 < streak then closesOnce long streak true pieces
    else closesOnce long 0 closed pieces

/-- Takes the same number of characters off both ends. -/
def inner (n : Nat) (cs : List Char) : List Char := (cs.drop n).take (cs.length - 2 * n)

/-- A text in quotes; the quotes may be tripled. -/
def readQuoted (quote : Char) (cs : List Char) : Except Fault (List Char) := do
  let pieces := cutAll [quote] (cs.drop 1)
  let (long, pieces) := match pieces with
    | [] :: [] :: rest => (true, rest)
    | _ => (false, pieces)
  if !closesOnce long 0 false pieces then .error .malformed
  else
    let cs ←
      if quote == '"' then
        if !escapesExist false ((cutAll ['\\'] cs).drop 1) then .error .malformed
        else do
          let cs ← decodeCodes ['\\', 'u'] 4 cs
          let cs ← decodeCodes ['\\', 'U'] 8 cs
          unescape cs
      else .ok cs
    let tripled := cs[1]? == some quote && (cs.length < 3 || cs[2]? == some quote)
    return inner 1 (if tripled then inner 2 cs else cs)

/-! ### Numbers -/

/-- Digits in which single underscores may stand between two of them. -/
def digits? : List Char → Option (List Char)
  | [] => some []
  | [c] => if c.isDigit then some [c] else none
  | c :: '_' :: d :: cs => if c.isDigit && d.isDigit then (digits? (d :: cs)).map (c :: ·) else none
  | c :: cs => if c.isDigit then (digits? cs).map (c :: ·) else none

def numberOf (ds : List Char) : Nat := ds.foldl (fun n d => 10 * n + (d.toNat - '0'.toNat)) 0

def takeSign (cs : List Char) : Bool × List Char :=
  match cs with
  | '-' :: rest => (true, rest)
  | '+' :: rest => (false, rest)
  | _ => (false, cs)

/-- The exponent of a number, with its sign. -/
def exponent? (cs : List Char) : Option Int := do
  let (negative, cs) := takeSign cs
  let ds ← digits? cs
  if ds.isEmpty then none else some (if negative then -(numberOf ds : Int) else numberOf ds)

/-- A number with a point, an exponent, both or none, or one of the words for what is no number. -/
def decimal? (cs : List Char) : Option Double := do
  let (negative, cs) := takeSign (stripChars cs)
  let word := String.ofList (cs.map Char.toLower)
  if word == "inf" || word == "infinity" then some (.infinite negative)
  else if word == "nan" then some .undefined
  else
    let isE (c : Char) : Bool := c == 'e' || c == 'E'
    let body := cs.takeWhile (!isE ·)
    let exponent ← match cs.dropWhile (!isE ·) with
      | [] => some 0
      | _ :: rest => exponent? rest
    let whole ← digits? (body.takeWhile (· != '.'))
    let fraction ← digits? ((body.dropWhile (· != '.')).drop 1)
    if whole.isEmpty && fraction.isEmpty then none
    else some (Double.ofDecimal negative (numberOf (whole ++ fraction)) (exponent - fraction.length))

/-- The value of digits in a base, where a single underscore may stand before each. -/
def based? (base : Nat) (cs : List Char) : Option Nat := do
  let ds ← cs.mapM fun c => do
    let n ← hexValue? c.toLower
    if n < base then some n else none
  if ds.isEmpty then none else some (ds.foldl (fun n d => base * n + d) 0)

/-- A whole number, in base ten or with a mark for another base. Zeros in front are allowed only of zero. -/
def whole? (cs : List Char) : Option Int := do
  let (negative, body) := takeSign (stripChars cs)
  let n ← match body with
    | '0' :: 'x' :: rest => based? 16 rest
    | '0' :: 'X' :: rest => based? 16 rest
    | '0' :: 'o' :: rest => based? 8 rest
    | '0' :: 'O' :: rest => based? 8 rest
    | '0' :: 'b' :: rest => based? 2 rest
    | '0' :: 'B' :: rest => based? 2 rest
    | '0' :: rest => if rest.all (· == '0') then some 0 else none
    | _ => Text.readNatural? body
  return if negative then -(n : Int) else n

/-- The difference of zero and a double: the sign changes, but zero has none. -/
def negate : Double → Double
  | .finite negative m e => if m = 0 then Double.zero false else .finite (!negative) m e
  | .infinite negative => .infinite (!negative)
  | .undefined => .undefined

/-- What a value is, as far as the elements of a list must agree. -/
inductive Family where
  | bool
  | text
  | list
  | table
  | time
  | date
  | int
  | float
deriving DecidableEq, Repr

def Family.isNumber (f : Family) : Bool := f == .int || f == .float

def readNumber (cs : List Char) : Except Fault (Value × Family) :=
  let (negative, cs) := takeSign cs
  let cs := cs.filter (· != '_')
  let word := String.ofList (cs.map Char.toLower)
  let signed (x : Double) : Value := .float (if negative then negate x else x)
  let isFloat := cs.contains '.' || (!cs.contains 'x' && (cs.contains 'e' || cs.contains 'E'))
  if isFloat then
    if cs.contains '.' && ((cs.dropWhile (· != '.')).drop 1).isEmpty then .error .malformed
    else if !((cs.head?.map Char.isDigit).getD false) then
      .error (if cs.isEmpty then .emptyText else .malformed)
    else match decimal? cs with
      | some x => .ok (signed x, .float)
      | none => .error .malformed
  else if word == "inf" then .ok (signed (.infinite false), .float)
  else if word == "nan" then .ok (signed .undefined, .float)
  else match whole? cs with
    | some n => .ok (.int (if negative then 0 - n else n), .int)
    | none => .error .malformed

/-! ### Dates and times -/

def between (cs : List Char) (i j : Nat) : List Char := (cs.take j).drop i

def part? (cs : List Char) (i j : Nat) : Option Nat := do
  let n ← Text.readInteger? (String.ofList (between cs i j))
  if 0 ≤ n then some n.toNat else none

/-- Minutes ahead, from a text such as `+01:30`. -/
def ahead? (cs : List Char) : Option Int :=
  if cs == ['Z'] || cs == ['z'] then if cs == ['Z'] then some 0 else none
  else do
    let hours ← part? cs 1 3
    let minutes ← part? cs 4 6
    let n : Int := 60 * hours + minutes
    return if cs.head? == some '-' then -n else n

/-- Millionths of a second, from the digits after the point. -/
def micro? (cs : List Char) : Option Nat := do
  let n ← part? cs 0 cs.length
  return if cs.length ≤ 6 then n * Double.tenTo (6 - cs.length) else n / Double.tenTo (cs.length - 6)

/-- Fraction of a second and offset, from what follows the seconds. If one of the two cannot be read, what was found
before counts. -/
def afterSeconds (cs : List Char) : Nat × Option Int :=
  match cs with
  | [] => (0, none)
  | '.' :: rest =>
    let isSign (c : Char) : Bool := c == '+' || c == '-'
    let (fraction, offset) :=
      if rest.getLast?.map Char.toUpper == some 'Z' then (rest.dropLast, some ['Z'])
      else if rest.contains '+' then (rest.takeWhile (· != '+'), some (rest.dropWhile (· != '+')))
      else if rest.any isSign then (rest.takeWhile (!isSign ·), some (rest.dropWhile (!isSign ·)))
      else (rest, none)
    match offset with
    | none => ((micro? fraction).getD 0, none)
    | some o =>
      match ahead? o, micro? fraction with
      | some minutes, some n => (n, some minutes)
      | _, _ => (0, none)
  | _ => (0, ahead? cs)

def date? (cs : List Char) : Option Moment := do
  if !(cs.drop 1).contains '-' then none
  else
    let day : Day := ⟨← part? cs 0 4, ← part? cs 5 7, ← part? cs 8 10⟩
    if !day.valid then none
    else if cs.length = 10 then some (.day day)
    else
      let (micro, ahead) := afterSeconds (cs.drop 19)
      let clock : Clock := ⟨← part? cs 11 13, ← part? cs 14 16, ← part? cs 17 19, micro⟩
      if clock.valid then some (.instant day clock ahead) else none

/-- A time of day at the start of a text. -/
def time? (cs : List Char) : Option Clock := do
  let two (i : Nat) : Option Nat :=
    match between cs i (i + 2) with
    | [a, b] => if a.isDigit && b.isDigit then some (numberOf [a, b]) else none
    | _ => none
  if cs[2]? != some ':' || cs[5]? != some ':' then none
  else
    let fraction := if cs[8]? == some '.' then ((cs.drop 9).takeWhile Char.isDigit).take 6 else []
    return ⟨← two 0, ← two 3, ← two 6, if 3 ≤ fraction.length then numberOf fraction else 0⟩

end ChangeGraph.Toml
