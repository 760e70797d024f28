import ChangeGraph.Number.Double

/-! # The shortest decimal of a double

A double is written with the fewest digits that read back as the same double; of several such decimals the nearest
one. For each number of digits only the two neighbours of the double on that decimal grid can be the nearest. -/

namespace ChangeGraph.Double

/-- The largest `k` with `10 ^ k ≤ num / den`. -/
def decade (num den : Nat) : Int :=
  if den ≤ num then ((Nat.toDigits 10 (num / den)).length : Int) - 1
  else
    let n := (Nat.toDigits 10 (den / num)).length
    if den = num * tenTo (n - 1) then -((n : Int) - 1) else -(n : Int)

/-- The reals that round to a double, as bounds over a common denominator. -/
structure Basin where
  value : Nat
  low : Nat
  high : Nat
  den : Nat
  closed : Bool

def basin (m : Nat) (e : Int) : Basin :=
  let below := if m = twoTo (precision - 1) && leastExponent < e then 1 else 2
  let unit := e - 2
  let scale := twoTo unit.toNat
  ⟨4 * m * scale, (4 * m - below) * scale, (4 * m + 2) * scale, twoTo (-unit).toNat, m % 2 = 0⟩

/-- Whether `c * 10 ^ k` rounds to the double. -/
def Basin.holds (b : Basin) (c : Nat) (k : Int) : Bool :=
  let num := c * tenTo k.toNat * b.den
  let den := tenTo (-k).toNat
  if b.closed then b.low * den ≤ num && num ≤ b.high * den else b.low * den < num && num < b.high * den

/-- The decimal of the grid `10 ^ k` that reads back and is nearest, if there is one. -/
def Basin.onGrid (b : Basin) (k : Int) : Option Nat :=
  let num := b.value * tenTo (-k).toNat
  let den := b.den * tenTo k.toNat
  let c := num / den
  match b.holds c k, b.holds (c + 1) k with
  | true, true => some (roundDiv num den)
  | true, false => some c
  | false, true => some (c + 1)
  | false, false => none

/-- The first grid, from coarse to fine, that has a hit. -/
def Basin.shortest (b : Basin) (top : Int) : Nat → Nat × Int
  | 0 => (b.value / b.den, 0)
  | n + 1 =>
    let k := top - (17 - ((n : Int) + 1))
    match b.onGrid k with
    | some c => (c, k)
    | none => b.shortest top n

/-- Digits and power of ten of the shortest decimal; the last digit is not zero. -/
def shortest (m : Nat) (e : Int) : List Char × Int :=
  let b := basin m e
  let (c, k) := b.shortest (decade b.value b.den) 17
  let ds := Nat.toDigits 10 c
  let kept := (ds.reverse.dropWhile (· == '0')).reverse
  (kept, k + (ds.length - kept.length : Nat))

/-- How a decimal is laid out. -/
structure Layout where
  /-- Positional from this power of ten of the first digit on. -/
  least : Int
  /-- Positional below this power of ten of the first digit. -/
  bound : Int

/-- Positional from `0.0001` up to below `10 ^ 16`; an exponent has a sign and two digits at least. -/
def layout : Layout := ⟨-4, 16⟩

def exponentText (x : Int) : List Char :=
  let ds := Nat.toDigits 10 x.natAbs
  let padded := if ds.length < 2 then '0' :: ds else ds
  'e' :: (if x < 0 then '-' else '+') :: padded

def decimalText (ds : List Char) (k : Int) : List Char :=
  let point := (ds.length : Int) + k
  let x := point - 1
  if layout.least ≤ x && x < layout.bound then
    if point ≤ 0 then '0' :: '.' :: List.replicate (-point).toNat '0' ++ ds
    else if (ds.length : Int) ≤ point then ds ++ List.replicate k.toNat '0' ++ ['.', '0']
    else ds.take point.toNat ++ '.' :: ds.drop point.toNat
  else match ds with
    | [] => []
    | [d] => d :: exponentText x
    | d :: rest => d :: '.' :: rest ++ exponentText x

def text : Double → String
  | .finite negative m e =>
    let body := if m = 0 then ['0', '.', '0'] else decimalText (shortest m e).1 (shortest m e).2
    String.ofList (if negative then '-' :: body else body)
  | .infinite negative => if negative then "-inf" else "inf"
  | .undefined => "nan"

end ChangeGraph.Double
