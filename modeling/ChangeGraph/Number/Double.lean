/-! # Numbers of double precision

A double is a sign, a whole number below `2 ^ 53` and a power of two, or lies beyond all of them. Reading rounds a
quotient of whole numbers to the nearest double, a tie to the even one, in exact arithmetic. -/

namespace ChangeGraph

inductive Double where
  /-- The number `significand * 2 ^ exponent`, with the sign in front. -/
  | finite (negative : Bool) (significand : Nat) (exponent : Int)
  | infinite (negative : Bool)
  | undefined
deriving DecidableEq, Repr, Inhabited

namespace Double

/-- Bits of a full significand. -/
def precision : Nat := 53

def leastExponent : Int := -1074

def greatestExponent : Int := 971

/-- A power of two. -/
def twoTo (n : Nat) : Nat := Nat.pow 2 n

/-- A power of ten. -/
def tenTo (n : Nat) : Nat := Nat.pow 10 n

def zero (negative : Bool) : Double := .finite negative 0 leastExponent

/-- Nearest whole number to `num / den`, a tie to the even one. -/
def roundDiv (num den : Nat) : Nat :=
  let q := num / den
  let r := num % den
  if 2 * r < den then q else if den < 2 * r then q + 1 else if q % 2 = 0 then q else q + 1

/-- The quotient `num / den / 2 ^ e` as a quotient of whole numbers. -/
def scaled (num den : Nat) (e : Int) : Nat × Nat :=
  if 0 ≤ e then (num, den * twoTo e.toNat) else (num * twoTo (-e).toNat, den)

/-- The exponent at which the whole part of `num / den` has just as many bits as a full significand, but no less than
the least exponent. -/
def exponentFor (num den : Nat) : Int :=
  let guess : Int := (Nat.log2 num : Int) - (Nat.log2 den : Int) - precision
  let fit := if (scaled num den guess).1 / (scaled num den guess).2 < twoTo precision then guess else guess + 1
  max fit leastExponent

def ofQuotient (negative : Bool) (num den : Nat) : Double :=
  if num = 0 then zero negative
  else
    let e := exponentFor num den
    let m := roundDiv (scaled num den e).1 (scaled num den e).2
    let (m, e) := if m = twoTo precision then (twoTo (precision - 1), e + 1) else (m, e)
    if greatestExponent < e then .infinite negative else .finite negative m e

/-- The double nearest to `digits * 10 ^ exponent`. Beyond the bounds the answer is plain without the large power. -/
def ofDecimal (negative : Bool) (digits : Nat) (exponent : Int) : Double :=
  let places : Int := (Nat.toDigits 10 digits).length
  if digits = 0 then zero negative
  else if 310 < places + exponent then .infinite negative
  else if places + exponent < -400 then zero negative
  else if 0 ≤ exponent then ofQuotient negative (digits * tenTo exponent.toNat) 1
  else ofQuotient negative digits (tenTo (-exponent).toNat)

end Double

end ChangeGraph
