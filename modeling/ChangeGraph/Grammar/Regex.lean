/-! # Regular patterns

Patterns over characters, matched by derivatives: the derivative of a pattern by a character matches what may follow
that character. Dead patterns collapse to `never`, so that matching stops as soon as it cannot succeed. -/

namespace ChangeGraph.Grammar

inductive Regex where
  | never
  | empty
  | char (p : Char → Bool)
  | seq (a b : Regex)
  | alt (a b : Regex)
  | star (a : Regex)

namespace Regex

def then_ : Regex → Regex → Regex
  | never, _ => never
  | empty, b => b
  | _, never => never
  | a, b => seq a b

def or_ : Regex → Regex → Regex
  | never, b => b
  | a, never => a
  | a, b => alt a b

def nullable : Regex → Bool
  | never | char _ => false
  | empty | star _ => true
  | seq a b => a.nullable && b.nullable
  | alt a b => a.nullable || b.nullable

def deriv (c : Char) : Regex → Regex
  | never | empty => never
  | char p => if p c then empty else never
  | seq a b =>
    let first := then_ (a.deriv c) b
    if a.nullable then or_ first (b.deriv c) else first
  | alt a b => or_ (a.deriv c) (b.deriv c)
  | star a => then_ (a.deriv c) (star a)

def isNever : Regex → Bool
  | never => true
  | _ => false

/-- Length of the longest match at the start of a text. -/
def longest (r : Regex) : List Char → Option Nat
  | [] => if r.nullable then some 0 else none
  | c :: cs =>
    let d := r.deriv c
    let more := if d.isNever then none else d.longest cs
    match more with
    | some n => some (n + 1)
    | none => if r.nullable then some 0 else none

/-! ### Building patterns -/

def lit (text : String) : Regex := text.toList.foldr (fun c r => then_ (char (· == c)) r) empty

def oneOf (chars : String) : Regex := char fun c => chars.contains c

def noneOf (chars : String) : Regex := char fun c => !chars.contains c

def seqs : List Regex → Regex
  | [] => empty
  | r :: rs => then_ r (seqs rs)

def alts : List Regex → Regex
  | [] => never
  | r :: rs => or_ r (alts rs)

def opt (r : Regex) : Regex := or_ r empty

def plus (r : Regex) : Regex := then_ r (star r)

/-- The pattern the given number of times. -/
def times (r : Regex) : Nat → Regex
  | 0 => empty
  | n + 1 => then_ r (times r n)

/-- At least `low` and at most `low + more` times. -/
def upTo (r : Regex) (low : Nat) : Nat → Regex
  | 0 => times r low
  | more + 1 => or_ (times r (low + more + 1)) (upTo r low more)

def digit : Regex := char Char.isDigit

def hexDigit : Regex := char fun c => c.isDigit || ('a' ≤ c && c ≤ 'f') || ('A' ≤ c && c ≤ 'F')

end Regex

end ChangeGraph.Grammar
