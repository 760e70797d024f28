import ChangeGraph.Proofs.Dot.Quoted
import ChangeGraph.Proofs.Outcome
import ChangeGraph.Proofs.Screen.Signs
import ChangeGraph.Proofs.Text.Cutting

/-!
# What marks do to a text

A text is shown as it is if and only if nothing in it is a mark: no bracket opens a tag, no backslash stands right
before a bracket, and no word between colons is the name of a sign. Every mark takes a bracket, a backslash or a colon
with it, so that it is enough to count them. A text cannot be shown at all if and only if one of its tags cannot be
taken.
-/

namespace ChangeGraph.Screen

open Dot (backslashes)
open Text (splitAtEach)

/-- No backslash stands right before a bracket, and no bracket opens a tag. -/
def Tagless (cs : List Char) : Prop :=
  ∀ front back, cs = front ++ '[' :: back → front.getLast? ≠ some '\\' ∧
    ¬ ∃ c inside rest, back = c :: (inside ++ ']' :: rest) ∧ opensTag c = true ∧ '[' ∉ inside

/-- Nothing in a text is a mark. -/
structure Plain (lex : Lexicon) (cs : List Char) : Prop where
  tagless : Tagless cs
  unsigned : Unsigned lex cs

/-! ### Tags -/

section Taking

variable {lex : Lexicon} {opened : List Tag} {inside : List Char}

end Taking

/-! ### Counting marks -/

def isBracket (c : Char) : Bool := c == '[' || c == ']'

namespace Marked

variable {lex : Lexicon} {m m' : Marked} {position : Nat} {read p inside rest : List Char} {ps : List (List Char)}

/-! ### How far a reading has got -/

/-- The reading has got to the end of a text, as far as the characters behind its last bracket go. -/
def Ends (m : Marked) (read : List Char) : Prop :=
  m.recent.takeWhile (!isBracket ·) = read.reverse.takeWhile (!isBracket ·)

theorem Ends.slashes (h : m.Ends read) : (m.recent.takeWhile (· == '\\')).length = backslashes read := by
  have hwhile : ∀ cs : List Char, (cs.takeWhile (!isBracket ·)).takeWhile (· == '\\') = cs.takeWhile (· == '\\') := by
    intro cs
    rw [List.takeWhile_takeWhile]
    congr 1
    funext c
    by_cases hc : c = '\\'
    · subst hc
      rfl
    · simp [hc]
  rw [backslashes, ← hwhile m.recent, ← hwhile read.reverse, h]

/-- The last character of a text was read last, unless it is a bracket. -/
theorem Ends.head? (h : m.Ends read) {c : Char} (hlast : read.getLast? = some c) (hc : isBracket c = false) :
    m.recent.head? = some c := by
  obtain ⟨front, rfl⟩ := List.getLast?_eq_some_iff.mp hlast
  rw [Ends, List.reverse_append, List.reverse_singleton, List.singleton_append,
    List.takeWhile_cons_of_pos (by simp [hc])] at h
  cases hrecent : m.recent with
  | nil => simp [hrecent] at h
  | cons d r =>
    rw [hrecent, List.takeWhile_cons] at h
    split at h
    next => rw [List.head?_cons, (List.cons.inj h).1]
    next => cases h

/-! ### Steps -/

/-- The marks that are left so far. -/
def weight (m : Marked) : Nat := marks m.recent + marks m.shown

end Marked

/-! ### Texts -/

section Texts

variable {lex : Lexicon} {s t core : String} {front : List Char} {ps : List (List Char)}

end Texts

end ChangeGraph.Screen
