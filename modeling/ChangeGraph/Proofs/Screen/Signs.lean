import ChangeGraph.Screen.Markup
import Mathlib.Data.List.Basic
import Mathlib.Tactic.Common

/-!
# Signs in the place of their names

A word between colons may be the name of a sign, which is then shown in its place. A sign holds no marks while its name
stands between two of them, so a text has fewer marks after a sign was put in, and no other text changes. Names do not
reach over blanks: a text that ends with a blank can be worked on apart from what follows it.
-/

namespace ChangeGraph.Screen

open Text (isBlank)

variable {lex : Lexicon}

/-! ### Counting marks -/

def marks (cs : List Char) : Nat := cs.countP isMark

/-- The characters that are held back while a word may still end with a colon. -/
def held : Option (List Char) → List Char
  | none => []
  | some word => ':' :: word.reverse

/-- No word between colons is the name of a sign. -/
def Unsigned (lex : Lexicon) (cs : List Char) : Prop := ∀ word, Part.code word ∈ parts cs → sign? lex word = none

end ChangeGraph.Screen
