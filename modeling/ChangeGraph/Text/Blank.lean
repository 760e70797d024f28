/-! # Blanks

What counts as blank at the ends of a text. A number is read with a narrower idea of a blank than a word: the four
separators from `0x1C` to `0x1F` are blank around a word only. -/

namespace ChangeGraph.Text

def isSeparator (c : Char) : Bool := 0x1C ≤ c.toNat && c.toNat ≤ 0x1F

/-- Blanks around a number. -/
def isNumberBlank (c : Char) : Bool :=
  let n := c.toNat
  (0x09 ≤ n && n ≤ 0x0D) || n == 0x20 || n == 0x85 || n == 0xA0 || n == 0x1680 || (0x2000 ≤ n && n ≤ 0x200A) ||
    n == 0x2028 || n == 0x2029 || n == 0x202F || n == 0x205F || n == 0x3000

/-- Blanks around a word. -/
def isBlank (c : Char) : Bool := isNumberBlank c || isSeparator c

/-- What is left of a list when the elements that satisfy the test are taken off both ends. -/
def trimBoth (p : Char → Bool) (cs : List Char) : List Char :=
  ((cs.dropWhile p).reverse.dropWhile p).reverse

/-- The text without the blanks at its ends. -/
def strip (s : String) : String := String.ofList (trimBoth isBlank s.toList)

/-- The text with ASCII letters in lower case. It is only compared with ASCII words, and no other letter has an ASCII
letter of those words as its lower case. -/
def lower (s : String) : String := String.ofList (s.toList.map Char.toLower)

end ChangeGraph.Text
