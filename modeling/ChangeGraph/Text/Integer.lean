import ChangeGraph.Text.Blank
import ChangeGraph.Text.Digit

/-! # Integers as people write them

Blanks may stand around the number, a sign in front of it and single underscores between digits. The digits may be of
any script, also mixed. A number has at most `digitLimit` digits. -/

namespace ChangeGraph.Text

def digitLimit : Nat := 4300

/-- Whether an integer has no more digits than can be written. -/
def isShort (n : Int) : Bool := (toString n.natAbs).length ≤ digitLimit

/-- Told of an integer that cannot be written. -/
def longNumberMessage : String :=
  s!"Exceeds the limit ({digitLimit} digits) for integer string conversion; " ++
    "use sys.set_int_max_str_digits() to increase the limit"

/-- The values of the digits of a text in which an underscore may stand between two digits. -/
def digitsOf? : List Char → Option (List Nat)
  | [] => none
  | [c] => do return [← digit? c]
  | c :: '_' :: rest => do return (← digit? c) :: (← digitsOf? rest)
  | c :: rest => do return (← digit? c) :: (← digitsOf? rest)

/-- The number that decimal digits stand for. -/
def ofDigits (ds : List Nat) : Nat := ds.foldl (fun n d => 10 * n + d) 0

def readNatural? (cs : List Char) : Option Nat := do
  let ds ← digitsOf? cs
  if ds.length ≤ digitLimit then some (ofDigits ds) else none

def readInteger? (s : String) : Option Int :=
  match trimBoth isNumberBlank s.toList with
  | '-' :: cs => (readNatural? cs).map fun n => -(n : Int)
  | '+' :: cs => (readNatural? cs).map fun n => (n : Int)
  | cs => (readNatural? cs).map fun n => (n : Int)

end ChangeGraph.Text
