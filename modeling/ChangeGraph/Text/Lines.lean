import ChangeGraph.Text.Blank

/-! # Lines

A text is cut at a character; the pieces are as many as the cuts and one more. -/

namespace ChangeGraph.Text

/-- The pieces of a list between the elements equal to `sep`. -/
def splitAtEach {α : Type} [BEq α] (sep : α) : List α → List (List α)
  | [] => [[]]
  | c :: cs =>
    if c == sep then [] :: splitAtEach sep cs
    else match splitAtEach sep cs with
      | [] => [[c]]
      | p :: ps => (c :: p) :: ps

/-- The words between blanks. -/
def words (cs : List Char) : List (List Char) :=
  (splitAtEach ' ' (cs.map fun c => if isBlank c then ' ' else c)).filter (!·.isEmpty)

/-- The pieces of a text between line feeds. -/
def splitLines (s : String) : List String := (splitAtEach '\n' s.toList).map String.ofList

/-- A carriage return, alone or before a line feed, read as a line feed. -/
def plainLineEnds : List Char → List Char
  | [] => []
  | '\r' :: '\n' :: cs => '\n' :: plainLineEnds cs
  | c :: cs => (if c == '\r' then '\n' else c) :: plainLineEnds cs

def withPlainLineEnds (s : String) : String := String.ofList (plainLineEnds s.toList)

/-- The text without the carriage returns at its end. -/
def dropReturns (s : String) : String := String.ofList (s.toList.reverse.dropWhile (· == '\r')).reverse

end ChangeGraph.Text
