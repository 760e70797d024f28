/-! # Places in a text

A cursor holds what is left of a text together with how much stands before it, counted in bytes, rows and bytes
since the row began. Only a line feed ends a row. -/

namespace ChangeGraph.Parse

structure Cursor where
  offset : Nat
  row : Nat
  column : Nat
  rest : List Char
deriving Inhabited, Repr

namespace Cursor

def ofText (text : String) : Cursor := ⟨0, 0, 0, text.toList⟩

/-- Steps over the given number of characters. -/
def advance : Nat → Cursor → Cursor
  | 0, c => c
  | n + 1, c =>
    match c.rest with
    | [] => c
    | ch :: rest =>
      let size := ch.utf8Size
      if ch == '\n' then advance n ⟨c.offset + size, c.row + 1, 0, rest⟩
      else advance n ⟨c.offset + size, c.row, c.column + size, rest⟩

/-- Steps over characters as long as they satisfy the test. -/
def skipWhile (p : Char → Bool) (c : Cursor) : Cursor := c.advance (c.rest.takeWhile p).length

def atEnd (c : Cursor) : Bool := c.rest.isEmpty

end Cursor

end ChangeGraph.Parse
