import ChangeGraph.Text.Blank
import ChangeGraph.Text.Lines

/-! # Cutting texts at a separator -/

namespace ChangeGraph.Text

/-- What stands before the first occurrence of a separator and what stands after it. -/
def cutAt? (sep : List Char) : List Char → Option (List Char × List Char)
  | [] => if sep.isEmpty then some ([], []) else none
  | c :: cs =>
    if sep.isPrefixOf (c :: cs) then some ([], (c :: cs).drop sep.length)
    else (cutAt? sep cs).map fun (front, back) => (c :: front, back)

/-- The pieces of a text when it is cut at a separator at most `n` times, from the front. -/
def cutUpTo (sep : List Char) : Nat → List Char → List (List Char)
  | 0, cs => [cs]
  | n + 1, cs =>
    match cutAt? sep cs with
    | none => [cs]
    | some (front, back) => front :: cutUpTo sep n back

/-- The pieces of a text between all occurrences of a separator. -/
def cutAll (sep : List Char) (cs : List Char) : List (List Char) := cutUpTo sep cs.length cs

/-- How often a separator occurs, counted without overlap. -/
def occurrences (sep : List Char) (cs : List Char) : Nat := (cutAll sep cs).length - 1

/-- Pieces put together with a separator between them. -/
def joinWith (sep : List Char) : List (List Char) → List Char
  | [] => []
  | [p] => p
  | p :: ps => p ++ sep ++ joinWith sep ps

def stripChars (cs : List Char) : List Char := trimBoth isBlank cs

end ChangeGraph.Text
