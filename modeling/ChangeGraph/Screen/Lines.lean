import ChangeGraph.Text.Blank
import ChangeGraph.Text.Columns
import ChangeGraph.Text.Lines

/-! # Lines of a screen

A text is broken into lines that fit a number of columns, at blanks where that is possible. -/

namespace ChangeGraph.Screen

/-- Fills tabs up to the next multiple of eight columns. -/
def expandFrom (column : Nat) : List Char → List Char
  | [] => []
  | c :: cs =>
    if c == '\t' then
      let gap := 8 - column % 8
      List.replicate gap ' ' ++ expandFrom (column + gap) cs
    else c :: expandFrom (column + Text.columns c) cs

def expandTabs (cs : List Char) : List Char := expandFrom 0 cs

/-! ### Words -/

/-- Puts a character before words. Blanks belong to the word before them. -/
def putBefore (c : Char) : List (List Char) → List (List Char)
  | [] => [[c]]
  | w :: ws =>
    let blanks := w.takeWhile Text.isBlank
    let rest := w.dropWhile Text.isBlank
    if Text.isBlank c || blanks.isEmpty then (c :: w) :: ws
    else if rest.isEmpty then (c :: blanks) :: ws
    else (c :: blanks) :: rest :: ws

/-- The words of a line, each with the blanks after it, the first also with those before it. -/
def words (cs : List Char) : List (List Char) := cs.foldr putBefore []

def trimEnd (cs : List Char) : List Char := (cs.reverse.dropWhile Text.isBlank).reverse

/-- Pieces of a word that fit a number of columns each. -/
def chopFrom (limit : Nat) : List Char → Nat → List Char → List (List Char)
  | piece, _, [] => [piece.reverse]
  | piece, taken, c :: cs =>
    if limit < taken + Text.columns c then piece.reverse :: chopFrom limit [c] (Text.columns c) cs
    else chopFrom limit (c :: piece) (taken + Text.columns c) cs

def chop (limit : Nat) (cs : List Char) : List (List Char) := chopFrom limit [] 0 cs

/-! ### Breaking -/

/-- What happens to a word that is longer than a line: it goes on in the next line, or it is cut and marked. -/
inductive Overflow where
  | fold
  | cut
deriving DecidableEq, Repr

/-- Lines under way: those that are full, last first, the one that grows, and the columns it takes. -/
structure Filling where
  full : List (List Char) := []
  line : List Char := []
  taken : Nat := 0
deriving DecidableEq, Repr

namespace Filling

def add (f : Filling) (w : List Char) : Filling :=
  { f with line := f.line ++ w, taken := f.taken + Text.columnsOf w }

/-- Ends the line and begins one with a word. A line with nothing in it stays. -/
def startLine (f : Filling) (w : List Char) : Filling :=
  { full := if f.line.isEmpty then f.full else f.line :: f.full, line := w, taken := Text.columnsOf w }

def addWord (o : Overflow) (limit : Nat) (f : Filling) (w : List Char) : Filling :=
  let needed := Text.columnsOf (trimEnd w)
  if f.taken + needed ≤ limit then f.add w
  else if limit < needed then
    match o with
    | .fold => (chop limit w).foldl startLine f
    | .cut => f.startLine w
  else f.startLine w

def lines (f : Filling) : List (List Char) := (f.line :: f.full).reverse

end Filling

/-- The lines of one line of text. -/
def breakLine (o : Overflow) (limit : Nat) (cs : List Char) : List (List Char) :=
  ((words cs).foldl (Filling.addWord o limit) {}).lines

/-! ### Fitting -/

/-- Takes blanks from the end of a line that is too long. -/
def dropExcess (limit : Nat) (cs : List Char) : List Char :=
  cs.take (cs.length - min (cs.length - (trimEnd cs).length) (cs.length - limit))

/-- The characters that fit a number of columns; a blank stands for half of a wide one. -/
def fitting : Nat → List Char → List Char
  | _, [] => []
  | limit, c :: cs =>
    let n := Text.columns c
    if n ≤ limit then c :: fitting (limit - n) cs
    else List.replicate limit ' '

def blanks (n : Nat) : List Char := List.replicate n ' '

/-- Cuts a line that is too long. -/
def cutTo (o : Overflow) (limit : Nat) (cs : List Char) : List Char :=
  if limit < Text.columnsOf cs then
    match o with
    | .fold => fitting limit cs
    | .cut => fitting (limit - 1) cs ++ ['…']
  else cs

inductive Align where
  /-- As the text is, with nothing after it. -/
  | natural
  | left
  | center
  | right
deriving DecidableEq, Repr

def alignTo (a : Align) (o : Overflow) (limit : Nat) (cs : List Char) : List Char :=
  let gap (line : List Char) : Nat := limit - Text.columnsOf line
  match a with
  | .natural => cs
  | .left =>
    let line := cutTo o limit cs
    line ++ blanks (gap line)
  | .center =>
    let line := cutTo o limit (trimEnd cs)
    blanks (gap line / 2) ++ line ++ blanks (gap line - gap line / 2)
  | .right =>
    let line := cutTo o limit (trimEnd cs)
    blanks (gap line) ++ line

/-- The lines of a text, each fitting a number of columns. -/
def layLines (a : Align) (o : Overflow) (limit : Nat) (cs : List Char) : List (List Char) :=
  (Text.splitAtEach '\n' cs).flatMap fun line =>
    (breakLine o limit (expandTabs line)).map fun l => cutTo o limit (alignTo a o limit (dropExcess limit l))

/-- Text with a line end after each line. -/
def ended (ls : List (List Char)) : String := String.ofList (ls.flatMap (· ++ ['\n']))

/-- A text as it is printed. -/
def printed (limit : Nat) (cs : List Char) : String := ended (layLines .natural .fold limit cs)

end ChangeGraph.Screen
