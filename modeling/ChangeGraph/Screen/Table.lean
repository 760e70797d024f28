import ChangeGraph.Screen.Lines
import ChangeGraph.Screen.Markup

/-! # Tables

A table has a title over it, a heading for each column and cells that are marked text. A column is as wide as its
widest cell, and wide columns give way when the table does not fit the screen. -/

namespace ChangeGraph.Screen

structure Column where
  heading : String
  align : Align := .left
deriving DecidableEq, Repr

structure Table where
  title : String
  columns : List Column
  rows : List (List String)
deriving DecidableEq, Repr

/-! ### Widths -/

/-- Blanks on both sides of a cell. -/
def cellGap : Nat := 2

def isLineEnd (c : Char) : Bool :=
  [0x0A, 0x0B, 0x0C, 0x0D, 0x1C, 0x1D, 0x1E, 0x85, 0x2028, 0x2029].contains c.toNat

/-- The columns of the screen that the longest line of a text takes. -/
def widest (taken most : Nat) : List Char → Nat
  | [] => max taken most
  | c :: cs => if isLineEnd c then widest 0 (max taken most) cs else widest (taken + Text.columns c) most cs

/-- The width of a column that holds some cells and must not be wider than a limit. -/
def columnWidth (limit : Nat) (cells : List (List Char)) : Nat :=
  if limit < cellGap + 1 then limit
  else min limit ((cells.map (widest 0 0)).foldl max 0 + cellGap)

def total (ns : List Nat) : Nat := ns.foldr (· + ·) 0

/-- The quotient to the nearest integer, a half to the even one. -/
def nearest (a b : Nat) : Nat :=
  let q := a / b
  let twice := 2 * (a % b)
  if twice < b then q else if b < twice then q + 1 else q + q % 2

/-- Takes an amount from widths by their shares, from each no more than its most. -/
def reduce : Nat → Nat → List (Nat × Nat × Nat) → List Nat
  | _, _, [] => []
  | amount, shares, (share, most, width) :: ws =>
    if 0 < share && 0 < shares then
      let taken := min most (nearest (share * amount) shares)
      (width - taken) :: reduce (amount - taken) (shares - share) ws
    else width :: reduce amount shares ws

def reduceAll (amount : Nat) (ws : List (Nat × Nat × Nat)) : List Nat :=
  let counted := ws.map fun (share, most, width) => (if most = 0 then 0 else share, most, width)
  let shares := total (counted.map (·.1))
  if shares = 0 then ws.map (·.2.2) else reduce amount shares counted

/-- Lets the widest columns give way to the next widest ones until all fit, in at most so many steps. -/
def giveWay (limit : Nat) : Nat → List Nat → List Nat
  | 0, ws => ws
  | n + 1, ws =>
    let excess := total ws - limit
    let first := ws.foldl max 0
    let second := (ws.filter (· != first)).foldl max 0
    if excess = 0 || first = second then ws
    else giveWay limit n (reduceAll excess (ws.map fun w => (if w = first then 1 else 0, min excess (first - second), w)))

/-- The width of each column, for the cells of each. -/
def columnWidths (limit : Nat) (columns : List (List (List Char))) : List Nat :=
  let ws := columns.map fun cells => max 1 (columnWidth limit cells)
  if total ws ≤ limit then ws
  else
    let ws := giveWay limit (total ws) ws
    let ws := if total ws ≤ limit then ws else reduceAll (total ws - limit) (ws.map fun w => (1, w, w))
    (ws.zip columns).map fun (w, cells) => columnWidth w cells

/-! ### Drawing -/

/-- The characters of a line: at its left end, along it, between columns and at its right end. -/
structure Edge where
  left : Char
  along : Char
  between : Char
  right : Char
deriving DecidableEq, Repr

def topEdge : Edge := ⟨'┏', '━', '┳', '┓'⟩

def headEdge : Edge := ⟨'┡', '━', '╇', '┩'⟩

def bottomEdge : Edge := ⟨'└', '─', '┴', '┘'⟩

/-- Parts between the two ends of an edge. -/
def Edge.around (e : Edge) (parts : List (List Char)) : List Char :=
  e.left :: ([e.between].intercalate parts ++ [e.right])

def Edge.line (e : Edge) (ws : List Nat) : List Char := e.around (ws.map fun w => List.replicate w e.along)

/-- The lines of a cell within its width. -/
def cellLines (a : Align) (width : Nat) (cell : List Char) : List (List Char) :=
  let inside := width - cellGap
  (layLines a .cut inside cell).map fun l => ' ' :: l ++ blanks (inside - Text.columnsOf l) ++ [' ']

/-- A row, as many lines high as its highest cell. -/
def rowLines (bar : Char) (cells : List (Align × Nat × List Char)) : List (List Char) :=
  let parts := cells.map fun (a, w, cell) => (w, cellLines a w cell)
  let height := (parts.map (·.2.length)).foldl max 0
  (List.range height).map fun i =>
    (⟨bar, ' ', bar, bar⟩ : Edge).around (parts.map fun (w, ls) => (ls[i]?).getD (blanks w))

/-- The lists of the n-th elements, for each n below a number. -/
def transpose {α : Type} (n : Nat) (rows : List (List α)) : List (List α) :=
  (List.range n).map fun i => rows.filterMap (·[i]?)

/-- A table as it is printed on a screen of so many columns. -/
def Table.printed (t : Table) (lex : Lexicon) (limit : Nat) : Except MarkFault String := do
  let n := t.columns.length
  let byColumn ← (transpose n (t.columns.map (·.heading) :: t.rows)).mapM (·.mapM (marked lex))
  let ws := columnWidths (limit - (n + 1)) byColumn
  let title ← marked lex t.title
  let whole := total ws + (n + 1)
  let aligns := t.columns.map (·.align)
  let row (bar : Char) (cells : List (List Char)) : List (List Char) := rowLines bar (aligns.zip (ws.zip cells))
  match transpose (t.rows.length + 1) byColumn with
  | [] => return ""
  | head :: rows =>
    return ended (layLines .center .fold whole title ++ [topEdge.line ws] ++ row '┃' head ++ [headEdge.line ws] ++
      rows.flatMap (row '│') ++ [bottomEdge.line ws])

end ChangeGraph.Screen
