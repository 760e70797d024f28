import ChangeGraph.Proofs.Screen.Wrapping
import ChangeGraph.Screen.Table
import Mathlib.Data.List.GetD

/-!
# What a table shows

A table is drawn unless one of its texts cannot be shown. The drawing has a block of lines for each row, in which the
columns stand side by side, and the part of a block that belongs to a cell shows the text of the cell up to wrapping
only if that is plain. A plain text is shown whenever it is not cut to the width of its column, and a table that fits
the screen cuts nothing.
-/

namespace ChangeGraph.Screen

open Text (columns columnsOf isBlank splitAtEach stripChars)

/-! ### Rows and columns -/

section Transpose

variable {α β : Type} {rows : List (List α)} {n : Nat}

end Transpose

/-! ### Texts that cannot be shown -/

variable {lex : Lexicon}

/-- What a text shows, nothing if it cannot be shown. -/
def shown (lex : Lexicon) (s : String) : List Char := (marked lex s).toOption.getD []

namespace Table

variable {t : Table}

/-- Every row has a cell for each column. -/
def Rectangular (t : Table) : Prop := ∀ row ∈ t.rows, row.length = t.columns.length

/-- All texts of a table but its title, with the headings as the first row. -/
def texts (t : Table) : List (List String) := t.columns.map (·.heading) :: t.rows

theorem Rectangular.texts (h : t.Rectangular) : ∀ row ∈ t.texts, row.length = t.columns.length :=
  List.forall_mem_cons.mpr ⟨List.length_map _, h⟩

/-- The widths of the columns. -/
def widths (t : Table) (lex : Lexicon) (limit : Nat) : List Nat :=
  columnWidths (limit - (t.columns.length + 1)) (transpose t.columns.length (t.texts.map (·.map (shown lex))))

/-- The cells of a row, each with its way of standing in a column and with the width of that. -/
def cells (t : Table) (lex : Lexicon) (limit : Nat) (row : List String) : List (Align × Nat × List Char) :=
  (t.columns.map (·.align)).zip ((t.widths lex limit).zip (row.map (shown lex)))

/-- The lines above all rows. -/
def head (t : Table) (lex : Lexicon) (limit : Nat) : List (List Char) :=
  layLines .center .fold (total (t.widths lex limit) + (t.columns.length + 1)) (shown lex t.title) ++
    [topEdge.line (t.widths lex limit)] ++ rowLines '┃' (t.cells lex limit (t.columns.map (·.heading))) ++
    [headEdge.line (t.widths lex limit)]

end Table

/-! ### Widths -/

/-- The width that a column takes if there is room. -/
def naturalWidth (cells : List (List Char)) : Nat := (cells.map (widest 0 0)).foldl max 0 + cellGap

/-- No tabs, and no line ends but line feeds. -/
def Tame (cs : List Char) : Prop := ∀ c ∈ cs, c ≠ '\t' ∧ (isLineEnd c = true → c = '\n')

/-- Columns side by side between bars, so many lines high. -/
def beside (bar : Char) (parts : List (List (List Char))) (height : Nat) : List (List Char) :=
  (List.range height).map fun i => (⟨bar, ' ', bar, bar⟩ : Edge).around (parts.map fun part => part.getD i [])

/-- A part of a drawing shows a text in a column of some width only if the text is plain. It shows a plain text that is
not cut; where there is room for all columns, that is a tame one. -/
structure CellShows (lex : Lexicon) (room : Prop) (width : Nat) (text : String) (part : List (List Char)) : Prop where
  plain : Wrapped part (unmarked text) → Plain lex text.toList
  uncut : Plain lex text.toList → Uncut (width - cellGap) (unmarked text) → Wrapped part (unmarked text)
  tame : Plain lex text.toList → room → Tame (unmarked text) → Wrapped part (unmarked text)

namespace Table

variable {t : Table} {limit : Nat}

/-- The screen has room for the columns of a table as wide as their longest texts. -/
def Fits (t : Table) (lex : Lexicon) (limit : Nat) : Prop :=
  total ((transpose t.columns.length (t.texts.map (·.map (shown lex)))).map naturalWidth) + (t.columns.length + 1) ≤ limit

/-- The texts of a row, each with its way of standing in a column and with the width of that. -/
def entries (t : Table) (lex : Lexicon) (limit : Nat) (row : List String) : List (Align × Nat × String) :=
  (t.columns.map (·.align)).zip ((t.widths lex limit).zip row)

/-- Lines show a row: its columns stand side by side in them, and each one that is not centered or at the right shows
the text of its cell. -/
def RowShows (t : Table) (lex : Lexicon) (limit : Nat) (row : List String) (block : List (List Char)) : Prop :=
  ∃ parts, parts.length = row.length ∧ block = beside '│' parts block.length ∧
    List.Forall₂ (fun e part => part.length = block.length ∧
      (e.1 = .left → CellShows lex (t.Fits lex limit) e.2.1 e.2.2 part)) (t.entries lex limit row) parts

/-- A printed text shows a table: it has a block of lines for each row. -/
def Shows (t : Table) (lex : Lexicon) (limit : Nat) (out : String) : Prop :=
  ∃ front blocks back, out = ended (front ++ blocks.flatten ++ back) ∧ List.Forall₂ (t.RowShows lex limit) t.rows blocks

end Table

end ChangeGraph.Screen
