import ChangeGraph.Screen.Lines
import ChangeGraph.Screen.Markup

/-! # Rules

Lines across the screen. -/

namespace ChangeGraph.Screen

def bar (n : Nat) : List Char := List.replicate n '─'

/-- A rule with a title in its middle, between blanks. -/
def titled (limit : Nat) (title : List Char) : List Char :=
  let flat := expandTabs (title.map fun c => if c == '\n' then ' ' else c)
  let shown := cutTo .cut (limit - 4) flat
  let side := (limit - Text.columnsOf shown) / 2
  fitting limit (bar (side - 1) ++ ' ' :: shown ++ ' ' :: bar (side + 1))

/-- A rule as it is printed. The title is marked text; without one there is nothing but the rule. -/
def rule (lex : Lexicon) (limit : Nat) (title : String) : Except MarkFault String :=
  if title.isEmpty then .ok (ended [bar limit])
  else (marked lex title).map fun t => ended [titled limit t]

end ChangeGraph.Screen
