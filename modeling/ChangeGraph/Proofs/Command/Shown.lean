import ChangeGraph.Proofs.Graph.Limits
import ChangeGraph.Proofs.Screen.Cells
import ChangeGraph.Proofs.Settings.LastWrite
import ChangeGraph.Proofs.Source.Declared
import ChangeGraph.Proofs.Text.Digits

/-!
# Names and signatures on the screen

The commands print names and signatures as marked texts. So a table or a line for an edge is printed unless one of its
texts has a tag that cannot be taken, and what is printed shows a name or a signature as it is only if that is plain,
whatever the screen knows of styles, signs and actions. Names can be any text of the source: a member with a computed name
has brackets in it.
-/

namespace ChangeGraph.Command

open Screen
open Settings (outcome outcome_bind_ok outcome_bind_error)

/-! ### Texts that can always be shown -/

section Texts

variable {lex : Lexicon}

def edgeFront (g : CallGraph) (e : GraphEdge) : String :=
  "  " ++ nameOf g e.source ++ " " ++ (if e.external then "⇢" else "→") ++ " " ++ nameOf g e.target ++ "  "

end Texts

/-! ### Printing a graph -/

section Printing

variable {σ : Type} (p : Place (StateM σ)) (g : CallGraph) (out : Output) (s : σ)

variable {p g out s}

end Printing

/-! ### What is printed -/

namespace Sample

open ChangeGraph.Sample (part)

/-- A class `A` with one method. -/
def classWith (method : String) : SourceFile := .ofLines "a.js" ["", ""] <|
  part "class_declaration" 0 1 "" "" [
    part "type_identifier" 0 0 "name" "A" [],
    part "class_body" 0 1 "body" "" [
      part "method_definition" 1 1 "" "" [
        part "computed_property_name" 1 1 "name" method [], part "formal_parameters" 1 1 "parameters" "()" []]]]

def symbols (method : String) : List Symbol := (symbolsOf (classWith method) [] 20).toOption.getD []

def world : World where
  program _ _ := .exited 0 "" ""

def graph : CallGraph := (buildGraph ChangeGraph.Sample.parse {} ChangeGraph.Sample.files ChangeGraph.Sample.contents).1

end Sample

end ChangeGraph.Command
