import ChangeGraph.Parse.Shape
import ChangeGraph.Script.Context
import ChangeGraph.Script.TypeScript

/-! # Script languages -/

namespace ChangeGraph.Script

open ChangeGraph.Parse
open ChangeGraph.Grammar

def javaScript : Parse.Language :=
  { tables := Tables.ofGrammar JavaScript.grammar, isBlank, scan := scan .plain }

def typeScript : Parse.Language :=
  { tables := Tables.ofGrammar (TypeScript.grammar false), isBlank, scan := scan .typed }

def taggedTypeScript : Parse.Language :=
  { tables := Tables.ofGrammar (TypeScript.grammar true), isBlank, scan := scan .typed }

end ChangeGraph.Script
