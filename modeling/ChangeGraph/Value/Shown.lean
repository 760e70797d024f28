import ChangeGraph.Number.Shortest
import ChangeGraph.Text.Quoted
import ChangeGraph.Value.Basic

/-! # Values in messages

The text of a value as messages show it, and the word for its kind. -/

namespace ChangeGraph.Value

mutual

def shown : Value → String
  | .null => "None"
  | .bool b => if b then "True" else "False"
  | .int n => toString n
  | .float x => x.text
  | .text s => Text.quoted s
  | .moment m => m.shown
  | .list vs => "[" ++ ", ".intercalate (shownEach vs) ++ "]"
  | .table es => "\x7b" ++ ", ".intercalate (shownEntries es) ++ "\x7d"

def shownEach : List Value → List String
  | [] => []
  | v :: vs => v.shown :: shownEach vs

def shownEntries : List (String × Value) → List String
  | [] => []
  | (k, v) :: es => (Text.quoted k ++ ": " ++ v.shown) :: shownEntries es

end

def kindWord : Value → String
  | .null => "NoneType"
  | .bool _ => "bool"
  | .int _ => "int"
  | .float _ => "float"
  | .text _ => "str"
  | .moment (.day _) => "date"
  | .moment (.clock _) => "time"
  | .moment (.instant ..) => "datetime"
  | .list _ => "list"
  | .table _ => "dict"

end ChangeGraph.Value
