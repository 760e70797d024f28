import ChangeGraph.Number.Double
import ChangeGraph.Value.Moment

/-! # Values of data files

What a file of settings, a description of a change or an exported graph is made of. A table keeps its entries in the
order in which their keys were first set. -/

namespace ChangeGraph

inductive Value where
  | null
  | bool (b : Bool)
  | int (n : Int)
  | float (x : Double)
  | text (s : String)
  | moment (m : Moment)
  | list (vs : List Value)
  | table (entries : List (String × Value))
deriving Repr, Inhabited

/-- Entries of a table in order; no key occurs twice. -/
abbrev Entries := List (String × Value)

namespace Entries

def get? (es : Entries) (key : String) : Option Value := es.lookup key

def has (es : Entries) (key : String) : Bool := (es.lookup key).isSome

/-- Sets a key: in its place if it is there, at the end if not. -/
def set (key : String) (v : Value) : Entries → Entries
  | [] => [(key, v)]
  | (k, w) :: es => if k == key then (k, v) :: es else (k, w) :: set key v es

end Entries

end ChangeGraph
