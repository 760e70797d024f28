import ChangeGraph.LineRange.Basic
import ChangeGraph.Text.Integer
import ChangeGraph.Value.Shown

/-! # Hunks

A hunk is a stretch of added lines: the number of its first line in the new text, counted from one, and how many lines
it has. A hunk that comes from outside is a table with the two numbers under fixed keys. -/

namespace ChangeGraph

structure Hunk where
  start : Nat
  count : Nat
  positive : 1 ≤ start
deriving DecidableEq, Repr

/-- Why something is no hunk. -/
inductive Hunk.Fault where
  | notTable (v : Value)
  | missing (keys : List String)
  | notInteger (key : String) (v : Value)
  | startBelowOne (n : Int)
  | countBelowZero (n : Int)
  /-- A number is written with too many digits to be read. -/
  | longNumber (digits : Nat)

def Hunk.Fault.message : Hunk.Fault → String
  | .notTable v => "Hunk must be a mapping, got " ++ v.kindWord
  | .missing keys => "Hunk is missing field(s): " ++ ", ".intercalate keys
  | .notInteger key v => "Hunk " ++ key ++ " must be an integer, got " ++ v.shown
  | .startBelowOne n => s!"Hunk start_line must be >= 1, got {n}"
  | .countBelowZero n => s!"Hunk line_count must be >= 0, got {n}"
  | .longNumber n =>
    s!"Exceeds the limit ({Text.digitLimit} digits) for integer string conversion: value has {n} digits; " ++
      "use sys.set_int_max_str_digits() to increase the limit"

namespace Hunk

def startKey : String := "start_line"

def countKey : String := "line_count"

/-- The hunk of two numbers. -/
def of (start count : Int) : Except Fault Hunk :=
  if h : 1 ≤ start then
    if 0 ≤ count then .ok ⟨start.toNat, count.toNat, by omega⟩ else .error (.countBelowZero count)
  else .error (.startBelowOne start)

def integer (key : String) : Value → Except Fault Int
  | .int n => .ok n
  | v => .error (.notInteger key v)

/-- The hunk that a value describes. -/
def ofValue : Value → Except Fault Hunk
  | .table es =>
    match es.lookup startKey, es.lookup countKey with
    | some s, some c => do
      let start ← integer startKey s
      let count ← integer countKey c
      of start count
    | s, c => .error (.missing ((if s.isNone then [startKey] else []) ++ if c.isNone then [countKey] else []))
  | v => .error (.notTable v)

/-- A hunk as it comes from outside. -/
def toValue (h : Hunk) : Value := .table [(startKey, .int h.start), (countKey, .int h.count)]

/-- The lines of a hunk; a hunk may have none. -/
def range? (h : Hunk) : Option LineRange :=
  if c : h.count = 0 then none else some ⟨h.start, h.start + h.count - 1, by omega⟩

end Hunk

end ChangeGraph
