import ChangeGraph.Graph.Json
import ChangeGraph.Proofs.Json.RoundTrip

/-! # Graphs from their JSON

An exported graph is told apart from every other: its text is read back as its value, and its value says which graph
it is of. -/

namespace ChangeGraph

namespace Value

def text? : Value → Option String
  | .text s => some s
  | _ => none

def int? : Value → Option Int
  | .int n => some n
  | _ => none

def bool? : Value → Option Bool
  | .bool b => some b
  | _ => none

def elements? : Value → Option (List Value)
  | .list vs => some vs
  | _ => none

def entry? (v : Value) (key : String) : Option Value :=
  match v with
  | .table es => Entries.get? es key
  | _ => none

/-- A name that is missing if its entry is. -/
def optionalText? (v : Value) (key : String) : Option (Option String) :=
  match v.entry? key with
  | some w => w.text?.map some
  | none => some none

@[simp] theorem text?_text (s : String) : text? (.text s) = some s := rfl
@[simp] theorem int?_int (n : Int) : int? (.int n) = some n := rfl
@[simp] theorem bool?_bool (b : Bool) : bool? (.bool b) = some b := rfl
@[simp] theorem elements?_list (vs : List Value) : elements? (.list vs) = some vs := rfl

@[simp] theorem entry?_nil (key : String) : entry? (.table []) key = none := rfl

@[simp] theorem entry?_cons (k key : String) (v : Value) (es : Entries) :
    entry? (.table ((k, v) :: es)) key = if key = k then some v else entry? (.table es) key :=
  Entries.get?_cons key k v es

end Value

open Json (Exact)

def LineRange.ofValue? (v : Value) : Option LineRange := do
  (LineRange.between (← (← v.entry? "start").int?) (← (← v.entry? "end").int?)).toOption

def Symbol.ofValue? (v : Value) : Option Symbol := do
  return {
    id := ← (← v.entry? "id").text?
    name := ← (← v.entry? "name").text?
    signature := ← (← v.entry? "signature").text?
    path := ← (← v.entry? "filePath").text?
    range := ← LineRange.ofValue? (← v.entry? "range")
    changed := ← (← v.entry? "isChanged").bool?
    kind := ← Symbol.Kind.ofWord? (← (← v.entry? "kind").text?)
    snippet := ← (← v.entry? "snippet").text?
    className := ← v.optionalText? "className" }

def CallSite.ofValue? (v : Value) : Option CallSite := do
  return {
    callee := ← (← v.entry? "callee").text?
    line := ← (← v.entry? "line").int?
    column := ← (← v.entry? "column").int?
    resolved := ← (← v.entry? "resolved").bool?
    target := ← v.optionalText? "targetId" }

def GraphNode.ofValue? (v : Value) : Option GraphNode := do
  return {
    id := ← (← v.entry? "id").text?
    symbol := ← Symbol.ofValue? (← v.entry? "symbol")
    calls := ← (← (← v.entry? "calls").elements?).mapM CallSite.ofValue?
    calledBy := ← (← (← v.entry? "calledBy").elements?).mapM Value.text? }

def GraphEdge.ofValue? (v : Value) : Option GraphEdge := do
  return {
    id := ← (← v.entry? "id").text?
    source := ← (← v.entry? "source").text?
    target := ← (← v.entry? "target").text?
    call := ← CallSite.ofValue? (← v.entry? "callSite")
    external := ← (← v.entry? "isExternal").bool? }

def CallGraph.ofValue? (v : Value) : Option CallGraph := do
  return {
    nodes := ← (← (← v.entry? "nodes").elements?).mapM GraphNode.ofValue?
    edges := ← (← (← v.entry? "edges").elements?).mapM GraphEdge.ofValue?
    total := ← (← v.entry? "totalFunctions").int?
    capped := ← (← v.entry? "wasCapped").bool? }

/-- What is recovered from every value is recovered from a list of them. -/
theorem mapM_map_of_recovers {α : Type} {f : α → Value} {g : Value → Option α} (h : ∀ a, g (f a) = some a)
    (l : List α) : (l.map f).mapM g = some l := by
  induction l with
  | nil => rfl
  | cons a l ih => simp [h, ih]

theorem LineRange.ofValue?_toValue (r : LineRange) : LineRange.ofValue? r.toValue = some r := by
  simp [LineRange.ofValue?, LineRange.toValue, LineRange.between, r.ordered, Except.toOption]

theorem Symbol.Kind.ofWord?_word (k : Symbol.Kind) : Symbol.Kind.ofWord? k.word = some k := by
  cases k <;> decide

theorem Symbol.entry?_className (s : Symbol) : s.toValue.entry? "className" = s.className.map Value.text := by
  cases h : s.className <;> simp [Symbol.toValue, optionalEntry, h]

theorem CallSite.entry?_targetId (c : CallSite) : c.toValue.entry? "targetId" = c.target.map Value.text := by
  cases h : c.target <;> simp [CallSite.toValue, optionalEntry, h]

theorem optionalText?_of_entry? {v : Value} {key : String} {name : Option String}
    (h : v.entry? key = name.map Value.text) : v.optionalText? key = some name := by
  rw [Value.optionalText?, h]
  cases name <;> rfl

theorem Symbol.ofValue?_toValue (s : Symbol) : Symbol.ofValue? s.toValue = some s := by
  rw [Symbol.ofValue?, optionalText?_of_entry? s.entry?_className]
  simp [Symbol.toValue, LineRange.ofValue?_toValue, Symbol.Kind.ofWord?_word]

theorem CallSite.ofValue?_toValue (c : CallSite) : CallSite.ofValue? c.toValue = some c := by
  rw [CallSite.ofValue?, optionalText?_of_entry? c.entry?_targetId]
  simp [CallSite.toValue]

theorem GraphNode.ofValue?_toValue (n : GraphNode) : GraphNode.ofValue? n.toValue = some n := by
  have hcalls := mapM_map_of_recovers CallSite.ofValue?_toValue n.calls
  have hcallers := mapM_map_of_recovers Value.text?_text n.calledBy
  simp [GraphNode.ofValue?, GraphNode.toValue, Symbol.ofValue?_toValue, hcalls, hcallers]

theorem GraphEdge.ofValue?_toValue (e : GraphEdge) : GraphEdge.ofValue? e.toValue = some e := by
  simp [GraphEdge.ofValue?, GraphEdge.toValue, CallSite.ofValue?_toValue]

theorem CallGraph.ofValue?_toValue (g : CallGraph) : CallGraph.ofValue? g.toValue = some g := by
  have hnodes := mapM_map_of_recovers GraphNode.ofValue?_toValue g.nodes
  have hedges := mapM_map_of_recovers GraphEdge.ofValue?_toValue g.edges
  simp [CallGraph.ofValue?, CallGraph.toValue, hnodes, hedges]

/-! ### The text of a graph -/

attribute [simp] Exact.bool Exact.int Exact.text

@[simp] theorem exact_optionalEntry (key : String) (name : Option String) :
    ∀ e ∈ optionalEntry key name, Exact e.2 := by
  cases name <;> simp [optionalEntry]

theorem exact_map {α : Type} {f : α → Value} (h : ∀ a, Exact (f a)) (l : List α) : Exact (.list (l.map f)) := by
  apply Exact.list
  intro v hv
  obtain ⟨a, -, rfl⟩ := List.mem_map.mp hv
  exact h a

@[simp] theorem LineRange.exact_toValue (r : LineRange) : Exact r.toValue := .table (by simp) (by simp)

@[simp] theorem Symbol.exact_toValue (s : Symbol) : Exact s.toValue := by
  apply Exact.table
  · cases s.className <;> simp [optionalEntry]
  · rw [List.forall_mem_append]
    exact ⟨by simp, exact_optionalEntry _ _⟩

@[simp] theorem CallSite.exact_toValue (c : CallSite) : Exact c.toValue := by
  apply Exact.table
  · cases c.target <;> simp [optionalEntry]
  · rw [List.forall_mem_append]
    exact ⟨by simp, exact_optionalEntry _ _⟩

theorem GraphNode.exact_toValue (n : GraphNode) : Exact n.toValue :=
  .table (by simp) (by simp [exact_map CallSite.exact_toValue, exact_map Exact.text])

theorem GraphEdge.exact_toValue (e : GraphEdge) : Exact e.toValue := .table (by simp) (by simp)

theorem CallGraph.exact_toValue (g : CallGraph) : Exact g.toValue :=
  .table (by simp) (by simp [exact_map GraphNode.exact_toValue, exact_map GraphEdge.exact_toValue])

theorem CallGraph.read?_toJson {g : CallGraph} {indent : Option Nat} {text : String} (h : g.toJson indent = .ok text) :
    Json.read? text = some g.toValue := by
  rw [← (Json.write_eq_ok_iff.mp h).2]
  exact g.exact_toValue.read?_render indent

theorem CallGraph.ascii_toJson {g : CallGraph} {indent : Option Nat} {text : String} (h : g.toJson indent = .ok text) :
    Json.Ascii text.toList := by
  rw [← (Json.write_eq_ok_iff.mp h).2, Json.render, String.toList_ofList]
  exact g.exact_toValue.ascii indent 0

/-- The graph is recovered from the text. -/
theorem CallGraph.recover {g : CallGraph} {indent : Option Nat} {text : String} (h : g.toJson indent = .ok text) :
    (Json.read? text).bind CallGraph.ofValue? = some g := by
  rw [read?_toJson h, Option.bind_some, g.ofValue?_toValue]

/-- There is a text if and only if the integers of the graph are short and the indent fits. The text is ASCII and says all
that the graph holds, with an entry for a name only if there is one. -/
theorem toJson_lossless (indent : Option Nat) :
    (∀ g : CallGraph,
      ((∃ text, g.toJson indent = .ok text) ↔
        indent.getD 0 < Json.indentLimit ∧ ∀ n ∈ Json.integers g.toValue, Text.isShort n = true) ∧
      (∀ text, g.toJson indent = .ok text →
        (∀ c ∈ text.toList, c.toNat < 128) ∧ Json.read? text = some g.toValue) ∧
      CallGraph.ofValue? g.toValue = some g) ∧
    (∀ (g h : CallGraph) (text : String), g.toJson indent = .ok text → h.toJson indent = .ok text → g = h) ∧
    (∀ s : Symbol, (s.toValue.entry? "className").isSome ↔ s.className ≠ none) ∧
    (∀ c : CallSite, (c.toValue.entry? "targetId").isSome ↔ c.target ≠ none) := by
  refine ⟨fun g => ⟨?_, fun text h => ⟨g.ascii_toJson h, g.read?_toJson h⟩, g.ofValue?_toValue⟩, ?_, ?_, ?_⟩
  · constructor
    · rintro ⟨text, h⟩
      exact (Json.write_eq_ok_iff.mp h).1
    · intro h
      exact ⟨Json.render indent g.toValue, Json.write_eq_ok_iff.mpr ⟨h, rfl⟩⟩
  · intro g h text hg hh
    have hback := g.recover hg
    rw [h.recover hh] at hback
    exact (Option.some.inj hback).symm
  · intro s
    rw [s.entry?_className, Option.isSome_map, Option.isSome_iff_ne_none]
  · intro c
    rw [c.entry?_targetId, Option.isSome_map, Option.isSome_iff_ne_none]

/-- A graph that tells of too many functions to be counted. -/
def crowded : CallGraph := { total := Text.powerOfTen Text.digitLimit }

/-- No indent gives a text to a graph with an integer that is too long, and one that is too wide gives a text to none. -/
theorem toJson_fails :
    (∀ indent, indent.getD 0 < Json.indentLimit → crowded.toJson indent = .error .longNumber) ∧
      ∀ g : CallGraph, g.toJson (some 0x400000000000000000) = .error .wideIndent := by
  have hlong : ((Json.integers crowded.toValue).all Text.isShort) = false := by
    have hintegers : Json.integers crowded.toValue = [(Text.powerOfTen Text.digitLimit : Int)] := rfl
    rw [hintegers, List.all_cons, Text.isShort_powerOfTen, Bool.false_and]
  constructor
  · intro indent hindent
    rw [CallGraph.toJson, Json.write, if_neg (Nat.not_le.mpr hindent), hlong]
    rfl
  · intro g
    rw [CallGraph.toJson, Json.write, if_pos (by decide)]

end ChangeGraph
