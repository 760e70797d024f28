import ChangeGraph.Proofs.FirstByKey
import ChangeGraph.Proofs.Graph.Ids
import ChangeGraph.Proofs.Source.NameIndex

/-! # References of a change

Which calls make references, said of the symbols alone: a call of a changed function, or a call that means a changed
function. When symbols are told apart by their ids, the plan of a graph has exactly these references, those of changed
functions first. -/

namespace ChangeGraph

def symbolsIn (xs : List Extract) : List Symbol := xs.flatMap (·.symbols)

/-- The calls in the lines of a function, taken from the file that holds it. -/
def callsWithin (xs : List Extract) (f : Symbol) : List CallSite :=
  match xs.find? (f ∈ ·.symbols) with
  | some x => callsOf x.file f.range
  | none => []

/-- The symbol that a call of `f` means among all symbols. -/
def meaning (xs : List Extract) (f : Symbol) (c : CallSite) : Option Symbol :=
  (NameIndex.ofSymbols (symbolsIn xs)).resolve? c.callee f.path

/-- Ids that tell symbols apart, from one another and from functions outside, and that have no arrow in them. -/
structure PlainIds (ss : List Symbol) : Prop where
  distinct : (ss.map (·.id)).Nodup
  own : ∀ s ∈ ss, ¬ externalMark.toList <+: s.id.toList
  arrowless : ∀ s ∈ ss, ¬ arrow <:+: s.id.toList

instance (ss : List Symbol) : Decidable (PlainIds ss) :=
  decidable_of_iff ((ss.map (·.id)).Nodup ∧ (∀ s ∈ ss, ¬ externalMark.toList <+: s.id.toList) ∧
    ∀ s ∈ ss, ¬ arrow <:+: s.id.toList) ⟨fun h => ⟨h.1, h.2.1, h.2.2⟩, fun h => ⟨h.distinct, h.own, h.arrowless⟩⟩

namespace PlainIds

variable {ss : List Symbol} (h : PlainIds ss)

include h

theorem nodup : ss.Nodup := h.distinct.of_map

theorem eq_of_id_eq {f g : Symbol} (hf : f ∈ ss) (hg : g ∈ ss) (he : f.id = g.id) : f = g :=
  List.inj_on_of_nodup_map h.distinct hf hg he

theorem id_ne_externalId {f : Symbol} (hf : f ∈ ss) (callee : String) : f.id ≠ externalId callee := by
  intro he
  apply h.own f hf
  rw [he]
  exact externalMark_isPrefixOf callee

end PlainIds

/-! ### Callers -/

theorem mem_symbolsIn {xs : List Extract} {s : Symbol} : s ∈ symbolsIn xs ↔ ∃ x ∈ xs, s ∈ x.symbols := List.mem_flatMap

theorem find?_holder {xs : List Extract} (hn : (symbolsIn xs).Nodup) {x : Extract} (hx : x ∈ xs) {s : Symbol}
    (hs : s ∈ x.symbols) : xs.find? (s ∈ ·.symbols) = some x := by
  induction xs with
  | nil => cases hx
  | cons y ys ih =>
    rw [symbolsIn, List.flatMap_cons, List.nodup_append] at hn
    obtain ⟨-, hys, hdis⟩ := hn
    rcases List.mem_cons.mp hx with rfl | hx
    · rw [List.find?_cons_of_pos (by simpa using hs)]
    · have hy : s ∉ y.symbols := fun hm => hdis s hm s (mem_symbolsIn.mpr ⟨x, hx, hs⟩) rfl
      rw [List.find?_cons_of_neg (by simpa using hy)]
      exact ih hys hx

theorem callsWithin_eq {xs : List Extract} (hn : (symbolsIn xs).Nodup) {x : Extract} (hx : x ∈ xs) {s : Symbol}
    (hs : s ∈ x.symbols) : callsWithin xs s = callsOf x.file s.range := by
  unfold callsWithin
  rw [find?_holder hn hx hs]

theorem callersOf_eq {xs : List Extract} (hn : (symbolsIn xs).Nodup) (index : NameIndex) :
    callersOf index xs = (symbolsIn xs).map fun f => ⟨f, (callsWithin xs f).map (index.resolve f.path)⟩ := by
  unfold callersOf
  rw [symbolsIn, List.map_flatMap]
  apply List.flatMap_congr
  intro x hx
  apply List.map_congr_left
  intro s hs
  rw [callerOf, callsWithin_eq hn hx hs]

/-! ### References -/

/-- The reference that a call of `f` makes, if it makes one. -/
def reference? (showExternal : Bool) (xs : List Extract) (f : Symbol) (c : CallSite) : Option Reference :=
  match meaning xs f c with
  | some g => if f.changed || g.changed then some ⟨f, c.withTarget g, g.id, false⟩ else none
  | none =>
    if f.changed && showExternal then
      some ⟨f, { c with target := some (externalId c.callee) }, externalId c.callee, true⟩
    else none

def referencesOf (showExternal : Bool) (xs : List Extract) (f : Symbol) : List Reference :=
  (callsWithin xs f).filterMap (reference? showExternal xs f)

theorem reference?_eq_some_iff {showExternal : Bool} {xs : List Extract} {f : Symbol} {c : CallSite} {r : Reference} :
    reference? showExternal xs f c = some r ↔
      (∃ g, meaning xs f c = some g ∧ (f.changed = true ∨ g.changed = true) ∧ r = ⟨f, c.withTarget g, g.id, false⟩) ∨
      (meaning xs f c = none ∧ f.changed = true ∧ showExternal = true ∧
        r = ⟨f, { c with target := some (externalId c.callee) }, externalId c.callee, true⟩) := by
  unfold reference?
  cases meaning xs f c with
  | some g =>
    by_cases hc : f.changed = true ∨ g.changed = true
    · simp only [Bool.or_eq_true, hc, ite_true, Option.some.injEq, true_and, exists_eq_left', reduceCtorEq, false_and,
        or_false]
      exact eq_comm
    · simp [hc]
  | none =>
    by_cases hc : f.changed = true ∧ showExternal = true
    · simp only [Bool.and_eq_true, hc, and_self, ite_true, Option.some.injEq, reduceCtorEq, false_and, exists_false,
        true_and, false_or]
      exact eq_comm
    · simp only [Bool.and_eq_true, hc, ite_false]
      constructor
      · intro h; cases h
      · rintro (⟨g, hg, -⟩ | ⟨-, h1, h2, -⟩)
        · cases hg
        · exact absurd ⟨h1, h2⟩ hc

theorem caller_of_reference? {showExternal : Bool} {xs : List Extract} {f : Symbol} {c : CallSite} {r : Reference}
    (h : reference? showExternal xs f c = some r) : r.caller = f := by
  rcases reference?_eq_some_iff.mp h with ⟨g, -, -, rfl⟩ | ⟨-, -, -, rfl⟩ <;> rfl

theorem outgoing_eq {showExternal : Bool} {xs : List Extract} {f : Symbol} (hf : f.changed = true) :
    outgoing showExternal ⟨f, (callsWithin xs f).map ((NameIndex.ofSymbols (symbolsIn xs)).resolve f.path)⟩ =
      referencesOf showExternal xs f := by
  unfold outgoing referencesOf
  rw [List.filterMap_map]
  apply List.filterMap_congr
  intro c _
  unfold reference? meaning
  simp only [Function.comp_apply, NameIndex.resolve]
  cases (NameIndex.ofSymbols (symbolsIn xs)).resolve? c.callee f.path with
  | some g => simp [hf]
  | none => cases showExternal <;> simp [hf, shownCall]

theorem incoming_eq {showExternal : Bool} {xs : List Extract} {f : Symbol} (hf : f.changed = false) :
    incoming ⟨f, (callsWithin xs f).map ((NameIndex.ofSymbols (symbolsIn xs)).resolve f.path)⟩ =
      referencesOf showExternal xs f := by
  unfold incoming referencesOf
  rw [List.filterMap_map]
  apply List.filterMap_congr
  intro c _
  unfold reference? meaning
  simp only [Function.comp_apply, NameIndex.resolve]
  cases (NameIndex.ofSymbols (symbolsIn xs)).resolve? c.callee f.path with
  | some g => simp [hf]
  | none => simp [hf]

/-! ### References of a plan -/

section Plan

variable {o : GraphOptions} {xs : List Extract}

theorem plan_changed (hn : (symbolsIn xs).Nodup) :
    (plan o xs).changed.map (·.symbol) = (symbolsIn xs).filter (·.changed) := by
  have hc : (plan o xs).changed =
      (callersOf (NameIndex.ofSymbols (symbolsIn xs)) xs).filter (·.symbol.changed) := rfl
  rw [hc, callersOf_eq hn, List.filter_map, List.map_map]
  exact List.map_id _

theorem plan_forward (hn : (symbolsIn xs).Nodup) :
    (plan o xs).forward = ((symbolsIn xs).filter (·.changed)).flatMap (referencesOf o.showExternal xs) := by
  have hf : (plan o xs).forward =
      ((callersOf (NameIndex.ofSymbols (symbolsIn xs)) xs).filter (·.symbol.changed)).flatMap
        (outgoing o.showExternal) := rfl
  rw [hf, callersOf_eq hn, List.filter_map, List.flatMap_map]
  apply List.flatMap_congr
  intro f hm
  exact outgoing_eq (List.mem_filter.mp hm).2

theorem plan_backward (hn : (symbolsIn xs).Nodup) :
    (plan o xs).backward = ((symbolsIn xs).filter (!·.changed)).flatMap (referencesOf o.showExternal xs) := by
  have hb : (plan o xs).backward =
      ((callersOf (NameIndex.ofSymbols (symbolsIn xs)) xs).filter (!·.symbol.changed)).flatMap incoming := rfl
  rw [hb, callersOf_eq hn, List.filter_map, List.flatMap_map]
  apply List.flatMap_congr
  intro f hm
  exact incoming_eq (by simpa using (List.mem_filter.mp hm).2)

theorem mem_plan_forward (hn : (symbolsIn xs).Nodup) {r : Reference} :
    r ∈ (plan o xs).forward ↔
      ∃ f ∈ symbolsIn xs, f.changed = true ∧ ∃ c ∈ callsWithin xs f, reference? o.showExternal xs f c = some r := by
  rw [plan_forward hn]
  simp only [List.mem_flatMap, List.mem_filter, referencesOf, List.mem_filterMap, and_assoc]

theorem mem_plan_backward (hn : (symbolsIn xs).Nodup) {r : Reference} :
    r ∈ (plan o xs).backward ↔
      ∃ f ∈ symbolsIn xs, f.changed = false ∧ ∃ c ∈ callsWithin xs f, reference? o.showExternal xs f c = some r := by
  rw [plan_backward hn]
  simp only [List.mem_flatMap, List.mem_filter, referencesOf, List.mem_filterMap, and_assoc, Bool.not_eq_true']

theorem mem_plan_references (hn : (symbolsIn xs).Nodup) {r : Reference} :
    r ∈ (plan o xs).references ↔
      ∃ f ∈ symbolsIn xs, ∃ c ∈ callsWithin xs f, reference? o.showExternal xs f c = some r := by
  rw [Plan.references, List.mem_append, mem_plan_forward hn, mem_plan_backward hn]
  constructor
  · rintro (⟨f, hf, -, h⟩ | ⟨f, hf, -, h⟩)
    · exact ⟨f, hf, h⟩
    · exact ⟨f, hf, h⟩
  · rintro ⟨f, hf, h⟩
    cases hc : f.changed with
    | true => exact .inl ⟨f, hf, hc, h⟩
    | false => exact .inr ⟨f, hf, hc, h⟩

theorem plan_references (hn : (symbolsIn xs).Nodup) :
    (plan o xs).references = ((symbolsIn xs).filter (·.changed) ++ (symbolsIn xs).filter (!·.changed)).flatMap
      (referencesOf o.showExternal xs) := by
  rw [Plan.references, plan_forward hn, plan_backward hn, List.flatMap_append]

theorem caller_mem (hn : (symbolsIn xs).Nodup) {r : Reference} (hr : r ∈ (plan o xs).references) :
    r.caller ∈ symbolsIn xs := by
  obtain ⟨f, hf, c, -, h⟩ := (mem_plan_references hn).mp hr
  rw [caller_of_reference? h]
  exact hf

/-- The target tells whether a reference goes outside. -/
theorem external_iff (h : PlainIds (symbolsIn xs)) {r : Reference} (hr : r ∈ (plan o xs).references) :
    r.external = true ↔ externalMark.toList <+: r.target.toList := by
  obtain ⟨f, hf, c, -, hc⟩ := (mem_plan_references h.nodup).mp hr
  rcases reference?_eq_some_iff.mp hc with ⟨g, hg, -, rfl⟩ | ⟨-, -, -, rfl⟩
  · exact ⟨nofun, fun hm => absurd hm (h.own g (mem_of_resolve? hg))⟩
  · exact ⟨fun _ => externalMark_isPrefixOf c.callee, fun _ => rfl⟩

theorem edge_id_inj (h : PlainIds (symbolsIn xs)) {r r' : Reference} (hr : r ∈ (plan o xs).references)
    (hr' : r' ∈ (plan o xs).references) (he : r.edge.id = r'.edge.id) :
    r.caller = r'.caller ∧ r.target = r'.target ∧ r.call.line = r'.call.line := by
  have hm := caller_mem h.nodup hr
  have hm' := caller_mem h.nodup hr'
  obtain ⟨hs, ht, hl⟩ := edgeId_inj (h.arrowless _ hm) (h.arrowless _ hm') he
  exact ⟨h.eq_of_id_eq hm hm' hs, ht, hl⟩

end Plan

end ChangeGraph
