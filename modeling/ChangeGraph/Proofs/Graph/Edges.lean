import ChangeGraph.Proofs.Graph.Layout
import ChangeGraph.Proofs.Source.Calls
import Mathlib.Data.List.Find

/-! # Edges of a plan

There is one edge for each caller, target and line of a reference, and it carries the first call that makes it. -/

namespace ChangeGraph

/-! ### Calls as they are found -/

theorem fresh_of_mem_callsWithin {xs : List Extract} {f : Symbol} {c : CallSite} (hc : c ∈ callsWithin xs f) :
    c.line ∈ f.range ∧ c.resolved = false ∧ c.target = none := by
  unfold callsWithin at hc
  split at hc
  · exact fresh_of_mem_callsOf hc
  · cases hc

/-! ### Callers, targets and lines -/

/-- Whether a call of `f` on a line is a reference to a target. -/
def Refers (showExternal : Bool) (xs : List Extract) (f : Symbol) (target : String) (line : Int) : Prop :=
  (f.changed = true ∧ ∃ c ∈ callsWithin xs f, c.line = line ∧
    ((∃ g, meaning xs f c = some g ∧ g.id = target) ∨
      (meaning xs f c = none ∧ showExternal = true ∧ externalId c.callee = target))) ∨
  (f.changed = false ∧ ∃ c ∈ callsWithin xs f, c.line = line ∧
    ∃ g, meaning xs f c = some g ∧ g.changed = true ∧ g.id = target)

def GraphEdge.triple (e : GraphEdge) : String × String × Int := (e.source, e.target, e.call.line)

section

variable {o : GraphOptions} {xs : List Extract}

theorem refers_iff {showExternal : Bool} {f : Symbol} {target : String} {line : Int} :
    Refers showExternal xs f target line ↔
      ∃ c ∈ callsWithin xs f, ∃ r, reference? showExternal xs f c = some r ∧ r.target = target ∧
        r.call.line = line := by
  constructor
  · rintro (⟨hf, c, hc, rfl, ⟨g, hg, rfl⟩ | ⟨hn, hs, rfl⟩⟩ | ⟨hf, c, hc, rfl, g, hg, hgc, rfl⟩)
    · exact ⟨c, hc, _, reference?_eq_some_iff.mpr (.inl ⟨g, hg, .inl hf, rfl⟩), rfl, rfl⟩
    · exact ⟨c, hc, _, reference?_eq_some_iff.mpr (.inr ⟨hn, hf, hs, rfl⟩), rfl, rfl⟩
    · exact ⟨c, hc, _, reference?_eq_some_iff.mpr (.inl ⟨g, hg, .inr hgc, rfl⟩), rfl, rfl⟩
  · rintro ⟨c, hc, r, hr, rfl, rfl⟩
    rcases reference?_eq_some_iff.mp hr with ⟨g, hg, hch, rfl⟩ | ⟨hn, hf, hs, rfl⟩
    · cases hf : f.changed with
      | true => exact .inl ⟨hf, c, hc, rfl, .inl ⟨g, hg, rfl⟩⟩
      | false =>
        have hgc : g.changed = true := by simpa [hf] using hch
        exact .inr ⟨hf, c, hc, rfl, g, hg, hgc, rfl⟩
    · exact .inl ⟨hf, c, hc, rfl, .inr ⟨hn, hs, rfl⟩⟩

theorem exists_reference_of_mem_edges {p : Plan} {e : GraphEdge} (he : e ∈ p.edges) :
    ∃ r ∈ p.references, r.edge = e := List.mem_map.mp (mem_of_mem_firstByKey he)

theorem edge_id_eq {p : Plan} {e : GraphEdge} (he : e ∈ p.edges) :
    e.id = edgeId e.source e.target e.call.line := by
  obtain ⟨r, -, rfl⟩ := exists_reference_of_mem_edges he
  rfl

theorem nodup_triples (p : Plan) : (p.edges.map GraphEdge.triple).Nodup := by
  have hid : (p.edges.map GraphEdge.id).Nodup := nodup_map_firstByKey GraphEdge.id
  have he : (p.edges.map GraphEdge.triple).map (fun t => edgeId t.1 t.2.1 t.2.2) = p.edges.map GraphEdge.id := by
    rw [List.map_map]
    apply List.map_congr_left
    intro e hm
    exact (edge_id_eq hm).symm
  exact (he ▸ hid).of_map

theorem mem_triples_iff (h : PlainIds (symbolsIn xs)) {source target : String} {line : Int} :
    (source, target, line) ∈ (plan o xs).edges.map GraphEdge.triple ↔
      ∃ f ∈ symbolsIn xs, f.id = source ∧ Refers o.showExternal xs f target line := by
  rw [List.mem_map]
  constructor
  · rintro ⟨e, he, ht⟩
    cases ht
    obtain ⟨r, hr, rfl⟩ := exists_reference_of_mem_edges he
    obtain ⟨f, hf, c, hc, hm⟩ := (mem_plan_references h.nodup).mp hr
    refine ⟨f, hf, ?_, refers_iff.mpr ⟨c, hc, r, hm, rfl, rfl⟩⟩
    rw [← caller_of_reference? hm]
    rfl
  · rintro ⟨f, hf, rfl, href⟩
    obtain ⟨c, hc, r, hm, rfl, rfl⟩ := refers_iff.mp href
    have hr : r ∈ (plan o xs).references := (mem_plan_references h.nodup).mpr ⟨f, hf, c, hc, hm⟩
    -- the edge that is kept for this id has the same caller, target and line
    obtain ⟨e, he, hid⟩ := exists_mem_firstByKey GraphEdge.id (List.mem_map_of_mem hr) List.not_mem_nil
    obtain ⟨r', hr', rfl⟩ := exists_reference_of_mem_edges he
    obtain ⟨h1, h2, h3⟩ := edge_id_inj h hr' hr hid
    refine ⟨r'.edge, he, ?_⟩
    show (r'.caller.id, r'.target, r'.call.line) = (f.id, r.target, r.call.line)
    rw [h1, h2, h3, caller_of_reference? hm]

theorem endpoints_mem (h : PlainIds (symbolsIn xs)) {e : GraphEdge} (he : e ∈ (plan o xs).edges) :
    e.source ∈ nodeIds o.showExternal xs ∧ e.target ∈ nodeIds o.showExternal xs := by
  obtain ⟨r, hr, rfl⟩ := exists_reference_of_mem_edges he
  obtain ⟨f, hf, c, hc, hm⟩ := (mem_plan_references h.nodup).mp hr
  rw [mem_nodeIds, mem_nodeIds]
  rcases reference?_eq_some_iff.mp hm with ⟨g, hg, hch, rfl⟩ | ⟨hn, hch, hs, rfl⟩
  · have hgm : g ∈ symbolsIn xs := mem_of_resolve? hg
    cases hfc : f.changed with
    | true => exact ⟨.inl ⟨f, hf, .inl hfc, rfl⟩, .inl ⟨g, hgm, .inr (.inl ⟨f, hf, hfc, c, hc, hg⟩), rfl⟩⟩
    | false =>
      have hgc : g.changed = true := by simpa [hfc] using hch
      exact ⟨.inl ⟨f, hf, .inr (.inr ⟨hfc, c, hc, g, hgm, hg, hgc⟩), rfl⟩, .inl ⟨g, hgm, .inl hgc, rfl⟩⟩
  · have hname := mem_externalNames.mpr ⟨f, hf, hch, c, hc, hn, rfl⟩
    exact ⟨.inl ⟨f, hf, .inl hch, rfl⟩, .inr ⟨hs, c.callee, hname, rfl⟩⟩

/-! ### The call of an edge -/

/-- A call of `f` with what is known of its target. -/
def callShown (showExternal : Bool) (xs : List Extract) (f : Symbol) (c : CallSite) : CallSite :=
  match meaning xs f c with
  | some g => c.withTarget g
  | none => if f.changed && showExternal then { c with target := some (externalId c.callee) } else c

theorem call_of_reference? {showExternal : Bool} {f : Symbol} {c : CallSite} {r : Reference}
    (h : reference? showExternal xs f c = some r) : r.call = callShown showExternal xs f c := by
  unfold callShown
  rcases reference?_eq_some_iff.mp h with ⟨g, hg, -, rfl⟩ | ⟨hn, hf, hs, rfl⟩
  · rw [hg]
  · rw [hn, hf, hs]
    rfl

/-- A call makes a reference to a target of the graph exactly if it is shown with that target. -/
theorem reference?_target_iff (h : PlainIds (symbolsIn xs)) {r : Reference} (hr : r ∈ (plan o xs).references)
    {c : CallSite} (hc : c ∈ callsWithin xs r.caller) :
    (∃ r', reference? o.showExternal xs r.caller c = some r' ∧ r'.target = r.target) ↔
      (callShown o.showExternal xs r.caller c).target = some r.target := by
  constructor
  · rintro ⟨r', hr', ht⟩
    rw [← call_of_reference? hr', ← ht]
    rcases reference?_eq_some_iff.mp hr' with ⟨g, -, -, rfl⟩ | ⟨-, -, -, rfl⟩ <;> rfl
  · intro ht
    unfold callShown at ht
    cases hm : meaning xs r.caller c with
    | some g =>
      rw [hm] at ht
      have ht : g.id = r.target := Option.some.inj ht
      have hch : r.caller.changed = true ∨ g.changed = true := by
        obtain ⟨f, -, c', -, hr⟩ := (mem_plan_references h.nodup).mp hr
        rcases reference?_eq_some_iff.mp hr with ⟨g', hg', hch, rfl⟩ | ⟨-, hf, -, rfl⟩
        · exact h.eq_of_id_eq (mem_of_resolve? hm) (mem_of_resolve? hg') ht ▸ hch
        · exact .inl hf
      exact ⟨_, reference?_eq_some_iff.mpr (.inl ⟨g, hm, hch, rfl⟩), ht⟩
    | none =>
      rw [hm] at ht
      by_cases hs : r.caller.changed = true ∧ o.showExternal = true
      · rw [hs.1, hs.2] at ht
        exact ⟨_, reference?_eq_some_iff.mpr (.inr ⟨hm, hs.1, hs.2, rfl⟩), Option.some.inj ht⟩
      · simp only [Bool.and_eq_true, hs, ite_false, (fresh_of_mem_callsWithin hc).2.2] at ht
        cases ht

theorem find?_references_of_mem_edges {p : Plan} {e : GraphEdge} (he : e ∈ p.edges) :
    ∃ r, p.references.find? (fun r => r.edge.id == e.id) = some r ∧ r.edge = e := by
  have hfirst := find?_of_mem_firstByKey he
  rw [List.find?_map] at hfirst
  exact Option.map_eq_some_iff.mp hfirst

/-- The first reference with an edge id is the first one of its caller. -/
theorem find?_referencesOf_caller (hn : (symbolsIn xs).Nodup) {r : Reference} {p : Reference → Bool}
    (h : (plan o xs).references.find? p = some r) :
    (referencesOf o.showExternal xs r.caller).find? p = some r := by
  rw [plan_references hn, List.find?_flatMap] at h
  obtain ⟨f, -, hf⟩ := List.exists_of_findSome?_eq_some h
  obtain ⟨c, -, hc⟩ := List.mem_filterMap.mp (List.mem_of_find?_eq_some hf)
  rw [caller_of_reference? hc]
  exact hf

theorem any_edge_id_eq (h : PlainIds (symbolsIn xs)) {r : Reference} (hr : r ∈ (plan o xs).references)
    {c : CallSite} (hc : c ∈ callsWithin xs r.caller) :
    (reference? o.showExternal xs r.caller c).any (fun r' => r'.edge.id == r.edge.id) =
      ((callShown o.showExternal xs r.caller c).line == r.call.line &&
        (callShown o.showExternal xs r.caller c).target == some r.target) := by
  rw [Bool.eq_iff_iff, Option.any_eq_true, Bool.and_eq_true, beq_iff_eq, beq_iff_eq, ← reference?_target_iff h hr hc]
  constructor
  · rintro ⟨r', hr', hid⟩
    have hmem := (mem_plan_references h.nodup).mpr ⟨r.caller, caller_mem h.nodup hr, c, hc, hr'⟩
    obtain ⟨-, ht, hl⟩ := edge_id_inj h hmem hr (beq_iff_eq.mp hid)
    exact ⟨call_of_reference? hr' ▸ hl, r', hr', ht⟩
  · rintro ⟨hl, r', hr', ht⟩
    refine ⟨r', hr', beq_iff_eq.mpr ?_⟩
    show edgeId r'.caller.id r'.target r'.call.line = edgeId r.caller.id r.target r.call.line
    rw [caller_of_reference? hr', ht, call_of_reference? hr', hl]

/-- Of all calls of its source on its line that are shown with its target, an edge carries the first. -/
theorem first_call_of_edge (h : PlainIds (symbolsIn xs)) {e : GraphEdge} (he : e ∈ (plan o xs).edges) :
    ∃ f ∈ symbolsIn xs, f.id = e.source ∧
      ((callsWithin xs f).map (callShown o.showExternal xs f)).find?
        (fun c => c.line == e.call.line && c.target == some e.target) = some e.call := by
  obtain ⟨r, hfind, rfl⟩ := find?_references_of_mem_edges he
  have hr : r ∈ (plan o xs).references := List.mem_of_find?_eq_some hfind
  have hown := find?_referencesOf_caller h.nodup hfind
  rw [referencesOf, List.find?_filterMap] at hown
  obtain ⟨c, hc, href⟩ := Option.bind_eq_some_iff.mp hown
  rw [List.find?_congr (fun a ha => any_edge_id_eq h hr ha)] at hc
  refine ⟨r.caller, caller_mem h.nodup hr, rfl, ?_⟩
  rw [List.find?_map]
  exact Option.map_eq_some_iff.mpr ⟨c, hc, (call_of_reference? href).symm⟩

/-- The edges are those of the references of each function, for each id the first of them. -/
theorem mem_edges_iff (h : PlainIds (symbolsIn xs)) {e : GraphEdge} :
    e ∈ (plan o xs).edges ↔ ∃ f ∈ symbolsIn xs, ∃ r,
      (referencesOf o.showExternal xs f).find? (fun r => r.edge.id == e.id) = some r ∧ r.edge = e := by
  constructor
  · intro he
    obtain ⟨r, hfind, hedge⟩ := find?_references_of_mem_edges he
    have hr : r ∈ (plan o xs).references := List.mem_of_find?_eq_some hfind
    exact ⟨r.caller, caller_mem h.nodup hr, r, find?_referencesOf_caller h.nodup hfind, hedge⟩
  · rintro ⟨f, hf, r, hfind, rfl⟩
    obtain ⟨c, hc, hm⟩ := List.mem_filterMap.mp (List.mem_of_find?_eq_some hfind)
    have hr : r ∈ (plan o xs).references := (mem_plan_references h.nodup).mpr ⟨f, hf, c, hc, hm⟩
    -- the edge that is kept for this id comes from the same function, so from the same reference
    obtain ⟨e, he, hid⟩ := exists_mem_firstByKey GraphEdge.id (List.mem_map_of_mem hr) List.not_mem_nil
    obtain ⟨r', hfind', rfl⟩ := find?_references_of_mem_edges he
    have hcaller : r'.caller = f := by
      rw [(edge_id_inj h (List.mem_of_find?_eq_some hfind') hr hid).1, caller_of_reference? hm]
    have hown := find?_referencesOf_caller h.nodup hfind'
    rw [hcaller, hid, hfind] at hown
    rw [Option.some.inj hown]
    exact he

/-! ### The calls of a node -/

theorem flatMap_eq_of_nodup {α β : Type} {l : List α} (hn : l.Nodup) {a : α} (ha : a ∈ l) {f : α → List β}
    (hf : ∀ b ∈ l, b ≠ a → f b = []) : l.flatMap f = f a := by
  induction l with
  | nil => cases ha
  | cons b bs ih =>
    rw [List.nodup_cons] at hn
    rw [List.flatMap_cons]
    by_cases hab : b = a
    · subst hab
      have hbs : bs.flatMap f = [] := by
        rw [List.flatMap_eq_nil_iff]
        intro c hc
        exact hf c (List.mem_cons_of_mem b hc) fun he => hn.1 (he ▸ hc)
      rw [hbs, List.append_nil]
    · have hmem : a ∈ bs := (List.mem_cons.mp ha).resolve_left (Ne.symm hab)
      rw [hf b List.mem_cons_self hab, List.nil_append,
        ih hn.2 hmem fun c hc => hf c (List.mem_cons_of_mem b hc)]

/-- The references of unchanged functions that start from one function are its own, if it is unchanged. -/
theorem filter_backward (h : PlainIds (symbolsIn xs)) {s : Symbol} (hs : s ∈ symbolsIn xs) :
    (plan o xs).backward.filter (·.caller.id == s.id) =
      if s.changed then [] else referencesOf o.showExternal xs s := by
  have hcaller {f : Symbol} {r : Reference} (hr : r ∈ referencesOf o.showExternal xs f) : r.caller = f := by
    obtain ⟨c, -, hc⟩ := List.mem_filterMap.mp hr
    exact caller_of_reference? hc
  have hother {f : Symbol} (hf : f ∈ symbolsIn xs) (hne : f ≠ s) :
      (referencesOf o.showExternal xs f).filter (·.caller.id == s.id) = [] := by
    rw [List.filter_eq_nil_iff]
    intro r hr he
    rw [hcaller hr] at he
    exact hne (h.eq_of_id_eq hf hs (beq_iff_eq.mp he))
  rw [plan_backward h.nodup, List.filter_flatMap]
  cases hc : s.changed with
  | true =>
    rw [if_pos rfl, List.flatMap_eq_nil_iff]
    intro f hf
    obtain ⟨hf, hfc⟩ := List.mem_filter.mp hf
    refine hother hf ?_
    rintro rfl
    simp [hc] at hfc
  | false =>
    have hmem : s ∈ (symbolsIn xs).filter (!·.changed) := List.mem_filter.mpr ⟨hs, by rw [hc]; rfl⟩
    rw [if_neg Bool.false_ne_true, flatMap_eq_of_nodup (h.nodup.filter _) hmem
      fun f hf hne => hother (List.mem_filter.mp hf).1 hne, List.filter_eq_self]
    intro r hr
    rw [hcaller hr]
    exact beq_self_eq_true _

theorem shownCall_resolve {s : Symbol} (hs : s.changed = true) (showExternal : Bool) (c : CallSite) :
    shownCall showExternal ((NameIndex.ofSymbols (symbolsIn xs)).resolve s.path c) =
      callShown showExternal xs s c := by
  unfold callShown meaning NameIndex.resolve
  cases (NameIndex.ofSymbols (symbolsIn xs)).resolve? c.callee s.path with
  | some g => rfl
  | none => simp [shownCall, hs]

theorem find?_changed_id (h : PlainIds (symbolsIn xs)) {s : Symbol} (hs : s ∈ symbolsIn xs) :
    ((symbolsIn xs).filter (·.changed)).reverse.find? (·.id == s.id) = if s.changed then some s else none := by
  cases hfind : ((symbolsIn xs).filter (·.changed)).reverse.find? (·.id == s.id) with
  | some f =>
    obtain ⟨hf, hc⟩ := List.mem_filter.mp (List.mem_reverse.mp (List.mem_of_find?_eq_some hfind))
    have hid := List.find?_some hfind
    obtain rfl := h.eq_of_id_eq hf hs (beq_iff_eq.mp hid)
    rw [if_pos hc]
  | none =>
    rw [List.find?_eq_none] at hfind
    by_cases hc : s.changed = true
    · have hmem := List.mem_reverse.mpr (List.mem_filter.mpr ⟨hs, hc⟩)
      exact absurd (beq_self_eq_true s.id) (hfind s hmem)
    · rw [if_neg hc]

/-- The calls of a changed function, as the plan finds them by its id. -/
theorem find?_changed (h : PlainIds (symbolsIn xs)) {s : Symbol} (hs : s ∈ symbolsIn xs) :
    ((plan o xs).changed.reverse.find? (·.symbol.id == s.id)).map (fun f => f.calls.map (shownCall o.showExternal)) =
      if s.changed then some ((callsWithin xs s).map (callShown o.showExternal xs s)) else none := by
  have hchanged : (plan o xs).changed =
      (callersOf (NameIndex.ofSymbols (symbolsIn xs)) xs).filter (·.symbol.changed) := rfl
  rw [hchanged, callersOf_eq h.nodup, List.filter_map, ← List.map_reverse, List.find?_map, Option.map_map]
  refine (congrArg (Option.map _) (find?_changed_id h hs)).trans ?_
  by_cases hc : s.changed = true
  · rw [if_pos hc, if_pos hc, Option.map_some]
    simp only [Function.comp_apply, List.map_map, Option.some.injEq]
    apply List.map_congr_left
    intro c _
    exact shownCall_resolve hc o.showExternal c
  · rw [if_neg hc, if_neg hc, Option.map_none]

/-- The node of a changed function shows all its calls, and that of another one its calls of interest. -/
theorem callsFor_eq (h : PlainIds (symbolsIn xs)) {s : Symbol} (hs : s ∈ symbolsIn xs) :
    (plan o xs).callsFor o.showExternal s.id =
      if s.changed then (callsWithin xs s).map (callShown o.showExternal xs s)
      else (referencesOf o.showExternal xs s).map (·.call) := by
  unfold Plan.callsFor
  simp only [find?_changed h hs, filter_backward h hs]
  cases s.changed with
  | true => simp
  | false => simp

end

end ChangeGraph
