import ChangeGraph.Proofs.Graph.OneHop

/-!
# Edges, calls and callers

The edges of a graph, the calls that its nodes show and the callers that its nodes list are kept in three places. In a
graph from which nothing was cut they tell of one relation.
-/

namespace ChangeGraph

/-- A graph whose edges, calls and callers agree. -/
structure ViewsAgree (g : CallGraph) : Prop where
  nodesOnce : (g.nodes.map (·.id)).Nodup
  /-- The source of an edge shows the call of the edge, and shows it with the target of the edge. -/
  edgeCalls : ∀ e ∈ g.edges, ∃ n ∈ g.nodes, n.id = e.source ∧ e.call ∈ n.calls ∧ e.call.target = some e.target ∧
    e.call.resolved = !e.external ∧ e.call.line ∈ n.symbol.range
  callEdges : ∀ n ∈ g.nodes, ∀ c ∈ n.calls, ∀ target, c.target = some target →
    ∃ e ∈ g.edges, e.source = n.id ∧ e.target = target ∧ e.call.line = c.line
  callers : ∀ n ∈ g.nodes, n.symbol.kind ≠ .external → n.calledBy.Nodup ∧
    ∀ m, m ∈ n.calledBy ↔ ∃ e ∈ g.edges, e.external = false ∧ e.source = m ∧ e.target = n.id
  externalEdges : ∀ e ∈ g.edges, ∃ n ∈ g.nodes, n.id = e.target ∧ (e.external = true ↔ n.symbol.kind = .external)
  outside : ∀ n ∈ g.nodes, n.symbol.kind = .external → n.calls = [] ∧ n.calledBy = []

section

variable {o : GraphOptions} {xs : List Extract}

/-! ### Nodes -/

theorem mem_allNodes_iff (h : PlainIds (symbolsIn xs)) {n : GraphNode} :
    n ∈ (plan o xs).allNodes o.showExternal ↔
      (∃ f ∈ symbolsIn xs, Hit xs f ∧ (plan o xs).node o.showExternal f = n) ∨
      (o.showExternal = true ∧ ∃ name ∈ externalNames xs,
        { id := externalId name, symbol := externalSymbol name } = n) := by
  unfold Plan.allNodes
  rw [List.mem_append, ownNodes_eq h, List.mem_map]
  refine or_congr ?_ ?_
  · simp only [List.mem_filter, decide_eq_true_eq, and_assoc]
  · by_cases hs : o.showExternal = true
    · rw [if_pos hs, externalNodes_eq h hs, List.mem_map]
      simp only [hs, mem_distinct, true_and]
    · simp [hs]

/-- The kind of a node tells whether it is the node of a function at hand. -/
theorem mem_allNodes_own (h : PlainIds (symbolsIn xs)) {n : GraphNode}
    (hn : n ∈ (plan o xs).allNodes o.showExternal) (hk : n.symbol.kind ≠ .external) :
    ∃ f ∈ symbolsIn xs, Hit xs f ∧ (plan o xs).node o.showExternal f = n := by
  rcases (mem_allNodes_iff h).mp hn with hown | ⟨-, name, -, rfl⟩
  · exact hown
  · exact absurd rfl hk

theorem mem_allNodes_outside (h : PlainIds (symbolsIn xs)) (hkinds : ∀ f ∈ symbolsIn xs, f.kind ≠ .external)
    {n : GraphNode} (hn : n ∈ (plan o xs).allNodes o.showExternal) (hk : n.symbol.kind = .external) :
    ∃ name, n = { id := externalId name, symbol := externalSymbol name } := by
  rcases (mem_allNodes_iff h).mp hn with ⟨f, hf, -, rfl⟩ | ⟨-, name, -, rfl⟩
  · exact absurd hk (hkinds f hf)
  · exact ⟨name, rfl⟩

/-! ### Edges and calls -/

theorem target_call_of_reference? {showExternal : Bool} {f : Symbol} {c : CallSite} {r : Reference}
    (h : reference? showExternal xs f c = some r) : r.call.target = some r.target := by
  rcases reference?_eq_some_iff.mp h with ⟨g, -, -, rfl⟩ | ⟨-, -, -, rfl⟩
  · rfl
  · rfl

/-- A call is marked as resolved when it is found to mean a symbol and at no other time. -/
theorem resolved_call_of_reference? {showExternal : Bool} {f : Symbol} {c : CallSite} {r : Reference}
    (hc : c ∈ callsWithin xs f) (h : reference? showExternal xs f c = some r) : r.call.resolved = !r.external := by
  rcases reference?_eq_some_iff.mp h with ⟨g, -, -, rfl⟩ | ⟨-, -, -, rfl⟩
  · rfl
  · exact (fresh_of_mem_callsWithin hc).2.1

theorem line_call_of_reference? {showExternal : Bool} {f : Symbol} {c : CallSite} {r : Reference}
    (h : reference? showExternal xs f c = some r) : r.call.line = c.line := by
  rcases reference?_eq_some_iff.mp h with ⟨g, -, -, rfl⟩ | ⟨-, -, -, rfl⟩
  · rfl
  · rfl

theorem hit_of_reference? {showExternal : Bool} {f : Symbol} {c : CallSite} {r : Reference}
    (hc : c ∈ callsWithin xs f) (h : reference? showExternal xs f c = some r) : Hit xs f := by
  cases hf : f.changed with
  | true => exact .inl hf
  | false =>
    rcases reference?_eq_some_iff.mp h with ⟨g, hg, hch, -⟩ | ⟨-, hch, -, -⟩
    · have hgc : g.changed = true := by simpa [hf] using hch
      exact .inr (.inr ⟨hf, c, hc, g, mem_of_resolve? hg, hg, hgc⟩)
    · rw [hf] at hch
      cases hch

theorem call_mem_callsFor (h : PlainIds (symbolsIn xs)) {f : Symbol} (hf : f ∈ symbolsIn xs) {c : CallSite}
    {r : Reference} (hc : c ∈ callsWithin xs f) (hr : reference? o.showExternal xs f c = some r) :
    r.call ∈ (plan o xs).callsFor o.showExternal f.id := by
  rw [callsFor_eq h hf]
  cases f.changed with
  | true =>
    rw [if_pos rfl, call_of_reference? hr]
    exact List.mem_map_of_mem hc
  | false => exact List.mem_map_of_mem (List.mem_filterMap.mpr ⟨c, hc, hr⟩)

/-- A call that a node shows with a target makes a reference to it. -/
theorem exists_reference_of_mem_callsFor (h : PlainIds (symbolsIn xs)) {f : Symbol} (hf : f ∈ symbolsIn xs)
    {c : CallSite} (hc : c ∈ (plan o xs).callsFor o.showExternal f.id) {target : String}
    (ht : c.target = some target) :
    ∃ c' ∈ callsWithin xs f, ∃ r, reference? o.showExternal xs f c' = some r ∧ r.target = target ∧ r.call = c := by
  rw [callsFor_eq h hf] at hc
  cases hch : f.changed with
  | true =>
    rw [hch, if_pos rfl, List.mem_map] at hc
    obtain ⟨c', hc', rfl⟩ := hc
    cases href : reference? o.showExternal xs f c' with
    | some r =>
      have hcall := call_of_reference? href
      have htarget := target_call_of_reference? href
      rw [hcall, ht] at htarget
      exact ⟨c', hc', r, href, (Option.some.inj htarget).symm, hcall⟩
    | none =>
      -- a changed function leaves a call without reference only where the call stays without target
      have hfresh := (fresh_of_mem_callsWithin hc').2.2
      unfold reference? at href
      unfold callShown at ht
      cases hm : meaning xs f c' with
      | some g => simp [hm, hch] at href
      | none =>
        have hs : o.showExternal = false := by simpa [hm, hch] using href
        simp [hm, hs, hfresh] at ht
  | false =>
    rw [hch, if_neg Bool.false_ne_true, List.mem_map] at hc
    obtain ⟨r, hr, rfl⟩ := hc
    obtain ⟨c', hc', href⟩ := List.mem_filterMap.mp hr
    have htarget := target_call_of_reference? href
    rw [ht] at htarget
    exact ⟨c', hc', r, href, (Option.some.inj htarget).symm, rfl⟩

theorem exists_edge_of_reference? (h : PlainIds (symbolsIn xs)) {f : Symbol} (hf : f ∈ symbolsIn xs) {c : CallSite}
    {r : Reference} (hc : c ∈ callsWithin xs f) (hr : reference? o.showExternal xs f c = some r) :
    ∃ e ∈ (plan o xs).edges, e.source = f.id ∧ e.target = r.target ∧ e.call.line = r.call.line := by
  have hrefers : Refers o.showExternal xs f r.target r.call.line := refers_iff.mpr ⟨c, hc, r, hr, rfl, rfl⟩
  obtain ⟨e, he, htriple⟩ := List.mem_map.mp ((mem_triples_iff h).mpr ⟨f, hf, rfl, hrefers⟩)
  simp only [GraphEdge.triple, Prod.mk.injEq] at htriple
  exact ⟨e, he, htriple⟩

theorem edge_call_of_mem_edges (h : PlainIds (symbolsIn xs)) {e : GraphEdge} (he : e ∈ (plan o xs).edges) :
    ∃ n ∈ (plan o xs).allNodes o.showExternal, n.id = e.source ∧ e.call ∈ n.calls ∧
      e.call.target = some e.target ∧ e.call.resolved = !e.external ∧ e.call.line ∈ n.symbol.range := by
  obtain ⟨r, hr, rfl⟩ := exists_reference_of_mem_edges he
  obtain ⟨f, hf, c, hc, href⟩ := (mem_plan_references h.nodup).mp hr
  have hnode : (plan o xs).node o.showExternal f ∈ (plan o xs).allNodes o.showExternal :=
    (mem_allNodes_iff h).mpr (.inl ⟨f, hf, hit_of_reference? hc href, rfl⟩)
  have hsource : f.id = r.edge.source := congrArg Symbol.id (caller_of_reference? href).symm
  have hline : r.call.line ∈ f.range := line_call_of_reference? href ▸ (fresh_of_mem_callsWithin hc).1
  exact ⟨_, hnode, hsource, call_mem_callsFor h hf hc href, target_call_of_reference? href,
    resolved_call_of_reference? hc href, hline⟩

theorem call_edge_of_mem_allNodes (h : PlainIds (symbolsIn xs)) {n : GraphNode}
    (hn : n ∈ (plan o xs).allNodes o.showExternal) {c : CallSite} (hc : c ∈ n.calls) {target : String}
    (ht : c.target = some target) :
    ∃ e ∈ (plan o xs).edges, e.source = n.id ∧ e.target = target ∧ e.call.line = c.line := by
  rcases (mem_allNodes_iff h).mp hn with ⟨f, hf, -, rfl⟩ | ⟨-, name, -, rfl⟩
  · obtain ⟨c', hc', r, href, rfl, rfl⟩ := exists_reference_of_mem_callsFor h hf hc ht
    exact exists_edge_of_reference? h hf hc' href
  · cases hc

/-! ### Callers -/

/-- A function at hand is listed with exactly the sources of its edges, which are all edges within the files. -/
theorem mem_callersFor_iff (h : PlainIds (symbolsIn xs)) {f : Symbol} (hf : f ∈ symbolsIn xs) {m : String} :
    m ∈ (plan o xs).callersFor f.id ↔
      ∃ e ∈ (plan o xs).edges, e.external = false ∧ e.source = m ∧ e.target = f.id := by
  rw [Plan.callersFor, mem_distinct, List.mem_map]
  constructor
  · rintro ⟨r, hr, rfl⟩
    obtain ⟨hr, htest⟩ := List.mem_filter.mp hr
    obtain ⟨ht, -⟩ := Bool.and_eq_true_iff.mp htest
    have ht : r.target = f.id := beq_iff_eq.mp ht
    obtain ⟨g, hg, c, hc, href⟩ := (mem_plan_references h.nodup).mp hr
    obtain ⟨e, he, hsource, htarget, -⟩ := exists_edge_of_reference? h hg hc href
    have hown : e.external ≠ true := by
      intro hext
      obtain ⟨name, hname⟩ := (external_edge_iff h he).mp hext
      exact h.id_ne_externalId hf name (ht.symm.trans (htarget.symm.trans hname))
    exact ⟨e, he, Bool.eq_false_iff.mpr hown, hsource.trans (congrArg Symbol.id (caller_of_reference? href).symm),
      htarget.trans ht⟩
  · rintro ⟨e, he, hext, rfl, htarget⟩
    obtain ⟨r, hr, rfl⟩ := exists_reference_of_mem_edges he
    have ht : r.target = f.id := htarget
    have hown : r.external = false := hext
    exact ⟨r, List.mem_filter.mpr ⟨hr, by simp [ht, hown]⟩, rfl⟩

/-! ### Edges that lead outside -/

theorem external_edge_iff_kind (h : PlainIds (symbolsIn xs)) (hkinds : ∀ f ∈ symbolsIn xs, f.kind ≠ .external)
    {e : GraphEdge} (he : e ∈ (plan o xs).edges) :
    ∃ n ∈ (plan o xs).allNodes o.showExternal, n.id = e.target ∧
      (e.external = true ↔ n.symbol.kind = .external) := by
  have hend : e.target ∈ nodeIds o.showExternal xs := (endpoints_mem h he).2
  rw [← allNodes_ids h, List.mem_map] at hend
  obtain ⟨n, hn, hid⟩ := hend
  refine ⟨n, hn, hid, ?_⟩
  rw [external_edge_iff h he, ← hid]
  rcases (mem_allNodes_iff h).mp hn with ⟨f, hf, -, rfl⟩ | ⟨-, name, -, rfl⟩
  · constructor
    · rintro ⟨name, hname⟩
      exact absurd hname (h.id_ne_externalId hf name)
    · intro hk
      exact absurd hk (hkinds f hf)
  · exact ⟨fun _ => rfl, fun _ => ⟨name, rfl⟩⟩

theorem viewsAgree_of_uncapped (h : PlainIds (symbolsIn xs)) (hkinds : ∀ f ∈ symbolsIn xs, f.kind ≠ .external)
    (hc : ((plan o xs).graph o).capped = false) : ViewsAgree ((plan o xs).graph o) := by
  have hn := Plan.nodes_of_uncapped hc
  have he : ((plan o xs).graph o).edges = (plan o xs).edges := by
    rw [Plan.edges_of_uncapped hc, edgesAmong_allNodes h]
  constructor
  case nodesOnce => rw [hn, allNodes_ids h]; exact nodup_nodeIds h _
  case edgeCalls => rw [hn, he]; exact fun e hm => edge_call_of_mem_edges h hm
  case callEdges => rw [hn, he]; exact fun n hm c hcall target ht => call_edge_of_mem_allNodes h hm hcall ht
  case callers =>
    rw [hn, he]
    intro n hm hk
    obtain ⟨f, hf, -, rfl⟩ := mem_allNodes_own h hm hk
    exact ⟨nodup_distinct _, fun m => mem_callersFor_iff h hf⟩
  case externalEdges => rw [hn, he]; exact fun e hm => external_edge_iff_kind h hkinds hm
  case outside =>
    rw [hn]
    intro n hm hk
    obtain ⟨name, rfl⟩ := mem_allNodes_outside h hkinds hm hk
    exact ⟨rfl, rfl⟩

end

theorem buildGraph_viewsAgree {ε : Type} (parse : String → String → Except ε SourceFile) (o : GraphOptions)
    (fs : List ChangedFile) (contents : String → Option String)
    (hids : PlainIds (symbolsIn (extract parse contents o.maxSnippetLines fs).extracts))
    (hcut : (buildGraph parse o fs contents).1.capped = false) : ViewsAgree (buildGraph parse o fs contents).1 := by
  apply viewsAgree_of_uncapped hids ?_ hcut
  intro f hf
  obtain ⟨x, hx, hfx⟩ := mem_symbolsIn.mp hf
  obtain ⟨file, -, hs⟩ := exists_symbolsOf_of_mem_extract hx
  exact kind_of_mem_symbolsOf hs hfx

/-- The changed function `f` calls `g` twice on one line, so that two calls have one edge; `k` calls `f` and is listed
once. -/
theorem buildGraph_viewsAgree_sample :
    let g := (buildGraph Sample.parse {} Sample.files Sample.contents).1
    g.edges.map (·.id) = ["a.js:f:1->a.js:g:2:1", "a.js:f:1->external:h:1", "a.js:k:3->a.js:f:1:3"] ∧
    g.nodes.map (·.calls.length) = [3, 0, 2, 0] ∧
    g.nodes.map (·.calledBy) = [["a.js:k:3"], ["a.js:f:1"], [], []] ∧ ViewsAgree g :=
  ⟨by decide, by decide, by decide,
    buildGraph_viewsAgree Sample.parse {} Sample.files Sample.contents (by decide) (by decide)⟩

end ChangeGraph
