import ChangeGraph.Proofs.Graph.Views

/-!
# Graphs without functions outside

Whether functions outside are shown is asked when references are made and again when nodes are laid out. A graph that
hides them has all that the graph that shows them has of the functions at hand, also where nodes are cut: the nodes of
functions outside stand last, so they never take the place of others.
-/

namespace ChangeGraph

/-- A call without the target that only a graph with functions outside gives it. -/
def CallSite.hidden (c : CallSite) : CallSite := if c.resolved then c else { c with target := none }

def GraphNode.hidden (n : GraphNode) : GraphNode := { n with calls := n.calls.map CallSite.hidden }

section

variable {xs : List Extract}

/-! ### References -/

theorem reference?_hidden (f : Symbol) (c : CallSite) :
    reference? false xs f c = (reference? true xs f c).filter (!·.external) := by
  unfold reference?
  cases meaning xs f c with
  | some g =>
    simp only
    cases f.changed || g.changed with
    | true => rfl
    | false => rfl
  | none =>
    cases f.changed with
    | true => rfl
    | false => rfl

theorem referencesOf_hidden (f : Symbol) :
    referencesOf false xs f = (referencesOf true xs f).filter (!·.external) := by
  unfold referencesOf
  rw [List.filter_filterMap]
  apply List.filterMap_congr
  intro c _
  exact reference?_hidden f c

variable {o : GraphOptions}

theorem references_hidden (hn : (symbolsIn xs).Nodup) :
    (plan { o with showExternal := false } xs).references =
      (plan { o with showExternal := true } xs).references.filter (!·.external) := by
  rw [plan_references hn, plan_references hn, List.filter_flatMap]
  apply List.flatMap_congr
  intro f _
  exact referencesOf_hidden f

theorem edges_hidden (h : PlainIds (symbolsIn xs)) :
    (plan { o with showExternal := false } xs).edges =
      (plan { o with showExternal := true } xs).edges.filter (!·.external) := by
  -- edges with one id have one target, which tells whether they lead outside
  have hagree : ∀ a ∈ (plan { o with showExternal := true } xs).references.map Reference.edge,
      ∀ b ∈ (plan { o with showExternal := true } xs).references.map Reference.edge,
        a.id = b.id → (!a.external) = (!b.external) := by
    intro a ha b hb he
    obtain ⟨r, hr, rfl⟩ := List.mem_map.mp ha
    obtain ⟨r', hr', rfl⟩ := List.mem_map.mp hb
    have ht := (edge_id_inj h hr hr' he).2.1
    have hext : r.external = r'.external := by
      rw [Bool.eq_iff_iff, external_iff h hr, external_iff h hr', ht]
    exact congrArg (!·) hext
  unfold Plan.edges edgesOf
  rw [filter_firstByKey hagree, references_hidden h.nodup, List.filter_map]
  rfl

/-! ### Nodes -/

theorem callShown_hidden {f : Symbol} {c : CallSite} (hc : c ∈ callsWithin xs f) :
    callShown false xs f c = (callShown true xs f c).hidden := by
  obtain ⟨-, hresolved, htarget⟩ := fresh_of_mem_callsWithin hc
  obtain ⟨callee, line, column, resolved, target⟩ := c
  obtain rfl : resolved = false := hresolved
  obtain rfl : target = none := htarget
  unfold callShown
  cases meaning xs f ⟨callee, line, column, false, none⟩ with
  | some g => rfl
  | none =>
    cases f.changed with
    | true => rfl
    | false => rfl

theorem callsFor_hidden (h : PlainIds (symbolsIn xs)) {s : Symbol} (hs : s ∈ symbolsIn xs) :
    (plan { o with showExternal := false } xs).callsFor false s.id =
      ((plan { o with showExternal := true } xs).callsFor true s.id).map CallSite.hidden := by
  have hfalse : (plan { o with showExternal := false } xs).callsFor false s.id = _ := callsFor_eq h hs
  have htrue : (plan { o with showExternal := true } xs).callsFor true s.id = _ := callsFor_eq h hs
  rw [hfalse, htrue]
  cases hc : s.changed with
  | true =>
    simp only [if_true, List.map_map]
    apply List.map_congr_left
    intro c hcall
    exact callShown_hidden hcall
  | false =>
    simp only [Bool.false_eq_true, if_false, List.map_map]
    -- an unchanged function has references to symbols only
    have hall : (referencesOf false xs s) = referencesOf true xs s := by
      rw [referencesOf_hidden, List.filter_eq_self]
      intro r hr
      have hnone : (referencesOf true xs s).filter (·.external) = [] := externalTargets_of_unchanged hc true
      simpa using List.filter_eq_nil_iff.mp hnone r hr
    rw [hall]
    apply List.map_congr_left
    intro r hr
    obtain ⟨c, -, href⟩ := List.mem_filterMap.mp hr
    rcases reference?_eq_some_iff.mp href with ⟨g, -, -, rfl⟩ | ⟨-, hch, -, -⟩
    · rfl
    · rw [hc] at hch
      cases hch

theorem callersFor_hidden (hn : (symbolsIn xs).Nodup) (id : String) :
    (plan { o with showExternal := false } xs).callersFor id =
      (plan { o with showExternal := true } xs).callersFor id := by
  unfold Plan.callersFor
  rw [references_hidden hn, List.filter_filter]
  simp only [Bool.and_assoc, Bool.and_self]

theorem ownNodes_hidden (h : PlainIds (symbolsIn xs)) :
    (plan { o with showExternal := false } xs).ownNodes false =
      ((plan { o with showExternal := true } xs).ownNodes true).map GraphNode.hidden := by
  rw [ownNodes_eq h, ownNodes_eq h, List.map_map]
  apply List.map_congr_left
  intro s hs
  have hmem : s ∈ symbolsIn xs := (List.mem_filter.mp hs).1
  simp only [Function.comp_apply, Plan.node, GraphNode.hidden, callsFor_hidden h hmem, callersFor_hidden h.nodup]

/-! ### Graphs -/

theorem filter_take_append {α : Type} {own outside : List α} {p : α → Bool} (hown : ∀ a ∈ own, p a = true)
    (hout : ∀ a ∈ outside, p a = false) (n : Nat) : ((own ++ outside).take n).filter p = own.take n := by
  have hself : (own.take n).filter p = own.take n :=
    List.filter_eq_self.mpr fun a ha => hown a (List.mem_of_mem_take ha)
  have hnil : (outside.take (n - own.length)).filter p = [] := by
    rw [List.filter_eq_nil_iff]
    intro a ha
    simp [hout a (List.mem_of_mem_take ha)]
  rw [List.take_append, List.filter_append, hself, hnil, List.append_nil]

theorem nodes_hidden (h : PlainIds (symbolsIn xs)) (hkinds : ∀ f ∈ symbolsIn xs, f.kind ≠ .external) :
    ((plan { o with showExternal := false } xs).graph { o with showExternal := false }).nodes =
      (((plan { o with showExternal := true } xs).graph { o with showExternal := true }).nodes.filter
        (·.symbol.kind ≠ .external)).map GraphNode.hidden := by
  have hshown : ((plan { o with showExternal := true } xs).graph { o with showExternal := true }).nodes =
      ((plan { o with showExternal := true } xs).ownNodes true ++
        (plan { o with showExternal := true } xs).externalNodes).take o.maxNodes := rfl
  have hhidden : ((plan { o with showExternal := false } xs).graph { o with showExternal := false }).nodes =
      ((plan { o with showExternal := false } xs).ownNodes false).take o.maxNodes := by
    rw [Plan.graph_nodes, Plan.allNodes]
    simp only [Bool.false_eq_true, if_false, List.append_nil]
  have hown : ∀ n ∈ (plan { o with showExternal := true } xs).ownNodes true,
      decide (n.symbol.kind ≠ .external) = true := by
    intro n hn
    obtain ⟨f, hf, rfl⟩ := List.mem_map.mp hn
    exact decide_eq_true (hkinds f (List.mem_filter.mp hf).1)
  have hout : ∀ n ∈ (plan { o with showExternal := true } xs).externalNodes,
      decide (n.symbol.kind ≠ .external) = false := by
    intro n hn
    obtain ⟨id, -, rfl⟩ := List.mem_map.mp hn
    exact decide_eq_false (not_not.mpr rfl)
  rw [hshown, hhidden, filter_take_append hown hout, ownNodes_hidden h, List.map_take]

/-- Of the ids of symbols the graph that hides functions outside keeps the same ones. -/
theorem mem_ids_hidden (h : PlainIds (symbolsIn xs)) (hkinds : ∀ f ∈ symbolsIn xs, f.kind ≠ .external) {s : Symbol}
    (hs : s ∈ symbolsIn xs) :
    s.id ∈ ((plan { o with showExternal := false } xs).graph { o with showExternal := false }).nodes.map (·.id) ↔
      s.id ∈ ((plan { o with showExternal := true } xs).graph { o with showExternal := true }).nodes.map (·.id) := by
  rw [nodes_hidden h hkinds, List.map_map]
  simp only [List.mem_map, List.mem_filter, Function.comp_apply, GraphNode.hidden, decide_eq_true_eq]
  constructor
  · rintro ⟨n, ⟨hn, -⟩, hid⟩
    exact ⟨n, hn, hid⟩
  · rintro ⟨n, hn, hid⟩
    refine ⟨n, ⟨hn, ?_⟩, hid⟩
    intro hk
    obtain ⟨name, rfl⟩ := mem_allNodes_outside h hkinds (List.mem_of_mem_take hn) hk
    exact h.id_ne_externalId hs name hid.symm

theorem edgesAmong_hidden (h : PlainIds (symbolsIn xs)) (hkinds : ∀ f ∈ symbolsIn xs, f.kind ≠ .external) :
    (plan { o with showExternal := false } xs).edgesAmong
        ((plan { o with showExternal := false } xs).graph { o with showExternal := false }).nodes =
      ((plan { o with showExternal := true } xs).edgesAmong
        ((plan { o with showExternal := true } xs).graph { o with showExternal := true }).nodes).filter
          (!·.external) := by
  unfold Plan.edgesAmong
  rw [edges_hidden h, List.filter_filter, List.filter_filter]
  apply List.filter_congr
  intro e he
  cases hext : e.external with
  | true => simp
  | false =>
    obtain ⟨r, hr, rfl⟩ := exists_reference_of_mem_edges he
    obtain ⟨f, hf, c, -, href⟩ := (mem_plan_references h.nodup).mp hr
    rcases reference?_eq_some_iff.mp href with ⟨g, hg, -, rfl⟩ | ⟨-, -, -, rfl⟩
    · have hsource := mem_ids_hidden (o := o) h hkinds hf
      have htarget := mem_ids_hidden (o := o) h hkinds (mem_of_resolve? hg)
      rw [Bool.eq_iff_iff]
      simp only [Bool.and_eq_true, List.contains_iff_mem, Reference.edge, hsource, htarget, and_comm]
    · cases hext

theorem total_hidden (h : PlainIds (symbolsIn xs)) :
    ((plan { o with showExternal := true } xs).graph { o with showExternal := true }).total =
      ((plan { o with showExternal := false } xs).graph { o with showExternal := false }).total +
        (distinct (externalNames xs)).length := by
  have hown : ((plan { o with showExternal := false } xs).ownNodes false).length =
      ((plan { o with showExternal := true } xs).ownNodes true).length := by
    rw [ownNodes_hidden h, List.length_map]
  have hout : (plan { o with showExternal := true } xs).externalNodes.length = (distinct (externalNames xs)).length := by
    rw [externalNodes_eq h rfl, List.length_map]
  rw [Plan.graph_total, Plan.graph_total, length_included h, length_included h]
  simp only [Plan.allNodes, if_true, Bool.false_eq_true, if_false, List.append_nil, List.length_append, hown, hout,
    Nat.cast_add]

end

/-- Whatever the limit of nodes, as long as no edge is cut, the graph that hides functions outside has exactly the other
nodes and edges of the graph that shows them; only unresolved calls lose their target, and the functions outside are
no longer counted. -/
theorem buildGraph_hidden {ε : Type} (parse : String → String → Except ε SourceFile) (o : GraphOptions)
    (fs : List ChangedFile) (contents : String → Option String)
    (plain : PlainIds (symbolsIn (extract parse contents o.maxSnippetLines fs).extracts)) :
    let xs := (extract parse contents o.maxSnippetLines fs).extracts
    let shown := (buildGraph parse { o with showExternal := true } fs contents).1
    let hidden := (buildGraph parse { o with showExternal := false } fs contents).1
    hidden.nodes = (shown.nodes.filter (·.symbol.kind ≠ .external)).map GraphNode.hidden ∧
    (((plan { o with showExternal := true } xs).edgesAmong shown.nodes).length ≤ o.maxEdges →
      hidden.edges = shown.edges.filter (!·.external)) ∧
    shown.total = hidden.total + (distinct (externalNames xs)).length := by
  intro xs shown hidden
  have hkinds : ∀ f ∈ symbolsIn xs, f.kind ≠ .external := by
    intro f hf
    obtain ⟨x, hx, hfx⟩ := mem_symbolsIn.mp hf
    obtain ⟨file, -, hs⟩ := exists_symbolsOf_of_mem_extract hx
    exact kind_of_mem_symbolsOf hs hfx
  refine ⟨nodes_hidden plain hkinds, ?_, total_hidden plain⟩
  intro room
  have hshown : shown.edges = (plan { o with showExternal := true } xs).edgesAmong shown.nodes :=
    List.take_of_length_le room
  have hhidden : hidden.edges = ((plan { o with showExternal := false } xs).edgesAmong hidden.nodes).take o.maxEdges :=
    rfl
  have hfilter : (plan { o with showExternal := false } xs).edgesAmong hidden.nodes =
      ((plan { o with showExternal := true } xs).edgesAmong shown.nodes).filter (!·.external) :=
    edgesAmong_hidden plain hkinds
  rw [hhidden, hfilter, hshown, List.take_of_length_le ((List.length_filter_le _ _).trans room)]

/-- With room for three nodes the function `h` outside is cut and `k` is not; hiding it changes one call of `f` only. -/
theorem buildGraph_hidden_three_nodes :
    let shown := (buildGraph Sample.parse { maxNodes := 3 } Sample.files Sample.contents).1
    let hidden := (buildGraph Sample.parse { maxNodes := 3, showExternal := false } Sample.files Sample.contents).1
    shown.nodes.map (fun n => n.calls.map (·.target)) =
      [[some "a.js:g:2", some "external:h", some "a.js:g:2"], [], [some "a.js:f:1", some "a.js:f:1"]] ∧
    hidden.nodes.map (fun n => n.calls.map (·.target)) =
      [[some "a.js:g:2", none, some "a.js:g:2"], [], [some "a.js:f:1", some "a.js:f:1"]] ∧
    hidden.nodes = (shown.nodes.filter (·.symbol.kind ≠ .external)).map GraphNode.hidden ∧
    hidden.edges = shown.edges.filter (!·.external) ∧ shown.total = hidden.total + 1 := by
  intro shown hidden
  obtain ⟨hnodes, hedges, htotal⟩ := buildGraph_hidden Sample.parse { maxNodes := 3 } Sample.files Sample.contents
    (by decide)
  exact ⟨by decide +kernel, by decide +kernel, hnodes, hedges (by decide +kernel), htotal⟩

end ChangeGraph
