import ChangeGraph.Proofs.Graph.Edges
import ChangeGraph.Proofs.Graph.Limits
import ChangeGraph.Proofs.Source.Symbols

/-! # One step around a change

A graph from which nothing was cut shows the functions in reach of the change, the names that changed functions call
outside, and one edge for each caller, target and line of a reference. -/

namespace ChangeGraph

/-- A graph that shows all that is one step away from the changed functions of some files, and nothing else. -/
structure ShowsOneHop (o : GraphOptions) (xs : List Extract) (g : CallGraph) : Prop where
  own : (g.nodes.filter (·.symbol.kind ≠ .external)).map (·.symbol) = (symbolsIn xs).filter (Hit xs ·)
  outside : (g.nodes.filter (·.symbol.kind = .external)).map (·.symbol) =
    if o.showExternal then (distinct (externalNames xs)).map externalSymbol else []
  nodeIds : ∀ n ∈ g.nodes, n.id = n.symbol.id
  nodesOnce : (g.nodes.map (·.id)).Nodup
  edgesOnce : (g.edges.map GraphEdge.triple).Nodup
  references : ∀ source target line, (source, target, line) ∈ g.edges.map GraphEdge.triple ↔
    ∃ f ∈ symbolsIn xs, f.id = source ∧ Refers o.showExternal xs f target line
  edgeIds : ∀ e ∈ g.edges, e.id = edgeId e.source e.target e.call.line
  externalEdges : ∀ e ∈ g.edges, e.external = true ↔ ∃ n, e.target = externalId n
  /-- Of the calls of its source on its line that are shown with its target, an edge carries the first. -/
  firstCalls : ∀ e ∈ g.edges, ∃ f ∈ symbolsIn xs, f.id = e.source ∧
    ((callsWithin xs f).map (callShown o.showExternal xs f)).find?
      (fun c => c.line == e.call.line && c.target == some e.target) = some e.call
  total : g.total = g.nodes.length

section

variable {o : GraphOptions} {xs : List Extract}

theorem symbols_allNodes (h : PlainIds (symbolsIn xs)) :
    ((plan o xs).allNodes o.showExternal).map (·.symbol) = (symbolsIn xs).filter (Hit xs ·) ++
      if o.showExternal then (distinct (externalNames xs)).map externalSymbol else [] := by
  unfold Plan.allNodes
  rw [List.map_append, ownNodes_eq h, List.map_map]
  congr 1
  · exact List.map_id _
  · split
    case isTrue hs => rw [externalNodes_eq h hs, List.map_map]; rfl
    case isFalse => rfl

theorem id_of_mem_allNodes (h : PlainIds (symbolsIn xs)) :
    ∀ n ∈ (plan o xs).allNodes o.showExternal, n.id = n.symbol.id := by
  intro n hn
  rcases List.mem_append.mp hn with hn | hn
  · obtain ⟨f, -, rfl⟩ := List.mem_map.mp hn
    rfl
  · split at hn
    case isTrue hs =>
      rw [externalNodes_eq h hs] at hn
      obtain ⟨name, -, rfl⟩ := List.mem_map.mp hn
      rfl
    case isFalse => cases hn

/-- All edges of a plan have both ends among its nodes. -/
theorem edgesAmong_allNodes (h : PlainIds (symbolsIn xs)) :
    (plan o xs).edgesAmong ((plan o xs).allNodes o.showExternal) = (plan o xs).edges := by
  unfold Plan.edgesAmong
  rw [allNodes_ids h, List.filter_eq_self]
  intro e he
  obtain ⟨hs, ht⟩ := endpoints_mem h he
  rw [List.contains_iff_mem.mpr hs, List.contains_iff_mem.mpr ht]
  rfl

theorem external_edge_iff (h : PlainIds (symbolsIn xs)) {e : GraphEdge} (he : e ∈ (plan o xs).edges) :
    e.external = true ↔ ∃ n, e.target = externalId n := by
  obtain ⟨r, hr, rfl⟩ := exists_reference_of_mem_edges he
  obtain ⟨f, -, c, -, hm⟩ := (mem_plan_references h.nodup).mp hr
  rcases reference?_eq_some_iff.mp hm with ⟨g, hg, -, rfl⟩ | ⟨-, -, -, rfl⟩
  · constructor
    · exact nofun
    · rintro ⟨n, hn⟩
      exact absurd hn (h.id_ne_externalId (mem_of_resolve? hg) n)
  · exact ⟨fun _ => ⟨c.callee, rfl⟩, fun _ => rfl⟩

theorem kind_of_mem_outside {s : Symbol}
    (hs : s ∈ if o.showExternal then (distinct (externalNames xs)).map externalSymbol else []) :
    s.kind = .external := by
  split at hs
  · obtain ⟨n, -, rfl⟩ := List.mem_map.mp hs
    rfl
  · cases hs

/-- A test on symbols that tells the functions at hand from those outside splits the nodes as they stand. -/
theorem filter_allNodes (h : PlainIds (symbolsIn xs)) (p : Symbol → Bool) :
    (((plan o xs).allNodes o.showExternal).filter fun n => p n.symbol).map (·.symbol) =
      ((symbolsIn xs).filter (Hit xs ·)).filter p ++
        (if o.showExternal then (distinct (externalNames xs)).map externalSymbol else []).filter p := by
  rw [← List.filter_append, ← symbols_allNodes h, List.filter_map]
  rfl

theorem filter_own_nodes (h : PlainIds (symbolsIn xs)) (hk : ∀ f ∈ symbolsIn xs, f.kind ≠ .external) :
    (((plan o xs).allNodes o.showExternal).filter (·.symbol.kind ≠ .external)).map (·.symbol) =
      (symbolsIn xs).filter (Hit xs ·) := by
  have hout : (if o.showExternal then (distinct (externalNames xs)).map externalSymbol else []).filter
      (·.kind ≠ .external) = [] := by
    rw [List.filter_eq_nil_iff]
    exact fun f hm hd => of_decide_eq_true hd (kind_of_mem_outside hm)
  rw [filter_allNodes h (·.kind ≠ .external), hout, List.append_nil, List.filter_eq_self]
  exact fun f hm => decide_eq_true (hk f (List.mem_filter.mp hm).1)

theorem filter_outside_nodes (h : PlainIds (symbolsIn xs)) (hk : ∀ f ∈ symbolsIn xs, f.kind ≠ .external) :
    (((plan o xs).allNodes o.showExternal).filter (·.symbol.kind = .external)).map (·.symbol) =
      if o.showExternal then (distinct (externalNames xs)).map externalSymbol else [] := by
  have hown : ((symbolsIn xs).filter (Hit xs ·)).filter (·.kind = .external) = [] := by
    rw [List.filter_eq_nil_iff]
    exact fun f hm hd => hk f (List.mem_filter.mp hm).1 (of_decide_eq_true hd)
  rw [filter_allNodes h (·.kind = .external), hown, List.nil_append, List.filter_eq_self]
  exact fun f hm => decide_eq_true (kind_of_mem_outside hm)

theorem showsOneHop_of_uncapped (h : PlainIds (symbolsIn xs)) (hk : ∀ f ∈ symbolsIn xs, f.kind ≠ .external)
    (hc : ((plan o xs).graph o).capped = false) : ShowsOneHop o xs ((plan o xs).graph o) := by
  have hn := Plan.nodes_of_uncapped hc
  have he : ((plan o xs).graph o).edges = (plan o xs).edges := by
    rw [Plan.edges_of_uncapped hc, edgesAmong_allNodes h]
  constructor
  case own => rw [hn]; exact filter_own_nodes h hk
  case outside => rw [hn]; exact filter_outside_nodes h hk
  case nodeIds => rw [hn]; exact id_of_mem_allNodes h
  case nodesOnce => rw [hn, allNodes_ids h]; exact nodup_nodeIds h _
  case edgesOnce => rw [he]; exact nodup_triples _
  case references => rw [he]; exact fun source target line => mem_triples_iff h
  case edgeIds => rw [he]; exact fun e hm => edge_id_eq hm
  case externalEdges => rw [he]; exact fun e hm => external_edge_iff h hm
  case firstCalls => rw [he]; exact fun e hm => first_call_of_edge h hm
  case total => rw [hn, Plan.graph_total, length_included h]

end

/-- The graph of a change, if nothing is cut from it, shows exactly what is one step away from the changed functions. -/
theorem buildGraph_showsOneHop {ε : Type} (parse : String → String → Except ε SourceFile) (o : GraphOptions)
    (fs : List ChangedFile) (contents : String → Option String)
    (hids : PlainIds (symbolsIn (extract parse contents o.maxSnippetLines fs).extracts))
    (hcut : (buildGraph parse o fs contents).1.capped = false) :
    ShowsOneHop o (extract parse contents o.maxSnippetLines fs).extracts (buildGraph parse o fs contents).1 := by
  apply showsOneHop_of_uncapped hids ?_ hcut
  intro f hf
  obtain ⟨x, hx, hfx⟩ := mem_symbolsIn.mp hf
  obtain ⟨file, -, hs⟩ := exists_symbolsOf_of_mem_extract hx
  exact kind_of_mem_symbolsOf hs hfx

theorem buildGraph_showsOneHop_sample :
    (buildGraph Sample.parse {} Sample.files Sample.contents).1.nodes.map (·.id) =
      ["a.js:f:1", "a.js:g:2", "a.js:k:3", "external:h"] ∧
    ShowsOneHop {} (extract Sample.parse Sample.contents 20 Sample.files).extracts
      (buildGraph Sample.parse {} Sample.files Sample.contents).1 :=
  ⟨by decide, buildGraph_showsOneHop Sample.parse {} Sample.files Sample.contents (by decide) (by decide)⟩

end ChangeGraph
