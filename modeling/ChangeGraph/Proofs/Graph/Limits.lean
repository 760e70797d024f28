import ChangeGraph.Proofs.Graph.Layout

/-! # Graphs within limits

A limit cuts a graph down to a front part of its nodes and then of the edges between them, and the graph says so
exactly if something is missing. -/

namespace ChangeGraph

namespace Plan

variable (p : Plan) (o : GraphOptions)

theorem graph_nodes : (p.graph o).nodes = (p.allNodes o.showExternal).take o.maxNodes := rfl

theorem graph_edges : (p.graph o).edges = (p.edgesAmong (p.graph o).nodes).take o.maxEdges := rfl

theorem graph_total : (p.graph o).total = p.included.length := rfl

theorem capped_eq_false_iff :
    (p.graph o).capped = false ↔
      (p.allNodes o.showExternal).length ≤ o.maxNodes ∧ (p.edgesAmong (p.graph o).nodes).length ≤ o.maxEdges := by
  have h : (p.graph o).capped = (decide (o.maxNodes < (p.allNodes o.showExternal).length) ||
      decide (o.maxEdges < (p.edgesAmong (p.graph o).nodes).length)) := rfl
  rw [h, Bool.or_eq_false_iff, decide_eq_false_iff_not, decide_eq_false_iff_not]
  omega

variable {p o}

theorem nodes_of_uncapped (h : (p.graph o).capped = false) : (p.graph o).nodes = p.allNodes o.showExternal := by
  rw [graph_nodes]
  exact List.take_of_length_le ((p.capped_eq_false_iff o).mp h).1

theorem edges_of_uncapped (h : (p.graph o).capped = false) :
    (p.graph o).edges = p.edgesAmong (p.allNodes o.showExternal) := by
  rw [graph_edges, nodes_of_uncapped h]
  apply List.take_of_length_le
  rw [← nodes_of_uncapped h]
  exact ((p.capped_eq_false_iff o).mp h).2

theorem mem_edgesAmong {nodes : List GraphNode} {e : GraphEdge} :
    e ∈ p.edgesAmong nodes ↔ e ∈ p.edges ∧ e.source ∈ nodes.map (·.id) ∧ e.target ∈ nodes.map (·.id) := by
  rw [edgesAmong, List.mem_filter, Bool.and_eq_true, List.contains_iff_mem, List.contains_iff_mem]

/-- The edges among fewer nodes are found among those of more. -/
theorem edgesAmong_of_subset {few many : List GraphNode} (h : few ⊆ many) :
    p.edgesAmong few = (p.edgesAmong many).filter
      fun e => (few.map (·.id)).contains e.source && (few.map (·.id)).contains e.target := by
  unfold edgesAmong
  rw [List.filter_filter]
  apply List.filter_congr
  intro e _
  have hids : few.map (·.id) ⊆ many.map (·.id) := List.map_subset _ h
  rw [Bool.eq_iff_iff]
  simp only [Bool.and_eq_true, List.contains_iff_mem]
  constructor
  · rintro ⟨hs, ht⟩
    exact ⟨⟨hs, ht⟩, hids hs, hids ht⟩
  · rintro ⟨hfew, -⟩
    exact hfew

/-! ### Two limits on one plan -/

section Compare

variable {o' : GraphOptions} (hs : o'.showExternal = o.showExternal) (h : (p.graph o').capped = false)

include hs h

theorem graph_nodes_eq_take : (p.graph o).nodes = (p.graph o').nodes.take o.maxNodes := by
  rw [nodes_of_uncapped h, hs]
  rfl

theorem edgesAmong_graph_nodes :
    p.edgesAmong (p.graph o).nodes = (p.graph o').edges.filter fun e =>
      ((p.graph o).nodes.map (·.id)).contains e.source && ((p.graph o).nodes.map (·.id)).contains e.target := by
  rw [edges_of_uncapped h, hs]
  apply edgesAmong_of_subset
  exact List.take_subset _ _

theorem graph_eq_of_not_capped (hc : (p.graph o).capped = false) :
    (p.graph o).nodes = (p.graph o').nodes ∧ (p.graph o).edges = (p.graph o').edges := by
  rw [nodes_of_uncapped hc, nodes_of_uncapped h, edges_of_uncapped hc, edges_of_uncapped h, hs]
  exact ⟨rfl, rfl⟩

theorem graph_ne_of_capped (hc : (p.graph o).capped = true) :
    (p.graph o).nodes ≠ (p.graph o').nodes ∨ (p.graph o).edges ≠ (p.graph o').edges := by
  by_cases hn : (p.graph o).nodes = (p.graph o').nodes
  · right
    intro he
    have hnodes : (p.allNodes o.showExternal).length ≤ o.maxNodes := by
      have hl := congrArg List.length hn
      rw [nodes_of_uncapped h, hs, graph_nodes, List.length_take] at hl
      omega
    have hedges : (p.edgesAmong (p.graph o).nodes).length ≤ o.maxEdges := by
      have hl := congrArg List.length he
      rw [edges_of_uncapped h, hs, graph_edges, List.length_take, hn, nodes_of_uncapped h, hs] at hl
      rw [hn, nodes_of_uncapped h, hs]
      omega
    rw [(p.capped_eq_false_iff o).mpr ⟨hnodes, hedges⟩] at hc
    cases hc
  · exact .inl hn

theorem capped_iff_graph_ne :
    (p.graph o).capped = true ↔
      (p.graph o).nodes ≠ (p.graph o').nodes ∨ (p.graph o).edges ≠ (p.graph o').edges := by
  constructor
  · exact graph_ne_of_capped hs h
  · intro hne
    by_contra hc
    obtain ⟨hn, he⟩ := graph_eq_of_not_capped hs h (Bool.eq_false_iff.mpr hc)
    rcases hne with hne | hne
    · exact hne hn
    · exact hne he

end Compare

end Plan

section Limits

variable {ε : Type} (parse : String → String → Except ε SourceFile) (o : GraphOptions) (fs : List ChangedFile)
  (contents : String → Option String)

/-- The graph of a change with at most so many nodes and edges; all other options stay. -/
def graphWithin (maxNodes maxEdges : Nat) : CallGraph :=
  (buildGraph parse { o with maxNodes, maxEdges } fs contents).1

theorem graphWithin_eq (maxNodes maxEdges : Nat) :
    graphWithin parse o fs contents maxNodes maxEdges =
      (plan o (extract parse contents o.maxSnippetLines fs).extracts).graph { o with maxNodes, maxEdges } := rfl

/-- Whatever the change, some limits are large enough to cut nothing. -/
theorem exists_uncapped :
    ∃ maxNodes maxEdges, ∀ n ≥ maxNodes, ∀ e ≥ maxEdges, (graphWithin parse o fs contents n e).capped = false := by
  let p := plan o (extract parse contents o.maxSnippetLines fs).extracts
  refine ⟨(p.allNodes o.showExternal).length, p.edges.length, ?_⟩
  intro n hn e he
  rw [graphWithin_eq, Plan.capped_eq_false_iff]
  refine ⟨hn, le_trans ?_ he⟩
  exact List.length_filter_le _ _

theorem length_nodes_graphWithin
    (h : PlainIds (symbolsIn (extract parse contents o.maxSnippetLines fs).extracts)) (maxNodes maxEdges : Nat) :
    ((graphWithin parse o fs contents maxNodes maxEdges).nodes.length : Int) =
      min (graphWithin parse o fs contents maxNodes maxEdges).total maxNodes := by
  rw [graphWithin_eq, Plan.graph_total, length_included h, Plan.graph_nodes, List.length_take, Nat.cast_min, min_comm]

/-- For every input some limits cut nothing, and against a graph that nothing was cut from a graph within other limits
has a front part of the nodes, a front part of the edges between these, and the same count of functions; it is marked
as capped exactly if it lacks something. -/
theorem graphWithin_take :
    (∃ n₀ e₀, ∀ n ≥ n₀, ∀ e ≥ e₀, (graphWithin parse o fs contents n e).capped = false) ∧
    ∀ n₁ e₁, (graphWithin parse o fs contents n₁ e₁).capped = false → ∀ n e,
      let whole := graphWithin parse o fs contents n₁ e₁
      let g := graphWithin parse o fs contents n e
      g.nodes = whole.nodes.take n ∧
      g.edges = (whole.edges.filter fun a =>
        (g.nodes.map (·.id)).contains a.source && (g.nodes.map (·.id)).contains a.target).take e ∧
      (∀ a ∈ g.edges, a.source ∈ g.nodes.map (·.id) ∧ a.target ∈ g.nodes.map (·.id)) ∧
      (g.capped = true ↔ g.nodes ≠ whole.nodes ∨ g.edges ≠ whole.edges) ∧
      g.total = whole.total ∧
      (PlainIds (symbolsIn (extract parse contents o.maxSnippetLines fs).extracts) →
        (g.nodes.length : Int) = min g.total n) := by
  refine ⟨exists_uncapped parse o fs contents, ?_⟩
  intro n₁ e₁ h n e whole g
  refine ⟨?_, ?_, ?_, ?_, rfl, fun hids => length_nodes_graphWithin parse o fs contents hids n e⟩
  · exact Plan.graph_nodes_eq_take rfl h
  · exact congrArg (List.take e) (Plan.edgesAmong_graph_nodes rfl h)
  · intro a ha
    exact (Plan.mem_edgesAmong.mp (List.mem_of_mem_take ha)).2
  · exact Plan.capped_iff_graph_ne rfl h

end Limits

/-! ### A small change -/

namespace Sample

open ChangeGraph.Syntax

def name (row : Nat) (field text : String) : Node :=
  .mk { kind := "identifier", start := ⟨row, 0⟩, stop := ⟨row, 0⟩, field := some field, text := some text } []

def call (row : Nat) (callee : String) : Node :=
  .mk { kind := "call_expression", start := ⟨row, 0⟩, stop := ⟨row, 0⟩ } [name row "function" callee]

def function (row : Nat) (text : String) (callees : List String) : Node :=
  .mk { kind := "function_declaration", start := ⟨row, 0⟩, stop := ⟨row, 0⟩ }
    (name row "name" text :: callees.map (call row))

/-- Every file has four functions, one a line; `h` is none of them. -/
def parse (_ path : String) : Except Unit SourceFile :=
  .ok (.ofLines path ["", "", "", ""] (.mk { kind := "program", start := ⟨0, 0⟩, stop := ⟨3, 0⟩ }
    [function 0 "f" ["g", "h", "g"], function 1 "g" [], function 2 "k" ["f", "f", "z"], function 3 "z" ["k"]]))

def files : List ChangedFile := [⟨"a.js", [LineRange.single 1]⟩]

def contents (_ : String) : Option String := some ""

end Sample

/-- With room for two nodes the caller `k` and the name `h` outside are cut, and two of three edges with them. -/
theorem graphWithin_take_two_nodes :
    (graphWithin Sample.parse {} Sample.files Sample.contents 80 150).capped = false ∧
    (graphWithin Sample.parse {} Sample.files Sample.contents 2 9).capped = true ∧
    (graphWithin Sample.parse {} Sample.files Sample.contents 2 9).nodes =
      (graphWithin Sample.parse {} Sample.files Sample.contents 80 150).nodes.take 2 ∧
    ((graphWithin Sample.parse {} Sample.files Sample.contents 2 9).nodes.length : Int) = min 4 2 := by
  have hwhole : (graphWithin Sample.parse {} Sample.files Sample.contents 80 150).capped = false := by decide
  obtain ⟨hn, -, -, -, -, hl⟩ :=
    (graphWithin_take Sample.parse {} Sample.files Sample.contents).2 80 150 hwhole 2 9
  exact ⟨hwhole, by decide, hn, hl (by decide)⟩

end ChangeGraph
