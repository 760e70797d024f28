import Mathlib.Data.Finset.Dedup
import ChangeGraph.Proofs.Graph.Extraction
import ChangeGraph.Proofs.Graph.OneHop
import ChangeGraph.Proofs.Source.Earliest

/-!
# The order of the changed files

Files with different paths may be given in any order: each call means the same, and a graph from which nothing is cut
has the same nodes and the same edges, in another order at most.
-/

namespace ChangeGraph

/-! ### Files in another order -/

/-- What a node shows, with its callers as a set. -/
def GraphNode.content (n : GraphNode) : String × Symbol × List CallSite × Finset String :=
  (n.id, n.symbol, n.calls, n.calledBy.toFinset)

/-- A graph is cut exactly if the nodes or the edges of the plan are too many. -/
theorem capped_eq_false_iff_of_plain {o : GraphOptions} {xs : List Extract} (h : PlainIds (symbolsIn xs)) :
    ((plan o xs).graph o).capped = false ↔
      ((plan o xs).allNodes o.showExternal).length ≤ o.maxNodes ∧ (plan o xs).edges.length ≤ o.maxEdges := by
  rw [Plan.capped_eq_false_iff]
  refine and_congr_right fun hn => ?_
  have hnodes : ((plan o xs).graph o).nodes = (plan o xs).allNodes o.showExternal := List.take_of_length_le hn
  rw [hnodes, edgesAmong_allNodes h]

/-- The same files in two orders, with symbols that know their file and that are told apart by their ids. -/
structure Reordered (xs ys : List Extract) : Prop where
  perm : xs.Perm ys
  paths : (xs.map (·.file.path)).Nodup
  held : ∀ x ∈ xs, ∀ s ∈ x.symbols, s.path = x.file.path
  plain : PlainIds (symbolsIn xs)

theorem filter_path_symbolsIn {xs ys : List Extract} (perm : xs.Perm ys) (paths : (xs.map (·.file.path)).Nodup)
    (held : ∀ x ∈ xs, ∀ s ∈ x.symbols, s.path = x.file.path) (p : String) :
    (symbolsIn xs).filter (·.path = p) = (symbolsIn ys).filter (·.path = p) := by
  simp only [symbolsIn, List.filter_flatMap]
  induction perm with
  | nil => rfl
  | cons x _ ih =>
    rw [List.map_cons, List.nodup_cons] at paths
    rw [List.flatMap_cons, List.flatMap_cons, ih paths.2 fun y hy => held y (List.mem_cons_of_mem x hy)]
  | swap x y l =>
    -- two files with different paths do not both have symbols of the path
    rw [List.flatMap_cons, List.flatMap_cons, List.flatMap_cons, List.flatMap_cons, ← List.append_assoc,
      ← List.append_assoc]
    congr 1
    have hne : y.file.path ≠ x.file.path := by
      rw [List.map_cons, List.nodup_cons] at paths
      exact fun he => paths.1 (he ▸ List.mem_cons_self)
    have none_of_ne {z : Extract} (hz : z ∈ y :: x :: l) (hp : z.file.path ≠ p) :
        z.symbols.filter (·.path = p) = [] := by
      rw [List.filter_eq_nil_iff]
      intro s hs hsp
      exact hp ((held z hz s hs).symm.trans (of_decide_eq_true hsp))
    by_cases hp : y.file.path = p
    · have hx : x.file.path ≠ p := fun he => hne (hp.trans he.symm)
      rw [none_of_ne (List.mem_cons_of_mem y List.mem_cons_self) hx, List.append_nil, List.nil_append]
    · rw [none_of_ne List.mem_cons_self hp, List.append_nil, List.nil_append]
  | trans h₁ _ ih₁ ih₂ =>
    have paths₂ := (h₁.map _).nodup_iff.mp paths
    exact (ih₁ paths held).trans (ih₂ paths₂ fun x hx => held x (h₁.mem_iff.mpr hx))

namespace Reordered

variable {xs ys : List Extract} (h : Reordered xs ys)

include h

theorem symbols : (symbolsIn xs).Perm (symbolsIn ys) := h.perm.flatMap_right _

theorem plain' : PlainIds (symbolsIn ys) where
  distinct := (h.symbols.map _).nodup_iff.mp h.plain.distinct
  own s hs := h.plain.own s (h.symbols.mem_iff.mpr hs)
  arrowless s hs := h.plain.arrowless s (h.symbols.mem_iff.mpr hs)

theorem meaning_eq (f : Symbol) (c : CallSite) : meaning xs f c = meaning ys f c :=
  resolve?_congr (filter_path_symbolsIn h.perm h.paths h.held) c.callee f.path

theorem callsWithin_eq (f : Symbol) : callsWithin xs f = callsWithin ys f := by
  by_cases hf : f ∈ symbolsIn xs
  · obtain ⟨x, hx, hfx⟩ := mem_symbolsIn.mp hf
    rw [ChangeGraph.callsWithin_eq h.plain.nodup hx hfx,
      ChangeGraph.callsWithin_eq h.plain'.nodup (h.perm.mem_iff.mp hx) hfx]
  · have none {zs : List Extract} (hz : f ∉ symbolsIn zs) : callsWithin zs f = [] := by
      have hfind : zs.find? (f ∈ ·.symbols) = none := by
        rw [List.find?_eq_none]
        intro x hx hfx
        exact hz (mem_symbolsIn.mpr ⟨x, hx, of_decide_eq_true hfx⟩)
      rw [callsWithin, hfind]
    rw [none hf, none (mt h.symbols.mem_iff.mpr hf)]

theorem reference?_eq (showExternal : Bool) (f : Symbol) :
    reference? showExternal xs f = reference? showExternal ys f := by
  funext c
  rw [reference?, reference?, h.meaning_eq]

theorem referencesOf_eq (showExternal : Bool) (f : Symbol) :
    referencesOf showExternal xs f = referencesOf showExternal ys f := by
  rw [referencesOf, referencesOf, h.callsWithin_eq, h.reference?_eq]

theorem hit_iff (f : Symbol) : Hit xs f ↔ Hit ys f := by
  simp only [Hit, h.symbols.mem_iff, h.callsWithin_eq, h.meaning_eq]

/-- Every function has the same calls, and each of them has the same outcome. -/
theorem callers : (callersOf (NameIndex.ofSymbols (symbolsIn xs)) xs).Perm
    (callersOf (NameIndex.ofSymbols (symbolsIn ys)) ys) := by
  rw [callersOf_eq h.plain.nodup, callersOf_eq h.plain'.nodup]
  have hresolve (f : Symbol) : (NameIndex.ofSymbols (symbolsIn xs)).resolve f.path =
      (NameIndex.ofSymbols (symbolsIn ys)).resolve f.path := by
    funext c
    have hmeaning : (NameIndex.ofSymbols (symbolsIn xs)).resolve? c.callee f.path =
        (NameIndex.ofSymbols (symbolsIn ys)).resolve? c.callee f.path := h.meaning_eq f c
    rw [NameIndex.resolve, NameIndex.resolve, hmeaning]
  simp only [h.callsWithin_eq, hresolve]
  exact h.symbols.map _

/-! ### Nodes -/

theorem hits : ((symbolsIn xs).filter (Hit xs ·)).Perm ((symbolsIn ys).filter (Hit ys ·)) := by
  simp only [h.hit_iff]
  exact h.symbols.filter _

theorem distinct_externalNames : (distinct (externalNames xs)).Perm (distinct (externalNames ys)) := by
  rw [List.perm_ext_iff_of_nodup (nodup_distinct _) (nodup_distinct _)]
  intro n
  simp only [mem_distinct, mem_externalNames, h.symbols.mem_iff, h.callsWithin_eq, h.meaning_eq]

theorem nodeIds (showExternal : Bool) :
    (ChangeGraph.nodeIds showExternal xs).Perm (ChangeGraph.nodeIds showExternal ys) := by
  unfold ChangeGraph.nodeIds
  cases showExternal with
  | true => exact (h.hits.map _).append (h.distinct_externalNames.map _)
  | false => exact (h.hits.map _).append_right []

theorem length_allNodes (o : GraphOptions) : ((plan o xs).allNodes o.showExternal).length =
    ((plan o ys).allNodes o.showExternal).length := by
  have hlen := (h.nodeIds o.showExternal).length_eq
  rwa [← allNodes_ids h.plain, ← allNodes_ids h.plain', List.length_map, List.length_map] at hlen

theorem references {o : GraphOptions} {r : Reference} :
    r ∈ (plan o xs).references ↔ r ∈ (plan o ys).references := by
  rw [mem_plan_references h.plain.nodup, mem_plan_references h.plain'.nodup]
  simp only [h.symbols.mem_iff, h.callsWithin_eq, h.reference?_eq]

theorem callsFor_eq {o : GraphOptions} {s : Symbol} (hs : s ∈ symbolsIn xs) :
    (plan o xs).callsFor o.showExternal s.id = (plan o ys).callsFor o.showExternal s.id := by
  have hshown : callShown o.showExternal xs s = callShown o.showExternal ys s := by
    funext c
    rw [callShown, callShown, h.meaning_eq]
  rw [ChangeGraph.callsFor_eq h.plain hs, ChangeGraph.callsFor_eq h.plain' (h.symbols.mem_iff.mp hs), hshown,
    h.callsWithin_eq, h.referencesOf_eq]

theorem mem_callersFor {o : GraphOptions} {id caller : String} :
    caller ∈ (plan o xs).callersFor id ↔ caller ∈ (plan o ys).callersFor id := by
  simp only [Plan.callersFor, mem_distinct, List.mem_map, List.mem_filter, h.references]

theorem content_allNodes (o : GraphOptions) :
    (((plan o xs).allNodes o.showExternal).map GraphNode.content).Perm
      (((plan o ys).allNodes o.showExternal).map GraphNode.content) := by
  have hown : (((plan o xs).ownNodes o.showExternal).map GraphNode.content).Perm
      (((plan o ys).ownNodes o.showExternal).map GraphNode.content) := by
    rw [ownNodes_eq h.plain, ownNodes_eq h.plain', List.map_map, List.map_map]
    have hsame : ∀ s ∈ (symbolsIn xs).filter (Hit xs ·),
        (GraphNode.content ∘ (plan o xs).node o.showExternal) s =
          (GraphNode.content ∘ (plan o ys).node o.showExternal) s := by
      intro s hs
      have hcallers : ((plan o xs).callersFor s.id).toFinset = ((plan o ys).callersFor s.id).toFinset :=
        List.toFinset.ext fun _ => h.mem_callersFor
      simp only [Function.comp_apply, GraphNode.content, Plan.node, h.callsFor_eq (List.mem_filter.mp hs).1, hcallers]
    rw [List.map_congr_left hsame]
    exact h.hits.map _
  unfold Plan.allNodes
  rw [List.map_append, List.map_append]
  refine hown.append ?_
  split
  · next hs =>
    rw [externalNodes_eq h.plain hs, externalNodes_eq h.plain' hs]
    exact (h.distinct_externalNames.map _).map _
  · exact List.Perm.refl _

/-! ### Edges and limits -/

theorem edges (o : GraphOptions) : (plan o xs).edges.Perm (plan o ys).edges := by
  have nodup (p : Plan) : p.edges.Nodup := (nodup_map_firstByKey GraphEdge.id).of_map
  rw [List.perm_ext_iff_of_nodup (nodup _) (nodup _)]
  intro e
  rw [mem_edges_iff h.plain, mem_edges_iff h.plain']
  simp only [h.symbols.mem_iff, h.referencesOf_eq]

theorem total_eq (o : GraphOptions) : ((plan o xs).graph o).total = ((plan o ys).graph o).total := by
  rw [Plan.graph_total, Plan.graph_total, length_included h.plain, length_included h.plain', h.length_allNodes]

theorem capped_eq (o : GraphOptions) : ((plan o xs).graph o).capped = ((plan o ys).graph o).capped := by
  rw [Bool.eq_iff_iff, ← not_iff_not, Bool.not_eq_true, Bool.not_eq_true, capped_eq_false_iff_of_plain h.plain,
    capped_eq_false_iff_of_plain h.plain', h.length_allNodes, (h.edges o).length_eq]

end Reordered

/-! ### Changed files in another order -/

section

variable {ε : Type} {parse : String → String → Except ε SourceFile}

theorem KeepsPath.reordered (keeps : KeepsPath parse) (contents : String → Option String) (budget : Int)
    {fs fs' : List ChangedFile} (perm : fs.Perm fs') (paths : (fs.map (·.path)).Nodup)
    (plain : PlainIds (symbolsIn (extract parse contents budget fs).extracts)) :
    Reordered (extract parse contents budget fs).extracts (extract parse contents budget fs').extracts where
  perm := by
    rw [keeps.extracts_eq paths, keeps.extracts_eq ((perm.map _).nodup_iff.mp paths)]
    exact perm.filterMap _
  paths := by
    rw [keeps.extracts_eq paths]
    exact keeps.nodup_paths paths
  held x hx s hs := by
    obtain ⟨f, -, hsymbols⟩ := exists_symbolsOf_of_mem_extract hx
    obtain ⟨g, -, r, -, rfl⟩ := exists_sighting_of_mem_symbolsOf hsymbols hs
    rfl
  plain := plain

/-- Changed files with different paths may be given in any order: all functions have the same calls with the same
outcomes, the graphs have the same count of functions and are both capped or both not, and if nothing is cut they have
the same nodes and edges. -/
theorem buildGraph_perm (keeps : KeepsPath parse) (o : GraphOptions) (contents : String → Option String)
    {fs fs' : List ChangedFile} (perm : fs.Perm fs') (paths : (fs.map (·.path)).Nodup)
    (plain : PlainIds (symbolsIn (extract parse contents o.maxSnippetLines fs).extracts)) :
    let xs := (extract parse contents o.maxSnippetLines fs).extracts
    let ys := (extract parse contents o.maxSnippetLines fs').extracts
    let g := (buildGraph parse o fs contents).1
    let g' := (buildGraph parse o fs' contents).1
    (callersOf (NameIndex.ofSymbols (symbolsIn xs)) xs).Perm (callersOf (NameIndex.ofSymbols (symbolsIn ys)) ys) ∧
    g.total = g'.total ∧ g.capped = g'.capped ∧
    (g.capped = false →
      (g.nodes.map GraphNode.content).Perm (g'.nodes.map GraphNode.content) ∧ g.edges.Perm g'.edges) := by
  intro xs ys g g'
  have h : Reordered xs ys := keeps.reordered contents o.maxSnippetLines perm paths plain
  refine ⟨h.callers, h.total_eq o, h.capped_eq o, ?_⟩
  intro hc
  have hc' : ((plan o ys).graph o).capped = false := (h.capped_eq o).symm.trans hc
  have hnodes : g.nodes = (plan o xs).allNodes o.showExternal := Plan.nodes_of_uncapped hc
  have hnodes' : g'.nodes = (plan o ys).allNodes o.showExternal := Plan.nodes_of_uncapped hc'
  have hedges : g.edges = (plan o xs).edges := (Plan.edges_of_uncapped hc).trans (edgesAmong_allNodes h.plain)
  have hedges' : g'.edges = (plan o ys).edges := (Plan.edges_of_uncapped hc').trans (edgesAmong_allNodes h.plain')
  rw [hnodes, hnodes', hedges, hedges']
  exact ⟨h.content_allNodes o, h.edges o⟩

end

namespace Sample

open ChangeGraph.Syntax

/-- In the file `c.js` the function `f` calls `g`, which two other files define, each of them twice. -/
def parseThree (_ path : String) : Except Unit SourceFile :=
  .ok (.ofLines path ["", ""] (.mk { kind := "program", start := ⟨0, 0⟩, stop := ⟨1, 0⟩ }
    (if path = "c.js" then [function 0 "f" ["g", "h", "g"]] else [function 0 "g" [], function 1 "g" ["f"]])))

theorem keepsPath_parseThree : KeepsPath parseThree := by
  intro source path file h
  cases h
  rfl

def threeFiles : List ChangedFile := [⟨"b.js", []⟩, ⟨"c.js", [LineRange.single 1]⟩, ⟨"a.js", []⟩]

end Sample

/-- The call of `g` means the first one of `a.js`, though in the first order that file comes last. -/
theorem buildGraph_perm_three_files :
    let g := (buildGraph Sample.parseThree {} Sample.threeFiles Sample.contents).1
    let g' := (buildGraph Sample.parseThree {} Sample.threeFiles.reverse Sample.contents).1
    g.nodes.map (·.id) = ["b.js:g:2", "c.js:f:1", "a.js:g:1", "a.js:g:2", "external:h"] ∧
    g'.nodes.map (·.id) = ["a.js:g:1", "a.js:g:2", "c.js:f:1", "b.js:g:2", "external:h"] ∧
    g.total = g'.total ∧ g.capped = false ∧ g'.capped = false ∧
    (g.nodes.map GraphNode.content).Perm (g'.nodes.map GraphNode.content) ∧ g.edges.Perm g'.edges := by
  intro g g'
  have hcut : g.capped = false := by decide +kernel
  obtain ⟨-, htotal, hcapped, hsame⟩ := buildGraph_perm Sample.keepsPath_parseThree {} Sample.contents
    (List.reverse_perm Sample.threeFiles).symm (by decide) (by decide +kernel)
  exact ⟨by decide +kernel, by decide +kernel, htotal, hcut, hcapped.symm.trans hcut, hsame hcut⟩

end ChangeGraph
