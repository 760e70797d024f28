import ChangeGraph.Proofs.Graph.Edges
import ChangeGraph.Proofs.Graph.Extraction
import ChangeGraph.Proofs.Graph.Limits
import ChangeGraph.Proofs.Source.Symbols

/-!
# Ids that do not collide

The id of a symbol is read back from the right: line and name have no colon in them, and all that stands before is the
path, which may have colons. An id of a function outside has one colon and the id of a symbol at least two, so no path
makes the two collide. An edge id is cut at its first arrow, as long as no path and no name holds one.
-/

namespace ChangeGraph

/-- Names and paths from which ids can be read back. -/
structure PlainNames (xs : List Extract) : Prop where
  names : ∀ x ∈ xs, ∀ s ∈ x.symbols, ':' ∉ s.name.toList ∧ ¬ arrow <:+: s.name.toList
  paths : ∀ x ∈ xs, ¬ arrow <:+: x.file.path.toList
  callees : ∀ x ∈ xs, ∀ s ∈ x.symbols, ∀ c ∈ callsOf x.file s.range, ':' ∉ c.callee.toList

instance (xs : List Extract) : Decidable (PlainNames xs) :=
  decidable_of_iff ((∀ x ∈ xs, ∀ s ∈ x.symbols, ':' ∉ s.name.toList ∧ ¬ arrow <:+: s.name.toList) ∧
    (∀ x ∈ xs, ¬ arrow <:+: x.file.path.toList) ∧
    ∀ x ∈ xs, ∀ s ∈ x.symbols, ∀ c ∈ callsOf x.file s.range, ':' ∉ c.callee.toList)
    ⟨fun h => ⟨h.1, h.2.1, h.2.2⟩, fun h => ⟨h.names, h.paths, h.callees⟩⟩

/-! ### Ids of symbols -/

theorem toList_symbolId (path name : String) (r : LineRange) :
    (symbolId path name r).toList = path.toList ++ ':' :: (name.toList ++ ':' :: r.first.repr.toList) := by
  have h : symbolId path name r = path ++ ":" ++ name ++ ":" ++ r.first.repr := rfl
  rw [h]
  simp only [String.toList_append, List.append_assoc]
  rfl

theorem symbolId_inj {path path' name name' : String} {r r' : LineRange} (hn : ':' ∉ name.toList)
    (hn' : ':' ∉ name'.toList) (h : symbolId path name r = symbolId path' name' r') :
    path = path' ∧ name = name' ∧ r.first = r'.first := by
  have hl := congrArg String.toList h
  simp only [toList_symbolId, ← List.cons_append, ← List.append_assoc] at hl
  obtain ⟨hfront, hline⟩ := append_cons_inj_of_notMem_right (colon_notMem_repr _) (colon_notMem_repr _) hl
  obtain ⟨hpath, hname⟩ := append_cons_inj_of_notMem_right hn hn' hfront
  exact ⟨String.toList_injective hpath, String.toList_injective hname,
    Text.eq_of_toString_eq hline⟩

/-- A colon comes after the name of a symbol, and none comes after the mark of a function outside. -/
theorem symbolId_ne_externalId {path name callee : String} {r : LineRange} (hc : ':' ∉ callee.toList) :
    symbolId path name r ≠ externalId callee := by
  intro h
  have hcount := congrArg (fun s => s.toList.count ':') h
  have hmark : externalMark.toList.count ':' = 1 := by decide
  simp only [toList_symbolId, toList_externalId, List.count_append, List.count_cons_self, hmark,
    List.count_eq_zero_of_not_mem hc] at hcount
  omega

/-! ### Arrows -/

theorem arrow_infix_cons {c : Char} {cs : List Char} (h : arrow <:+: c :: cs) :
    (∃ t, c :: cs = arrow ++ t) ∨ arrow <:+: cs := by
  rcases List.infix_cons_iff.mp h with hp | hi
  · obtain ⟨t, ht⟩ := hp
    exact .inl ⟨t, ht.symm⟩
  · exact .inr hi

/-- An arrow cannot reach over a colon. -/
theorem arrow_infix_append_colon {a b : List Char} (h : arrow <:+: a ++ ':' :: b) : arrow <:+: a ∨ arrow <:+: b := by
  induction a with
  | nil =>
    rcases arrow_infix_cons h with ⟨t, ht⟩ | hb
    · exact absurd (List.cons.inj ht).1 (by decide)
    · exact .inr hb
  | cons c cs ih =>
    rcases arrow_infix_cons h with ⟨t, ht⟩ | hrest
    · cases cs with
      | nil => exact absurd (List.cons.inj (List.cons.inj ht).2).1 (by decide)
      | cons d ds =>
        obtain ⟨rfl, hd⟩ := List.cons.inj ht
        obtain ⟨rfl, -⟩ := List.cons.inj hd
        exact .inl ⟨[], ds, rfl⟩
    · rcases ih hrest with hcs | hb
      · exact .inl (hcs.trans (List.suffix_cons c cs).isInfix)
      · exact .inr hb

theorem not_arrow_infix_repr (n : Int) : ¬ arrow <:+: n.repr.toList := by
  have hdigits (m : Nat) : '>' ∉ m.repr.toList := by
    intro h
    rw [Nat.repr, String.toList_ofList] at h
    exact absurd (Nat.isDigit_of_mem_toDigits (by decide) (by decide) h) (by decide)
  intro h
  have hm : '>' ∈ n.repr.toList := h.subset (by decide)
  rw [Int.repr_eq_if] at hm
  split at hm
  · exact hdigits _ hm
  · rw [String.toList_append, List.mem_append] at hm
    rcases hm with hm | hm
    · exact absurd hm (by decide)
    · exact hdigits _ hm

theorem arrowless_symbolId {path name : String} {r : LineRange} (hp : ¬ arrow <:+: path.toList)
    (hn : ¬ arrow <:+: name.toList) : ¬ arrow <:+: (symbolId path name r).toList := by
  rw [toList_symbolId]
  intro h
  rcases arrow_infix_append_colon h with h | h
  · exact hp h
  · rcases arrow_infix_append_colon h with h | h
    · exact hn h
    · exact not_arrow_infix_repr _ h

/-! ### Symbols of all files -/

section

variable {ε : Type} {parse : String → String → Except ε SourceFile} {contents : String → Option String} {budget : Int}
  {fs : List ChangedFile}

theorem id_of_mem_extract {x : Extract} (hx : x ∈ (extract parse contents budget fs).extracts) {s : Symbol}
    (hs : s ∈ x.symbols) : s.id = symbolId x.file.path s.name s.range := by
  obtain ⟨f, -, hsymbols⟩ := exists_symbolsOf_of_mem_extract hx
  obtain ⟨g, -, r, -, rfl⟩ := exists_sighting_of_mem_symbolsOf hsymbols hs
  rfl

theorem nodup_ids_of_mem_extract {x : Extract} (hx : x ∈ (extract parse contents budget fs).extracts) :
    (x.symbols.map (·.id)).Nodup := by
  obtain ⟨f, -, hsymbols⟩ := exists_symbolsOf_of_mem_extract hx
  obtain ⟨all, -, hfirst⟩ := bind_eq_ok_iff.mp hsymbols
  have hsymbols : firstByKey Symbol.id [] all = x.symbols := Except.ok.inj hfirst
  rw [← hsymbols]
  exact nodup_map_firstByKey Symbol.id

theorem KeepsPath.nodup_paths_extract (keeps : KeepsPath parse) :
    ((extract parse contents budget fs).extracts.map (·.file.path)).Nodup := by
  rw [keeps.extracts_eq_firstByKey]
  exact nodup_map_firstByKey _

theorem KeepsPath.nodup_ids (keeps : KeepsPath parse)
    (plain : PlainNames (extract parse contents budget fs).extracts) :
    ((symbolsIn (extract parse contents budget fs).extracts).map (·.id)).Nodup := by
  rw [symbolsIn, List.map_flatMap, List.nodup_flatMap]
  refine ⟨fun x hx => nodup_ids_of_mem_extract hx, ?_⟩
  have hpaths : ((extract parse contents budget fs).extracts.map (·.file.path)).Nodup := keeps.nodup_paths_extract
  refine (List.pairwise_map.mp hpaths).imp_of_mem ?_
  intro x y hx hy hne id hidx hidy
  obtain ⟨s, hs, rfl⟩ := List.mem_map.mp hidx
  obtain ⟨t, ht, he⟩ := List.mem_map.mp hidy
  rw [id_of_mem_extract hx hs, id_of_mem_extract hy ht] at he
  exact hne (symbolId_inj (plain.names y hy t ht).1 (plain.names x hx s hs).1 he).1.symm

theorem symbol_ne_outside (plain : PlainNames (extract parse contents budget fs).extracts)
    {x y : Extract} (hx : x ∈ (extract parse contents budget fs).extracts)
    (hy : y ∈ (extract parse contents budget fs).extracts) {s f : Symbol} (hs : s ∈ x.symbols) (hf : f ∈ y.symbols)
    {c : CallSite} (hc : c ∈ callsOf y.file f.range) : s.id ≠ externalId c.callee := by
  rw [id_of_mem_extract hx hs]
  exact symbolId_ne_externalId (plain.callees y hy f hf c hc)

theorem arrowless_of_mem_symbolsIn (plain : PlainNames (extract parse contents budget fs).extracts) {s : Symbol}
    (hs : s ∈ symbolsIn (extract parse contents budget fs).extracts) : ¬ arrow <:+: s.id.toList := by
  obtain ⟨x, hx, hsx⟩ := mem_symbolsIn.mp hs
  rw [id_of_mem_extract hx hsx]
  exact arrowless_symbolId (plain.paths x hx) (plain.names x hx s hsx).2

end

/-! ### Nodes and edges -/

section

variable {o : GraphOptions} {xs : List Extract}

/-- An edge that leads outside has the id of a name by which some function calls. -/
theorem exists_call_of_external_edge (hn : (symbolsIn xs).Nodup) {e : GraphEdge} (he : e ∈ (plan o xs).edges)
    (hext : e.external = true) :
    ∃ x ∈ xs, ∃ f ∈ x.symbols, ∃ c ∈ callsOf x.file f.range, e.target = externalId c.callee := by
  obtain ⟨r, hr, rfl⟩ := exists_reference_of_mem_edges he
  obtain ⟨f, hf, c, hc, href⟩ := (mem_plan_references hn).mp hr
  obtain ⟨x, hx, hfx⟩ := mem_symbolsIn.mp hf
  rw [callsWithin_eq hn hx hfx] at hc
  rcases reference?_eq_some_iff.mp href with ⟨g, -, -, rfl⟩ | ⟨-, -, -, rfl⟩
  · cases hext
  · exact ⟨x, hx, f, hfx, c, hc, rfl⟩

theorem nodup_ids_allNodes (hids : ((symbolsIn xs).map (·.id)).Nodup)
    (hout : ∀ s ∈ symbolsIn xs, ∀ x ∈ xs, ∀ f ∈ x.symbols, ∀ c ∈ callsOf x.file f.range, s.id ≠ externalId c.callee) :
    (((plan o xs).allNodes o.showExternal).map (·.id)).Nodup := by
  have hown : (((plan o xs).ownNodes o.showExternal).map (·.id)).Nodup := by
    have hsub : (((plan o xs).ownNodes o.showExternal).map (·.id)).Sublist ((symbolsIn xs).map (·.id)) := by
      rw [Plan.ownNodes, List.map_map]
      exact List.filter_sublist.map _
    exact hids.sublist hsub
  have hexternal : ((plan o xs).externalNodes.map (·.id)).Nodup := by
    rw [Plan.externalNodes, List.map_map]
    exact (nodup_distinct _).map (fun _ _ h => h)
  unfold Plan.allNodes
  split
  · rw [List.map_append, List.nodup_append]
    refine ⟨hown, hexternal, ?_⟩
    intro a ha b hb he
    obtain ⟨n, hn, rfl⟩ := List.mem_map.mp ha
    obtain ⟨s, hs, rfl⟩ := List.mem_map.mp hn
    obtain ⟨m, hm, rfl⟩ := List.mem_map.mp hb
    obtain ⟨target, htarget, rfl⟩ := List.mem_map.mp hm
    obtain ⟨e, hedge, rfl⟩ := List.mem_map.mp (mem_distinct.mp htarget)
    obtain ⟨hmem, hext⟩ := List.mem_filter.mp hedge
    obtain ⟨x, hx, f, hf, c, hc, hcallee⟩ := exists_call_of_external_edge hids.of_map hmem hext
    exact hout s (List.mem_filter.mp hs).1 x hx f hf c hc (he.trans hcallee)
  · rw [List.append_nil]
    exact hown

theorem triple_eq_of_id_eq (hn : (symbolsIn xs).Nodup)
    (harrow : ∀ s ∈ symbolsIn xs, ¬ arrow <:+: s.id.toList) {r r' : Reference} (hr : r ∈ (plan o xs).references)
    (hr' : r' ∈ (plan o xs).references) (he : r.edge.id = r'.edge.id) : r.edge.triple = r'.edge.triple := by
  obtain ⟨hs, ht, hl⟩ := edgeId_inj (harrow _ (caller_mem hn hr)) (harrow _ (caller_mem hn hr')) he
  show (r.caller.id, r.target, r.call.line) = (r'.caller.id, r'.target, r'.call.line)
  rw [hs, ht, hl]

theorem id_eq_of_triple_eq {r r' : Reference} (h : r.edge.triple = r'.edge.triple) : r.edge.id = r'.edge.id := by
  obtain ⟨hs, ht, hl⟩ : r.caller.id = r'.caller.id ∧ r.target = r'.target ∧ r.call.line = r'.call.line := by
    simpa only [GraphEdge.triple, Reference.edge, Prod.mk.injEq] using h
  show edgeId r.caller.id r.target r.call.line = edgeId r'.caller.id r'.target r'.call.line
  rw [hs, ht, hl]

/-- Where ids tell edges apart, a reference is dropped exactly if an edge with its caller, target and line is there. -/
theorem edgesOf_concat {before : List Reference} {r : Reference}
    (tell : ∀ r' ∈ before, r.edge.id = r'.edge.id → r.edge.triple = r'.edge.triple) :
    edgesOf (before ++ [r]) =
      edgesOf before ++ if r.edge.triple ∈ (edgesOf before).map GraphEdge.triple then [] else [r.edge] := by
  have hseen : r.edge.id ∈ (before.map Reference.edge).map GraphEdge.id ↔
      r.edge.triple ∈ (edgesOf before).map GraphEdge.triple := by
    constructor
    · intro h
      obtain ⟨e, he, hid⟩ := List.mem_map.mp h
      obtain ⟨k, hk, hkid⟩ := exists_mem_firstByKey GraphEdge.id he List.not_mem_nil
      obtain ⟨r', hr', rfl⟩ := List.mem_map.mp (mem_of_mem_firstByKey hk)
      exact List.mem_map.mpr ⟨r'.edge, hk, (tell r' hr' (hkid.trans hid).symm).symm⟩
    · intro h
      obtain ⟨e, he, htriple⟩ := List.mem_map.mp h
      obtain ⟨r', hr', rfl⟩ := List.mem_map.mp (mem_of_mem_firstByKey he)
      rw [← id_eq_of_triple_eq htriple]
      exact List.mem_map_of_mem (List.mem_map_of_mem hr')
  rw [edgesOf, List.map_append, firstByKey_append, List.append_nil]
  congr 1
  by_cases h : r.edge.id ∈ (before.map Reference.edge).map GraphEdge.id
  · rw [if_pos (hseen.mp h)]
    exact firstByKey_cons_seen GraphEdge.id h
  · rw [if_neg (mt hseen.mpr h)]
    exact firstByKey_cons_new GraphEdge.id h

/-- Further references only add edges. -/
theorem exists_edgesOf_append (rs rs' : List Reference) : ∃ later, edgesOf (rs ++ rs') = edgesOf rs ++ later := by
  rw [edgesOf, List.map_append, firstByKey_append]
  exact ⟨_, rfl⟩

end

/-- A graph in which ids never collide, neither those of symbols and of functions outside nor those of edges. -/
structure CollisionFree (o : GraphOptions) (xs : List Extract) (g : CallGraph) : Prop where
  ids : ∀ x ∈ xs, ∀ s ∈ x.symbols, s.id = symbolId x.file.path s.name s.range
  symbols : ((symbolsIn xs).map (·.id)).Nodup
  outside : ∀ s ∈ symbolsIn xs, ∀ x ∈ xs, ∀ f ∈ x.symbols, ∀ c ∈ callsOf x.file f.range, s.id ≠ externalId c.callee
  nodes : (g.nodes.map (·.id)).Nodup
  edges : ∀ r ∈ (plan o xs).references, ∀ r' ∈ (plan o xs).references,
    r.edge.id = r'.edge.id ↔ r.edge.triple = r'.edge.triple
  made : g.edges.Sublist (plan o xs).edges
  /-- The edges are made in the order of the references, and a reference gets none only if there is one with its caller,
  target and line already. -/
  dropped : ∀ before r after, (plan o xs).references = before ++ r :: after →
    edgesOf (before ++ [r]) =
      edgesOf before ++ (if r.edge.triple ∈ (edgesOf before).map GraphEdge.triple then [] else [r.edge]) ∧
    ∃ later, (plan o xs).edges = edgesOf (before ++ [r]) ++ later

theorem buildGraph_collisionFree {ε : Type} {parse : String → String → Except ε SourceFile} (keeps : KeepsPath parse)
    (o : GraphOptions) (fs : List ChangedFile) (contents : String → Option String)
    (plain : PlainNames (extract parse contents o.maxSnippetLines fs).extracts) :
    CollisionFree o (extract parse contents o.maxSnippetLines fs).extracts (buildGraph parse o fs contents).1 := by
  have hids := keeps.nodup_ids plain
  have hn := hids.of_map
  have hout : ∀ s ∈ symbolsIn (extract parse contents o.maxSnippetLines fs).extracts,
      ∀ y ∈ (extract parse contents o.maxSnippetLines fs).extracts, ∀ f ∈ y.symbols, ∀ c ∈ callsOf y.file f.range,
        s.id ≠ externalId c.callee := by
    intro s hs y hy f hf c hc
    obtain ⟨x, hx, hsx⟩ := mem_symbolsIn.mp hs
    exact symbol_ne_outside plain hx hy hsx hf hc
  have harrow : ∀ s ∈ symbolsIn (extract parse contents o.maxSnippetLines fs).extracts, ¬ arrow <:+: s.id.toList :=
    fun s hs => arrowless_of_mem_symbolsIn plain hs
  constructor
  case ids => exact fun x hx s hs => id_of_mem_extract hx hs
  case symbols => exact hids
  case outside => exact hout
  case nodes => exact (nodup_ids_allNodes hids hout).sublist ((List.take_sublist _ _).map _)
  case edges => exact fun r hr r' hr' => ⟨triple_eq_of_id_eq hn harrow hr hr', id_eq_of_triple_eq⟩
  case made => exact (List.take_sublist _ _).trans List.filter_sublist
  case dropped =>
    intro before r after hsplit
    have hr : r ∈ (plan o (extract parse contents o.maxSnippetLines fs).extracts).references := by
      rw [hsplit]
      exact List.mem_append_right _ List.mem_cons_self
    have tell : ∀ r' ∈ before, r.edge.id = r'.edge.id → r.edge.triple = r'.edge.triple := by
      intro r' hbefore he
      refine triple_eq_of_id_eq hn harrow hr ?_ he
      rw [hsplit]
      exact List.mem_append_left _ hbefore
    refine ⟨edgesOf_concat tell, ?_⟩
    rw [Plan.edges, hsplit, List.append_cons]
    exact exists_edgesOf_append (before ++ [r]) after

theorem Sample.keepsPath_parse : KeepsPath Sample.parse := by
  intro source path file h
  cases h
  rfl

/-- Two paths begin like the id of a function outside, and one of them begins like an id in the other. -/
def Sample.colonFiles : List ChangedFile := [⟨"external:h.js", [LineRange.single 1]⟩, ⟨"external:h.js:f:1.js", []⟩]

theorem buildGraph_collisionFree_colons :
    let g := (buildGraph Sample.parse {} Sample.colonFiles Sample.contents).1
    g.nodes.map (·.id) = ["external:h.js:f:1", "external:h.js:g:2", "external:h.js:k:3", "external:h"] ∧
    PlainNames (extract Sample.parse Sample.contents 20 Sample.colonFiles).extracts ∧
    CollisionFree {} (extract Sample.parse Sample.contents 20 Sample.colonFiles).extracts g := by
  intro g
  have plain : PlainNames (extract Sample.parse Sample.contents 20 Sample.colonFiles).extracts := by decide +kernel
  exact ⟨by decide +kernel, plain,
    buildGraph_collisionFree Sample.keepsPath_parse {} Sample.colonFiles Sample.contents plain⟩

end ChangeGraph
