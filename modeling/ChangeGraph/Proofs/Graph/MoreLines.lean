import ChangeGraph.Proofs.Diff.ChangedLines
import ChangeGraph.Proofs.Graph.DistinctIds
import ChangeGraph.Proofs.Graph.FileOrder
import ChangeGraph.Proofs.Graph.Views
import ChangeGraph.Proofs.LineRange.Cover

/-!
# More changed lines

When more lines of the same files are changed, the same functions are found with the same ids and each call means the
same one; only more of them are marked as changed. A function that becomes changed is then seen as a caller and no
longer as one that calls, but all that the graph had of it before is still there.
-/

namespace ChangeGraph

/-! ### Other marks -/

def Symbol.marked (mark : Symbol → Bool) (s : Symbol) : Symbol := { s with changed := mark s }

def Extract.marked (mark : Symbol → Bool) (x : Extract) : Extract :=
  { x with symbols := x.symbols.map (Symbol.marked mark) }

theorem earliest_map {α : Type} {before : α → α → Bool} {φ : α → α} (h : ∀ a b, before (φ a) (φ b) = before a b)
    (l : List α) : earliest before (l.map φ) = (earliest before l).map φ := by
  cases l with
  | nil => rfl
  | cons a as =>
    simp only [List.map_cons, earliest, Option.map_some, Option.some.injEq]
    induction as generalizing a with
    | nil => rfl
    | cons b bs ih =>
      rw [List.map_cons, List.foldl_cons, List.foldl_cons, h, ← apply_ite φ]
      exact ih _

/-- What a name means does not depend on marks. -/
theorem resolve?_marked (mark : Symbol → Bool) (ss : List Symbol) (callee caller : String) :
    (NameIndex.ofSymbols (ss.map (Symbol.marked mark))).resolve? callee caller =
      ((NameIndex.ofSymbols ss).resolve? callee caller).map (Symbol.marked mark) := by
  have hall : (ss.map (Symbol.marked mark)).filter (·.answersTo callee) =
      (ss.filter (·.answersTo callee)).map (Symbol.marked mark) := by
    rw [List.filter_map]
    rfl
  have hown : ((ss.filter (·.answersTo callee)).map (Symbol.marked mark)).filter (·.path == caller) =
      ((ss.filter (·.answersTo callee)).filter (·.path == caller)).map (Symbol.marked mark) := by
    rw [List.filter_map]
    rfl
  have hbefore : ∀ a b, Symbol.before (a.marked mark) (b.marked mark) = Symbol.before a b := fun _ _ => rfl
  unfold NameIndex.resolve?
  simp only [NameIndex.candidates_ofSymbols, hall, hown, List.isEmpty_map]
  rw [← earliest_map hbefore, apply_ite (List.map (Symbol.marked mark))]

section Marked

variable {mark : Symbol → Bool} {xs : List Extract}

theorem symbolsIn_marked : symbolsIn (xs.map (Extract.marked mark)) = (symbolsIn xs).map (Symbol.marked mark) := by
  rw [symbolsIn, symbolsIn, List.flatMap_map, List.map_flatMap]
  rfl

theorem PlainIds.marked (h : PlainIds (symbolsIn xs)) : PlainIds (symbolsIn (xs.map (Extract.marked mark))) := by
  rw [symbolsIn_marked]
  constructor
  · rw [List.map_map]
    exact h.distinct
  · intro s hs
    obtain ⟨t, ht, rfl⟩ := List.mem_map.mp hs
    exact h.own t ht
  · intro s hs
    obtain ⟨t, ht, rfl⟩ := List.mem_map.mp hs
    exact h.arrowless t ht

theorem marked_mem {f : Symbol} (hf : f ∈ symbolsIn xs) : f.marked mark ∈ symbolsIn (xs.map (Extract.marked mark)) := by
  rw [symbolsIn_marked]
  exact List.mem_map_of_mem hf

theorem callsWithin_marked (h : PlainIds (symbolsIn xs)) {f : Symbol} (hf : f ∈ symbolsIn xs) :
    callsWithin (xs.map (Extract.marked mark)) (f.marked mark) = callsWithin xs f := by
  obtain ⟨x, hx, hfx⟩ := mem_symbolsIn.mp hf
  have hx' : x.marked mark ∈ xs.map (Extract.marked mark) := List.mem_map_of_mem hx
  have hfx' : f.marked mark ∈ (x.marked mark).symbols := List.mem_map_of_mem hfx
  have hplain : PlainIds (symbolsIn (xs.map (Extract.marked mark))) := h.marked
  rw [callsWithin_eq hplain.nodup hx' hfx', callsWithin_eq h.nodup hx hfx]
  rfl

theorem meaning_marked (f : Symbol) (c : CallSite) :
    meaning (xs.map (Extract.marked mark)) (f.marked mark) c = (meaning xs f c).map (Symbol.marked mark) := by
  unfold meaning
  rw [symbolsIn_marked]
  exact resolve?_marked mark (symbolsIn xs) c.callee f.path

/-! ### More marks -/

variable (more : ∀ s ∈ symbolsIn xs, s.changed = true → mark s = true)

include more

theorem hit_marked (h : PlainIds (symbolsIn xs)) {f : Symbol} (hf : f ∈ symbolsIn xs) (hit : Hit xs f) :
    Hit (xs.map (Extract.marked mark)) (f.marked mark) := by
  have target {g t : Symbol} {c : CallSite} (hm : meaning xs g c = some t) :
      meaning (xs.map (Extract.marked mark)) (g.marked mark) c = some (t.marked mark) := by
    rw [meaning_marked, hm]
    rfl
  rcases hit with hc | ⟨g, hg, hc, c, hcall, hm⟩ | ⟨hc, c, hcall, g, hg, hm, hgc⟩
  · exact .inl (more f hf hc)
  · rw [← callsWithin_marked h hg] at hcall
    exact .inr (.inl ⟨g.marked mark, marked_mem hg, more g hg hc, c, hcall, target hm⟩)
  · rw [← callsWithin_marked h hf] at hcall
    -- the caller may have become changed itself
    cases hmark : mark f with
    | true => exact .inl hmark
    | false =>
      exact .inr (.inr ⟨hmark, c, hcall, g.marked mark, marked_mem hg, target hm, more g hg hgc⟩)

theorem externalNames_marked (h : PlainIds (symbolsIn xs)) :
    externalNames xs ⊆ externalNames (xs.map (Extract.marked mark)) := by
  intro n hn
  obtain ⟨f, hf, hc, c, hcall, hm, rfl⟩ := mem_externalNames.mp hn
  rw [← callsWithin_marked h hf] at hcall
  have hnone : meaning (xs.map (Extract.marked mark)) (f.marked mark) c = none := by
    rw [meaning_marked, hm]
    rfl
  exact mem_externalNames.mpr ⟨f.marked mark, marked_mem hf, more f hf hc, c, hcall, hnone, rfl⟩

theorem nodeIds_marked (h : PlainIds (symbolsIn xs)) (showExternal : Bool) :
    nodeIds showExternal xs ⊆ nodeIds showExternal (xs.map (Extract.marked mark)) := by
  intro id hid
  rw [mem_nodeIds] at hid ⊢
  rcases hid with ⟨f, hf, hit, rfl⟩ | ⟨hs, n, hn, rfl⟩
  · exact .inl ⟨f.marked mark, marked_mem hf, hit_marked more h hf hit, rfl⟩
  · exact .inr ⟨hs, n, externalNames_marked more h hn, rfl⟩

/-- A call that makes a reference makes it still, to the same target and shown as before. -/
theorem reference?_marked {showExternal : Bool} {f : Symbol} (hf : f ∈ symbolsIn xs) {c : CallSite} {r : Reference}
    (hr : reference? showExternal xs f c = some r) :
    reference? showExternal (xs.map (Extract.marked mark)) (f.marked mark) c =
      some { r with caller := f.marked mark } := by
  rcases reference?_eq_some_iff.mp hr with ⟨g, hg, hc, rfl⟩ | ⟨hm, hc, hs, rfl⟩
  · refine reference?_eq_some_iff.mpr (.inl ⟨g.marked mark, by rw [meaning_marked, hg]; rfl, ?_, rfl⟩)
    rcases hc with hc | hc
    · exact .inl (more f hf hc)
    · exact .inr (more g (mem_of_resolve? hg) hc)
  · exact reference?_eq_some_iff.mpr (.inr ⟨by rw [meaning_marked, hm]; rfl, more f hf hc, hs, rfl⟩)

theorem triples_marked (h : PlainIds (symbolsIn xs)) (o : GraphOptions) :
    (plan o xs).edges.map GraphEdge.triple ⊆
      (plan o (xs.map (Extract.marked mark))).edges.map GraphEdge.triple := by
  rintro ⟨source, target, line⟩ ht
  obtain ⟨f, hf, rfl, hrefers⟩ := (mem_triples_iff h).mp ht
  obtain ⟨c, hc, r, hr, rfl, rfl⟩ := refers_iff.mp hrefers
  rw [← callsWithin_marked h hf] at hc
  exact (mem_triples_iff h.marked).mpr ⟨f.marked mark, marked_mem hf, rfl,
    refers_iff.mpr ⟨c, hc, _, reference?_marked more hf hr, rfl, rfl⟩⟩

/-! ### What nodes show -/

omit more in
theorem filterMap_sublist {α β : Type} {f g : α → Option β} {l : List α}
    (h : ∀ a ∈ l, ∀ b, f a = some b → g a = some b) : (l.filterMap f).Sublist (l.filterMap g) := by
  induction l with
  | nil => exact List.Sublist.refl _
  | cons a as ih =>
    have ih := ih fun b hb => h b (List.mem_cons_of_mem a hb)
    cases hf : f a with
    | none =>
      rw [List.filterMap_cons_none hf]
      exact ih.trans ((List.sublist_cons_self a as).filterMap g)
    | some b =>
      rw [List.filterMap_cons_some hf, List.filterMap_cons_some (h a List.mem_cons_self b hf)]
      exact ih.cons_cons b

/-- A call as the node of its function shows it, if it does. -/
def callAtNode (showExternal : Bool) (xs : List Extract) (f : Symbol) (c : CallSite) : Option CallSite :=
  if f.changed then some (callShown showExternal xs f c) else (reference? showExternal xs f c).map (·.call)

omit more in
theorem callsFor_eq_filterMap (h : PlainIds (symbolsIn xs)) (o : GraphOptions) {s : Symbol} (hs : s ∈ symbolsIn xs) :
    (plan o xs).callsFor o.showExternal s.id = (callsWithin xs s).filterMap (callAtNode o.showExternal xs s) := by
  rw [callsFor_eq h hs]
  unfold callAtNode
  cases s.changed with
  | true => simp only [if_true, List.filterMap_eq_map']
  | false => rw [referencesOf, List.map_filterMap]; rfl

theorem callAtNode_marked {showExternal : Bool} {f : Symbol} (hf : f ∈ symbolsIn xs) {c d : CallSite}
    (hd : callAtNode showExternal xs f c = some d) :
    callAtNode showExternal (xs.map (Extract.marked mark)) (f.marked mark) c = some d := by
  unfold callAtNode at hd ⊢
  cases hc : f.changed with
  | true =>
    have hmark : (f.marked mark).changed = true := more f hf hc
    rw [hc, if_pos rfl] at hd
    rw [hmark, if_pos rfl, ← hd]
    unfold callShown
    rw [meaning_marked, hmark, hc]
    cases meaning xs f c with
    | some g => rfl
    | none => rfl
  | false =>
    rw [hc, if_neg Bool.false_ne_true] at hd
    obtain ⟨r, hr, rfl⟩ := Option.map_eq_some_iff.mp hd
    have hr' := reference?_marked more hf hr
    cases hmark : (f.marked mark).changed with
    | true => rw [if_pos rfl, ← call_of_reference? hr']
    | false => rw [if_neg Bool.false_ne_true, hr']; rfl

theorem callsFor_marked (h : PlainIds (symbolsIn xs)) (o : GraphOptions) {f : Symbol} (hf : f ∈ symbolsIn xs) :
    ((plan o xs).callsFor o.showExternal f.id).Sublist
      ((plan o (xs.map (Extract.marked mark))).callsFor o.showExternal f.id) := by
  have hmarked : (plan o (xs.map (Extract.marked mark))).callsFor o.showExternal f.id =
      (callsWithin xs f).filterMap (callAtNode o.showExternal (xs.map (Extract.marked mark)) (f.marked mark)) := by
    rw [← callsWithin_marked h hf]
    exact callsFor_eq_filterMap h.marked o (marked_mem hf)
  rw [callsFor_eq_filterMap h o hf, hmarked]
  exact filterMap_sublist fun c _ d hd => callAtNode_marked more hf hd

theorem callersFor_marked (h : PlainIds (symbolsIn xs)) (o : GraphOptions) {f : Symbol} (hf : f ∈ symbolsIn xs) :
    (plan o xs).callersFor f.id ⊆ (plan o (xs.map (Extract.marked mark))).callersFor f.id := by
  intro m hm
  obtain ⟨e, he, -, rfl, htarget⟩ := (mem_callersFor_iff h hf).mp hm
  obtain ⟨e', he', htriple⟩ := List.mem_map.mp (triples_marked more h o (List.mem_map_of_mem he))
  simp only [GraphEdge.triple, Prod.mk.injEq] at htriple
  have hplain : PlainIds (symbolsIn (xs.map (Extract.marked mark))) := h.marked
  have hmem : f.marked mark ∈ symbolsIn (xs.map (Extract.marked mark)) := marked_mem hf
  have hown : e'.external ≠ true := by
    intro hext
    obtain ⟨name, hname⟩ := (external_edge_iff hplain he').mp hext
    exact hplain.id_ne_externalId hmem name (htarget.symm.trans (htriple.2.1.symm.trans hname))
  exact (mem_callersFor_iff hplain hmem).mpr
    ⟨e', he', Bool.eq_false_iff.mpr hown, htriple.1, htriple.2.1.trans htarget⟩

theorem edge_ids_marked (h : PlainIds (symbolsIn xs)) (o : GraphOptions) :
    (plan o xs).edges.map (·.id) ⊆ (plan o (xs.map (Extract.marked mark))).edges.map (·.id) := by
  intro id hid
  obtain ⟨e, he, rfl⟩ := List.mem_map.mp hid
  obtain ⟨e', he', htriple⟩ := List.mem_map.mp (triples_marked more h o (List.mem_map_of_mem he))
  simp only [GraphEdge.triple, Prod.mk.injEq] at htriple
  refine List.mem_map.mpr ⟨e', he', ?_⟩
  rw [edge_id_eq he', edge_id_eq he, htriple.1, htriple.2.1, htriple.2.2]

theorem allNodes_marked (h : PlainIds (symbolsIn xs)) (o : GraphOptions) {n : GraphNode}
    (hn : n ∈ (plan o xs).allNodes o.showExternal) :
    ∃ n' ∈ (plan o (xs.map (Extract.marked mark))).allNodes o.showExternal,
      n'.id = n.id ∧ n.calls.Sublist n'.calls ∧ n.calledBy ⊆ n'.calledBy := by
  have hplain : PlainIds (symbolsIn (xs.map (Extract.marked mark))) := h.marked
  rcases (mem_allNodes_iff h).mp hn with ⟨f, hf, hit, rfl⟩ | ⟨hs, name, hname, rfl⟩
  · refine ⟨_, (mem_allNodes_iff hplain).mpr (.inl ⟨f.marked mark, marked_mem hf, hit_marked more h hf hit, rfl⟩),
      rfl, ?_, ?_⟩
    · exact callsFor_marked more h o hf
    · exact callersFor_marked more h o hf
  · exact ⟨_, (mem_allNodes_iff hplain).mpr (.inr ⟨hs, name, externalNames_marked more h hname, rfl⟩), rfl,
      List.Sublist.refl _, List.Subset.refl _⟩

theorem length_allNodes_marked (h : PlainIds (symbolsIn xs)) (o : GraphOptions) :
    ((plan o xs).allNodes o.showExternal).length ≤
      ((plan o (xs.map (Extract.marked mark))).allNodes o.showExternal).length := by
  have hplain : PlainIds (symbolsIn (xs.map (Extract.marked mark))) := h.marked
  have hsub := List.subperm_of_subset (nodup_nodeIds h o.showExternal) (nodeIds_marked more h o.showExternal)
  have hlen := hsub.length_le
  rwa [← allNodes_ids h, ← allNodes_ids hplain, List.length_map, List.length_map] at hlen

theorem length_edges_marked (h : PlainIds (symbolsIn xs)) (o : GraphOptions) :
    (plan o xs).edges.length ≤ (plan o (xs.map (Extract.marked mark))).edges.length := by
  have hnodup : ((plan o xs).edges.map (·.id)).Nodup := nodup_map_firstByKey GraphEdge.id
  have hlen := (List.subperm_of_subset hnodup (edge_ids_marked more h o)).length_le
  rwa [List.length_map, List.length_map] at hlen

end Marked

/-! ### Changed files with more lines -/

/-- The second of two entries of one file has all changed lines of the first. -/
def ChangedFile.Within (f f' : ChangedFile) : Prop :=
  f.path = f'.path ∧ ∀ line, LineRange.Covers f.ranges line → LineRange.Covers f'.ranges line

section

variable {ε : Type} {parse : String → String → Except ε SourceFile} {contents : String → Option String} {budget : Int}

theorem mapM_map_ok {ε α β γ : Type} (f : α → Except ε β) (φ : β → γ) (l : List α) :
    (l.mapM fun a => (f a).map φ) = (l.mapM f).map (List.map φ) := by
  induction l with
  | nil => rfl
  | cons a as ih =>
    rw [List.mapM_cons, List.mapM_cons, ih]
    cases f a with
    | error e => rfl
    | ok b =>
      cases as.mapM f with
      | error e => rfl
      | ok bs => rfl

theorem symbolsOf_marked (file : SourceFile) (ranges ranges' : List LineRange) (budget : Int) :
    symbolsOf file ranges' budget =
      (symbolsOf file ranges budget).map (List.map (Symbol.marked fun s => s.range.meetsAny ranges')) := by
  have hread (g : Sighting) : (do return g.symbol file ranges' budget (← nodeRange g.node) : Except _ Symbol) =
      (do return g.symbol file ranges budget (← nodeRange g.node) : Except _ Symbol).map
        (Symbol.marked fun s => s.range.meetsAny ranges') := by
    cases nodeRange g.node with
    | error b => rfl
    | ok r => rfl
  unfold symbolsOf
  simp only [hread, mapM_map_ok]
  cases (sightings none none file.root).mapM
      fun g => (do return g.symbol file ranges budget (← nodeRange g.node) : Except _ Symbol) with
  | error b => rfl
  | ok all =>
    show Except.ok _ = Except.ok _
    rw [← map_firstByKey]
    rfl

theorem extractOf?_marked {f f' : ChangedFile} (hpath : f.path = f'.path) :
    extractOf? parse contents budget f' =
      (extractOf? parse contents budget f).map (Extract.marked fun s => s.range.meetsAny f'.ranges) := by
  unfold extractOf?
  rw [← hpath]
  split
  · cases contents f.path with
    | none => rfl
    | some source =>
      show (extractFile parse budget f' source).toOption = Option.map _ (extractFile parse budget f source).toOption
      unfold extractFile
      rw [← hpath]
      simp only [symbolsOf_marked _ f.ranges f'.ranges]
      cases parse source f.path with
      | error e => rfl
      | ok file =>
        simp only [Except.mapError, bind, Except.bind]
        cases symbolsOf file f.ranges budget with
        | error b => rfl
        | ok symbols => rfl
  · rfl

theorem symbolsOf_of_extractOf? {f : ChangedFile} {x : Extract} (h : extractOf? parse contents budget f = some x) :
    symbolsOf x.file f.ranges budget = .ok x.symbols := by
  unfold extractOf? at h
  split at h
  · obtain ⟨source, -, hx⟩ := Option.bind_eq_some_iff.mp h
    exact symbolsOf_of_extractFile (toOption_eq_some_iff.mp hx)
  · cases h

theorem KeepsPath.path_of_mem (keeps : KeepsPath parse) {f : ChangedFile} {x : Extract}
    (h : extractOf? parse contents budget f = some x) {s : Symbol} (hs : s ∈ x.symbols) : s.path = f.path := by
  obtain ⟨g, -, r, -, rfl⟩ := exists_sighting_of_mem_symbolsOf (symbolsOf_of_extractOf? h) hs
  exact keeps.path_eq h

theorem ChangedFile.paths_of_within {fs fs' : List ChangedFile} (within : List.Forall₂ ChangedFile.Within fs fs') :
    fs'.map (·.path) = fs.map (·.path) := by
  induction within with
  | nil => rfl
  | cons h _ ih => rw [List.map_cons, List.map_cons, h.1, ih]

/-- The mark of a symbol for the changed lines of its file. -/
def markFor (fs : List ChangedFile) (s : Symbol) : Bool := s.range.meetsAny (ChangedFile.rangesFor fs s.path)

theorem KeepsPath.filterMap_marked (keeps : KeepsPath parse) {mark : Symbol → Bool} {fs fs' : List ChangedFile}
    (within : List.Forall₂ ChangedFile.Within fs fs')
    (hmark : ∀ f ∈ fs', ∀ s : Symbol, s.path = f.path → mark s = s.range.meetsAny f.ranges) :
    fs'.filterMap (extractOf? parse contents budget) =
      (fs.filterMap (extractOf? parse contents budget)).map (Extract.marked mark) := by
  induction within with
  | nil => rfl
  | @cons f f' gs gs' h _ ih =>
    have ih := ih fun g hg => hmark g (List.mem_cons_of_mem f' hg)
    have hf' : extractOf? parse contents budget f' = _ := extractOf?_marked h.1
    cases hx : extractOf? parse contents budget f with
    | none =>
      rw [hx] at hf'
      rw [List.filterMap_cons_none hx, List.filterMap_cons_none hf', ih]
    | some x =>
      rw [hx] at hf'
      rw [List.filterMap_cons_some hx, List.filterMap_cons_some hf', List.map_cons, ih]
      congr 1
      unfold Extract.marked
      congr 1
      apply List.map_congr_left
      intro s hs
      have hpath : s.path = f'.path := (keeps.path_of_mem hx hs).trans h.1
      rw [Symbol.marked, Symbol.marked, hmark f' List.mem_cons_self s hpath]

theorem KeepsPath.extracts_marked (keeps : KeepsPath parse) {fs fs' : List ChangedFile}
    (paths : (fs.map (·.path)).Nodup) (within : List.Forall₂ ChangedFile.Within fs fs') :
    (extract parse contents budget fs').extracts =
      (extract parse contents budget fs).extracts.map (Extract.marked (markFor fs')) := by
  have paths' : (fs'.map (·.path)).Nodup := by rw [ChangedFile.paths_of_within within]; exact paths
  rw [keeps.extracts_eq paths', keeps.extracts_eq paths]
  apply keeps.filterMap_marked within
  intro f hf s hs
  rw [markFor, hs, ChangedFile.rangesFor_of_mem paths' hf]

/-- A function that has a changed line has one among more changed lines. -/
theorem KeepsPath.markFor_of_changed (keeps : KeepsPath parse) {fs fs' : List ChangedFile}
    (paths : (fs.map (·.path)).Nodup) (within : List.Forall₂ ChangedFile.Within fs fs') {s : Symbol}
    (hs : s ∈ symbolsIn (extract parse contents budget fs).extracts) (hc : s.changed = true) :
    markFor fs' s = true := by
  have paths' : (fs'.map (·.path)).Nodup := by rw [ChangedFile.paths_of_within within]; exact paths
  obtain ⟨x, hx, hsx⟩ := mem_symbolsIn.mp hs
  rw [keeps.extracts_eq paths] at hx
  obtain ⟨f, hf, hfx⟩ := List.mem_filterMap.mp hx
  have hpath := keeps.path_of_mem hfx hsx
  obtain ⟨g, -, r, -, rfl⟩ := exists_sighting_of_mem_symbolsOf (symbolsOf_of_extractOf? hfx) hsx
  obtain ⟨line, hline, hcovers⟩ := LineRange.meetsAny_iff.mp hc
  obtain ⟨f', hf', hwithin⟩ : ∃ f' ∈ fs', f.Within f' := by
    clear hx hs paths paths'
    induction within with
    | nil => cases hf
    | cons h _ ih =>
      rcases List.mem_cons.mp hf with rfl | hf
      · exact ⟨_, List.mem_cons_self, h⟩
      · obtain ⟨f', hf', hw⟩ := ih hf
        exact ⟨f', List.mem_cons_of_mem _ hf', hw⟩
  unfold markFor
  rw [hpath, hwithin.1, ChangedFile.rangesFor_of_mem paths' hf']
  exact LineRange.meetsAny_iff.mpr ⟨line, hline, hwithin.2 line hcovers⟩

/-- When more lines of the same files are changed the graph has no fewer functions; and if nothing is cut from it, then
nothing is cut from the graph of the fewer lines, which has no other nodes and edges, and whose nodes show no other
calls and callers. -/
theorem buildGraph_mono (keeps : KeepsPath parse) (o : GraphOptions) (contents : String → Option String)
    {fs fs' : List ChangedFile} (paths : (fs.map (·.path)).Nodup)
    (within : List.Forall₂ ChangedFile.Within fs fs')
    (plain : PlainIds (symbolsIn (extract parse contents o.maxSnippetLines fs).extracts)) :
    let g := (buildGraph parse o fs contents).1
    let g' := (buildGraph parse o fs' contents).1
    g.total ≤ g'.total ∧
    (g'.capped = false → g.capped = false ∧
      g.nodes.map (·.id) ⊆ g'.nodes.map (·.id) ∧ g.edges.map (·.id) ⊆ g'.edges.map (·.id) ∧
      ∀ n ∈ g.nodes, ∀ n' ∈ g'.nodes, n'.id = n.id → n.calls.Sublist n'.calls ∧ n.calledBy ⊆ n'.calledBy) := by
  intro g g'
  generalize hxs : (extract parse contents o.maxSnippetLines fs).extracts = xs at plain
  have hys : (extract parse contents o.maxSnippetLines fs').extracts = xs.map (Extract.marked (markFor fs')) := by
    rw [keeps.extracts_marked paths within, hxs]
  have more : ∀ s ∈ symbolsIn xs, s.changed = true → markFor fs' s = true := by
    intro s hs hc
    rw [← hxs] at hs
    exact keeps.markFor_of_changed paths within hs hc
  have plain' : PlainIds (symbolsIn (xs.map (Extract.marked (markFor fs')))) := plain.marked
  have hg : g = (plan o xs).graph o := by rw [← hxs]; rfl
  have hg' : g' = (plan o (xs.map (Extract.marked (markFor fs')))).graph o := by rw [← hys]; rfl
  have hlen := length_allNodes_marked more plain o
  rw [hg, hg']
  refine ⟨?_, ?_⟩
  · rw [Plan.graph_total, Plan.graph_total, length_included plain, length_included plain']
    exact Int.ofNat_le.mpr hlen
  · intro hc'
    obtain ⟨hnodes', hedges'⟩ := (capped_eq_false_iff_of_plain plain').mp hc'
    have hc : ((plan o xs).graph o).capped = false :=
      (capped_eq_false_iff_of_plain plain).mpr ⟨hlen.trans hnodes', (length_edges_marked more plain o).trans hedges'⟩
    rw [Plan.nodes_of_uncapped hc, Plan.nodes_of_uncapped hc', Plan.edges_of_uncapped hc,
      Plan.edges_of_uncapped hc', edgesAmong_allNodes plain, edgesAmong_allNodes plain']
    refine ⟨hc, ?_, edge_ids_marked more plain o, ?_⟩
    · rw [allNodes_ids plain, allNodes_ids plain']
      exact nodeIds_marked more plain o.showExternal
    · intro n hn n' hn' hid
      obtain ⟨m, hm, hmid, hcalls, hcallers⟩ := allNodes_marked more plain o hn
      have hnodup : (((plan o (xs.map (Extract.marked (markFor fs')))).allNodes o.showExternal).map (·.id)).Nodup := by
        rw [allNodes_ids plain']
        exact nodup_nodeIds plain' _
      obtain rfl := List.inj_on_of_nodup_map hnodup hn' hm (hid.trans hmid.symm)
      exact ⟨hcalls, hcallers⟩

end

/-- The changed files of the sample with the line of `k` changed as well. -/
def Sample.moreFiles : List ChangedFile := [⟨"a.js", [LineRange.single 3, LineRange.single 1]⟩]

/-- The function `k`, which calls `f`, becomes changed: its two calls of `f` stay and the one of `z` joins them. -/
theorem buildGraph_mono_caller_changed :
    let g := (buildGraph Sample.parse {} Sample.files Sample.contents).1
    let g' := (buildGraph Sample.parse {} Sample.moreFiles Sample.contents).1
    g.nodes.map (·.id) = ["a.js:f:1", "a.js:g:2", "a.js:k:3", "external:h"] ∧
    g'.nodes.map (·.id) = ["a.js:f:1", "a.js:g:2", "a.js:k:3", "a.js:z:4", "external:h"] ∧
    g.nodes.map (·.calls.length) = [3, 0, 2, 0] ∧ g'.nodes.map (·.calls.length) = [3, 0, 3, 1, 0] ∧
    g.total ≤ g'.total ∧ g.edges.map (·.id) ⊆ g'.edges.map (·.id) ∧
    ∀ n ∈ g.nodes, ∀ n' ∈ g'.nodes, n'.id = n.id → n.calls.Sublist n'.calls ∧ n.calledBy ⊆ n'.calledBy := by
  intro g g'
  have within : List.Forall₂ ChangedFile.Within Sample.files Sample.moreFiles := by
    refine .cons ⟨rfl, ?_⟩ .nil
    intro line h
    exact LineRange.covers_cons.mpr (.inr h)
  obtain ⟨htotal, hmore⟩ := buildGraph_mono Sample.keepsPath_parse {} Sample.contents (by decide) within (by decide)
  obtain ⟨-, -, hedges, hnodes⟩ := hmore (by decide +kernel)
  exact ⟨by decide +kernel, by decide +kernel, by decide +kernel, by decide +kernel, htotal, hedges, hnodes⟩

end ChangeGraph
