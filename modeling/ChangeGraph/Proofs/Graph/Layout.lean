import ChangeGraph.Proofs.Graph.References

/-! # Nodes and edges of a plan

Which functions have nodes and which calls have edges before any limit is applied. -/

namespace ChangeGraph

/-- A function in reach of a change: it is changed, or a changed function calls it, or it calls a changed one. -/
def Hit (xs : List Extract) (f : Symbol) : Prop :=
  f.changed = true ∨
    (∃ g ∈ symbolsIn xs, g.changed = true ∧ ∃ c ∈ callsWithin xs g, meaning xs g c = some f) ∨
    (f.changed = false ∧ ∃ c ∈ callsWithin xs f, ∃ g ∈ symbolsIn xs, meaning xs f c = some g ∧ g.changed = true)

instance (xs : List Extract) (f : Symbol) : Decidable (Hit xs f) := inferInstanceAs (Decidable (_ ∨ _ ∨ _))

/-- The names by which changed functions call and that mean no symbol, in the order of the calls. -/
def externalNames (xs : List Extract) : List String :=
  ((symbolsIn xs).filter (·.changed)).flatMap fun f =>
    ((callsWithin xs f).filter fun c => meaning xs f c = none).map (·.callee)

theorem mem_externalNames {xs : List Extract} {n : String} :
    n ∈ externalNames xs ↔ ∃ f ∈ symbolsIn xs, f.changed = true ∧
      ∃ c ∈ callsWithin xs f, meaning xs f c = none ∧ c.callee = n := by
  simp only [externalNames, List.mem_flatMap, List.mem_filter, List.mem_map, decide_eq_true_eq, and_assoc]

/-! ### Included ids -/

theorem Plan.mem_included {p : Plan} {id : String} :
    id ∈ p.included ↔ id ∈ (p.changed.map (·.symbol)).map (·.id) ∨ (∃ r ∈ p.forward, r.target = id) ∨
      ∃ r ∈ p.backward, r.caller.id = id := by
  rw [Plan.included, mem_distinct, List.map_map, List.mem_append, List.mem_append, or_assoc]
  exact or_congr Iff.rfl (or_congr List.mem_map List.mem_map)

section

variable {o : GraphOptions} {xs : List Extract}

theorem hit_of_mem_included (h : PlainIds (symbolsIn xs)) {id : String} (hid : id ∈ (plan o xs).included) :
    (∃ f ∈ symbolsIn xs, Hit xs f ∧ f.id = id) ∨
      (o.showExternal = true ∧ ∃ n ∈ externalNames xs, externalId n = id) := by
  rw [Plan.mem_included, plan_changed h.nodup] at hid
  rcases hid with hid | ⟨r, hr, rfl⟩ | ⟨r, hr, rfl⟩
  · obtain ⟨f, hf, rfl⟩ := List.mem_map.mp hid
    obtain ⟨hm, hc⟩ := List.mem_filter.mp hf
    exact .inl ⟨f, hm, .inl hc, rfl⟩
  · obtain ⟨f, hf, hc, c, hm, he⟩ := (mem_plan_forward h.nodup).mp hr
    rcases reference?_eq_some_iff.mp he with ⟨g, hg, -, rfl⟩ | ⟨hnone, -, hs, rfl⟩
    · exact .inl ⟨g, mem_of_resolve? hg, .inr (.inl ⟨f, hf, hc, c, hm, hg⟩), rfl⟩
    · exact .inr ⟨hs, c.callee, mem_externalNames.mpr ⟨f, hf, hc, c, hm, hnone, rfl⟩, rfl⟩
  · obtain ⟨f, hf, hc, c, hm, he⟩ := (mem_plan_backward h.nodup).mp hr
    rcases reference?_eq_some_iff.mp he with ⟨g, hg, hgc, rfl⟩ | ⟨-, hfc, -, -⟩
    · have hgc : g.changed = true := by simpa [hc] using hgc
      exact .inl ⟨f, hf, .inr (.inr ⟨hc, c, hm, g, mem_of_resolve? hg, hg, hgc⟩), rfl⟩
    · rw [hc] at hfc
      cases hfc

theorem mem_included_of_hit (hn : (symbolsIn xs).Nodup) {f : Symbol} (hf : f ∈ symbolsIn xs) (hh : Hit xs f) :
    f.id ∈ (plan o xs).included := by
  rw [Plan.mem_included, plan_changed hn]
  rcases hh with hc | ⟨g, hg, hc, c, hm, he⟩ | ⟨hc, c, hm, g, -, he, hgc⟩
  · exact .inl (List.mem_map_of_mem (List.mem_filter.mpr ⟨hf, hc⟩))
  · have hr : reference? o.showExternal xs g c = some ⟨g, c.withTarget f, f.id, false⟩ :=
      reference?_eq_some_iff.mpr (.inl ⟨f, he, .inl hc, rfl⟩)
    exact .inr (.inl ⟨_, (mem_plan_forward hn).mpr ⟨g, hg, hc, c, hm, hr⟩, rfl⟩)
  · have hr : reference? o.showExternal xs f c = some ⟨f, c.withTarget g, g.id, false⟩ :=
      reference?_eq_some_iff.mpr (.inl ⟨g, he, .inr hgc, rfl⟩)
    exact .inr (.inr ⟨_, (mem_plan_backward hn).mpr ⟨f, hf, hc, c, hm, hr⟩, rfl⟩)

theorem mem_included_of_external (hn : (symbolsIn xs).Nodup) (hs : o.showExternal = true) {n : String}
    (hname : n ∈ externalNames xs) : externalId n ∈ (plan o xs).included := by
  obtain ⟨f, hf, hc, c, hm, he, rfl⟩ := mem_externalNames.mp hname
  have hr : reference? o.showExternal xs f c =
      some ⟨f, { c with target := some (externalId c.callee) }, externalId c.callee, true⟩ :=
    reference?_eq_some_iff.mpr (.inr ⟨he, hc, hs, rfl⟩)
  exact Plan.mem_included.mpr (.inr (.inl ⟨_, (mem_plan_forward hn).mpr ⟨f, hf, hc, c, hm, hr⟩, rfl⟩))

theorem mem_included_iff_hit (h : PlainIds (symbolsIn xs)) {f : Symbol} (hf : f ∈ symbolsIn xs) :
    f.id ∈ (plan o xs).included ↔ Hit xs f := by
  constructor
  · intro hid
    rcases hit_of_mem_included h hid with ⟨g, hg, hh, he⟩ | ⟨-, n, -, he⟩
    · exact h.eq_of_id_eq hg hf he ▸ hh
    · exact absurd he.symm (h.id_ne_externalId hf n)
  · exact mem_included_of_hit h.nodup hf

/-! ### Nodes -/

theorem ownNodes_eq (h : PlainIds (symbolsIn xs)) (showExternal : Bool) :
    (plan o xs).ownNodes showExternal =
      ((symbolsIn xs).filter (Hit xs ·)).map ((plan o xs).node showExternal) := by
  have hf : (symbolsIn xs).filter (fun s => (plan o xs).included.contains s.id) =
      (symbolsIn xs).filter (Hit xs ·) := by
    apply List.filter_congr
    intro f hm
    rw [Bool.eq_iff_iff, List.contains_iff_mem, decide_eq_true_eq]
    exact mem_included_iff_hit h hm
  rw [← hf]
  rfl

theorem externalTargets_of_changed {f : Symbol} (hf : f.changed = true) :
    ((referencesOf true xs f).filter (·.external)).map (·.target) =
      (((callsWithin xs f).filter fun c => meaning xs f c = none).map (·.callee)).map externalId := by
  unfold referencesOf
  induction callsWithin xs f with
  | nil => rfl
  | cons c cs ih =>
    cases hm : meaning xs f c with
    | some g =>
      have hr : reference? true xs f c = some ⟨f, c.withTarget g, g.id, false⟩ :=
        reference?_eq_some_iff.mpr (.inl ⟨g, hm, .inl hf, rfl⟩)
      rw [List.filterMap_cons_some hr, List.filter_cons_of_neg (by simp), List.filter_cons_of_neg (by simp [hm])]
      exact ih
    | none =>
      have hr : reference? true xs f c =
          some ⟨f, { c with target := some (externalId c.callee) }, externalId c.callee, true⟩ :=
        reference?_eq_some_iff.mpr (.inr ⟨hm, hf, rfl, rfl⟩)
      rw [List.filterMap_cons_some hr, List.filter_cons_of_pos (by simp), List.filter_cons_of_pos (by simp [hm])]
      simp only [List.map_cons, ih]

theorem externalTargets_of_unchanged {f : Symbol} (hf : f.changed = false) (showExternal : Bool) :
    (referencesOf showExternal xs f).filter (·.external) = [] := by
  rw [List.filter_eq_nil_iff]
  intro r hr
  obtain ⟨c, -, he⟩ := List.mem_filterMap.mp hr
  rcases reference?_eq_some_iff.mp he with ⟨g, -, -, rfl⟩ | ⟨-, hc, -, -⟩
  · exact nofun
  · rw [hf] at hc
    cases hc

theorem externalTargets_eq (hn : (symbolsIn xs).Nodup) (hs : o.showExternal = true) :
    ((plan o xs).references.filter (·.external)).map (·.target) = (externalNames xs).map externalId := by
  have hb : (plan o xs).backward.filter (·.external) = [] := by
    rw [plan_backward hn, List.filter_flatMap, List.flatMap_eq_nil_iff]
    intro f hf
    exact externalTargets_of_unchanged (by simpa using (List.mem_filter.mp hf).2) _
  rw [Plan.references, List.filter_append, hb, List.append_nil, plan_forward hn, hs, List.filter_flatMap,
    List.map_flatMap, externalNames, List.map_flatMap]
  apply List.flatMap_congr
  intro f hf
  exact externalTargets_of_changed (List.mem_filter.mp hf).2

theorem externalNodes_eq (h : PlainIds (symbolsIn xs)) (hs : o.showExternal = true) :
    (plan o xs).externalNodes =
      (distinct (externalNames xs)).map fun n => { id := externalId n, symbol := externalSymbol n } := by
  have hkey : ∀ a ∈ (plan o xs).references.map Reference.edge, ∀ b ∈ (plan o xs).references.map Reference.edge,
      a.id = b.id → a.external = b.external ∧ a.target = b.target := by
    intro a ha b hb he
    obtain ⟨r, hr, rfl⟩ := List.mem_map.mp ha
    obtain ⟨r', hr', rfl⟩ := List.mem_map.mp hb
    have ht := (edge_id_inj h hr hr' he).2.1
    refine ⟨?_, ht⟩
    show r.external = r'.external
    rw [Bool.eq_iff_iff, external_iff h hr, external_iff h hr', ht]
  have hd : distinct (((plan o xs).edges.filter (·.external)).map (·.target)) =
      (distinct (externalNames xs)).map externalId := by
    unfold Plan.edges edgesOf
    rw [distinct_filter_firstByKey _ _ _ _ hkey, List.filter_map, List.map_map, ← distinct_map externalId_injective,
      ← externalTargets_eq h.nodup hs]
    rfl
  unfold Plan.externalNodes
  rw [hd, List.map_map]
  apply List.map_congr_left
  intro n _
  simp only [Function.comp_apply, drop_externalId]

/-- The ids of all nodes of a plan, said of the symbols alone. -/
def nodeIds (showExternal : Bool) (xs : List Extract) : List String :=
  ((symbolsIn xs).filter (Hit xs ·)).map (·.id) ++
    if showExternal then (distinct (externalNames xs)).map externalId else []

theorem allNodes_ids (h : PlainIds (symbolsIn xs)) :
    ((plan o xs).allNodes o.showExternal).map (·.id) = nodeIds o.showExternal xs := by
  unfold Plan.allNodes nodeIds
  rw [List.map_append, ownNodes_eq h, List.map_map]
  congr 1
  split
  case isTrue hs => rw [externalNodes_eq h hs, List.map_map]; rfl
  case isFalse => rfl

theorem mem_nodeIds {showExternal : Bool} {id : String} :
    id ∈ nodeIds showExternal xs ↔ (∃ f ∈ symbolsIn xs, Hit xs f ∧ f.id = id) ∨
      (showExternal = true ∧ ∃ n ∈ externalNames xs, externalId n = id) := by
  unfold nodeIds
  cases showExternal with
  | true => simp only [List.mem_append, List.mem_map, List.mem_filter, decide_eq_true_eq, and_assoc, ite_true,
      mem_distinct, true_and]
  | false => simp [and_assoc]

theorem mem_included_iff_mem_nodeIds (h : PlainIds (symbolsIn xs)) {id : String} :
    id ∈ (plan o xs).included ↔ id ∈ nodeIds o.showExternal xs := by
  rw [mem_nodeIds]
  constructor
  · exact hit_of_mem_included h
  · rintro (⟨f, hf, hh, rfl⟩ | ⟨hs, n, hn, rfl⟩)
    · exact mem_included_of_hit h.nodup hf hh
    · exact mem_included_of_external h.nodup hs hn

theorem nodup_nodeIds (h : PlainIds (symbolsIn xs)) (showExternal : Bool) : (nodeIds showExternal xs).Nodup := by
  have hown : (((symbolsIn xs).filter (Hit xs ·)).map (·.id)).Nodup :=
    h.distinct.sublist (List.filter_sublist.map _)
  unfold nodeIds
  split
  · rw [List.nodup_append]
    refine ⟨hown, (nodup_distinct _).map externalId_injective, ?_⟩
    intro a ha b hb
    obtain ⟨f, hf, rfl⟩ := List.mem_map.mp ha
    obtain ⟨n, -, rfl⟩ := List.mem_map.mp hb
    exact h.id_ne_externalId (List.mem_filter.mp hf).1 n
  · rw [List.append_nil]
    exact hown

/-- The count of included ids is the count of nodes. -/
theorem length_included (h : PlainIds (symbolsIn xs)) :
    (plan o xs).included.length = ((plan o xs).allNodes o.showExternal).length := by
  have hi : (plan o xs).included.Nodup := nodup_distinct _
  have hp : (plan o xs).included.Perm (nodeIds o.showExternal xs) := by
    rw [List.perm_ext_iff_of_nodup hi (nodup_nodeIds h _)]
    intro id
    exact mem_included_iff_mem_nodeIds h
  rw [hp.length_eq, ← allNodes_ids h, List.length_map]

end

end ChangeGraph
