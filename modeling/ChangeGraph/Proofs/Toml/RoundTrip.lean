import ChangeGraph.Proofs.Toml.Written

/-!
# Reading written settings

Reading the text of kept settings gives settings that agree with them on every way of keys. The reader takes the sections
one by one; what it has of the settings after some of them is what these sections show.
-/

namespace ChangeGraph.Toml

open Value

/-! ### One section -/

/-- What a section adds to the settings that have been read. -/
structure Adds (s : Section) (before after : Value) : Prop where
  way : ∀ q, q <+: s.path → look after q = some (.table [])
  entries : ∀ e ∈ plainEntries s.entries, look after (s.path ++ [e.1]) = some e.2.face
  frame : ∀ q, ¬ q <+: s.path → (∀ e ∈ plainEntries s.entries, ¬ s.path ++ [e.1] <+: q) → look after q = look before q

theorem look_on_way {path q : List String} {v : Value} {es : Entries} (h : at? path v = some (.table es))
    (hq : q <+: path) : look v q = some (.table []) := by
  obtain ⟨r, rfl⟩ := hq
  rw [at?_append] at h
  obtain ⟨w, hw, hrest⟩ := Option.bind_eq_some_iff.mp h
  rw [look, hw, Option.map_some]
  cases r with
  | nil =>
    cases hrest
    rfl
  | cons k ks =>
    obtain ⟨es, rfl⟩ := exists_table_of_at? hrest
    rfl

theorem run_entries {es : Entries} (hes : ∀ e ∈ es, isBare e.1.toList = true ∧ WrittenAs e.2 (textOf e.2))
    (hnodup : (es.map (·.1)).Nodup) {path : List String} {s : State} (hlong : s.long = none)
    (hhere : s.here = path.map Hop.key) {rs : Entries} (hat : at? path s.root = some (.table rs))
    (hnew : ∀ e ∈ es, Entries.get? rs e.1 = none) :
    ∃ t : State, Run s (es.map fun e => entryLine e.1.toList (textOf e.2)) t ∧
      (∃ rs', at? path t.root = some (.table rs')) ∧
      (∀ e ∈ es, look t.root (path ++ [e.1]) = some e.2.face) ∧
      ∀ q, (∀ e ∈ es, ¬ path ++ [e.1] <+: q) → look t.root q = look s.root q := by
  -- The table `rs` that the reader fills grows by one entry with each line.
  induction es generalizing s rs with
  | nil => exact ⟨s, .nil hlong, ⟨rs, hat⟩, fun _ he => absurd he List.not_mem_nil, fun _ _ => rfl⟩
  | cons e es ih =>
    obtain ⟨k, v⟩ := e
    obtain ⟨hbare, hwritten⟩ := hes (k, v) List.mem_cons_self
    rw [List.map_cons, List.nodup_cons] at hnodup
    obtain ⟨root, hchange, hat', hframe⟩ := changeAt_set hat (hnew (k, v) List.mem_cons_self) v
    have hstep : s.step (entryLine k.toList (textOf v)) = .ok { s with root, long := none } := by
      rw [State.step_entryLine hbare hwritten hlong, String.ofList_toList, hhere, hchange]
      rfl
    have hother : ∀ e ∈ es, e.1 ≠ k := by
      intro e he heq
      exact hnodup.1 (List.mem_map.mpr ⟨e, he, heq⟩)
    have hnew' : ∀ e ∈ es, Entries.get? (Entries.set k v rs) e.1 = none := by
      intro e he
      rw [Entries.get?_set, if_neg (hother e he)]
      exact hnew e (List.mem_cons_of_mem _ he)
    obtain ⟨t, hrun, htable, hentries, hrest⟩ := ih (fun e he => hes e (List.mem_cons_of_mem _ he)) hnodup.2
      (s := { s with root, long := none }) rfl hhere hat' hnew'
    refine ⟨t, .cons hlong hstep hrun, htable, ?_, ?_⟩
    · intro e he
      rcases List.mem_cons.mp he with rfl | he
      · have hset : look root (path ++ [k]) = some v.face := by
          rw [look, at?_append, hat', Option.bind_some, at?, Entries.get?_set, if_pos rfl]
          rfl
        rw [hrest (path ++ [k]) fun e he hbelow => ?_, hset]
        have heq := hbelow.eq_of_length (by simp)
        exact hother e he (by simpa using heq)
      · exact hentries e he
    · intro q hq
      rw [hrest q fun e he => hq e (List.mem_cons_of_mem _ he)]
      exact hframe q (hq (k, v) List.mem_cons_self)

theorem writtenAs_of_mem_plainEntries {es : Entries} (h : keepsEntries es = true) :
    ∀ e ∈ plainEntries es, isBare e.1.toList = true ∧ WrittenAs e.2 (textOf e.2) := by
  intro e he
  obtain ⟨hmem, hplain⟩ := List.mem_filter.mp he
  obtain ⟨hbare, hkept⟩ := (keepsEntries_iff.mp h).1 e hmem
  exact ⟨hbare, writtenAs_textOf hkept (by simpa using hplain)⟩

theorem nodup_plainEntries {es : Entries} (h : keepsEntries es = true) : ((plainEntries es).map (·.1)).Nodup :=
  (keepsEntries_iff.mp h).2.sublist (List.filter_sublist.map _)

theorem run_top {es : Entries} (h : keepsEntries es = true) :
    ∃ t : State, Run {} (entryLines es) t ∧ Adds (Section.top es) (.table []) t.root := by
  have hhere : ({} : State).here = ([] : List String).map Hop.key := rfl
  have hstart : at? [] ({} : State).root = some (.table []) := rfl
  obtain ⟨t, hrun, ⟨rs, hat⟩, hentries, hframe⟩ := run_entries (writtenAs_of_mem_plainEntries h) (nodup_plainEntries h)
    rfl hhere hstart (fun _ _ => rfl)
  refine ⟨t, hrun, ⟨fun q hq => look_on_way hat hq, hentries, fun q _ hq => hframe q hq⟩⟩

/-- A section whose table is not there yet. -/
theorem run_section {es : Entries} {s : Section} (hs : s.Within es) (hpath : s.path ≠ []) {st : State}
    (hlong : st.long = none) (hroot : look st.root [] = some (.table []))
    (hway : ∀ q, q <+: s.path → look st.root q = none ∨ look st.root q = some (.table []))
    (hnew : look st.root s.path = none) : ∃ t : State, Run st s.lines t ∧ Adds s st.root t.root := by
  obtain ⟨root, passed, henter, hat, hframe⟩ := enter_new hpath hroot hway hnew st.passed
  have hstep : st.step (headerLine (nameOf s.path)) =
      .ok { st with root, here := s.path.map Hop.key, passed } := by
    rw [State.step_headerLine hpath hs.bare hlong, henter]
    rfl
  obtain ⟨t, hrun, ⟨rs, hat'⟩, hentries, hrest⟩ := run_entries (writtenAs_of_mem_plainEntries hs.kept)
    (nodup_plainEntries hs.kept) (s := { st with root, here := s.path.map Hop.key, passed }) hlong rfl hat
    (fun _ _ => rfl)
  refine ⟨t, .cons hlong hstep hrun, ⟨fun q hq => look_on_way hat' hq, hentries, fun q hq hq' => ?_⟩⟩
  rw [hrest q hq']
  exact hframe q hq

/-! ### All sections -/

/-- What sections show at the end of a way of keys. -/
def Shows (ss : List Section) (q : List String) (v : Value) : Prop :=
  (∃ s ∈ ss, q <+: s.path ∧ v = .table []) ∨
    ∃ s ∈ ss, ∃ e ∈ plainEntries s.entries, q = s.path ++ [e.1] ∧ v = e.2.face

theorem shows_append {ss ts : List Section} {q : List String} {v : Value} :
    Shows (ss ++ ts) q v ↔ Shows ss q v ∨ Shows ts q v := by
  simp only [Shows, List.mem_append, or_and_right, exists_or]
  exact or_or_or_comm

theorem face_of_plain {v : Value} (h : isTable v = false) : v.face = v := by
  cases v with
  | table es => cases h
  | _ => rfl

theorem isTable_of_mem_plainEntries {es : Entries} {e : String × Value} (h : e ∈ plainEntries es) :
    isTable e.2 = false := by
  simpa using (List.mem_filter.mp h).2

theorem look_behind_plain {v w : Value} (hw : isTable w = false) {p r : List String} (h : look v p = some w.face)
    (hr : r ≠ []) : look v (p ++ r) = none := by
  obtain ⟨u, hu, hface⟩ := Option.map_eq_some_iff.mp h
  rw [face_of_plain hw] at hface
  rw [look, at?_append, hu, Option.bind_some]
  obtain ⟨k, ks, rfl⟩ := List.exists_cons_of_ne_nil hr
  cases u with
  | table es =>
    rw [← hface] at hw
    cases hw
  | _ => rfl

/-- Sections of settings show nothing that the settings do not have. -/
theorem look_of_shows {es : Entries} {ss : List Section} (hss : ∀ s ∈ ss, s.Within es) {q : List String} {v : Value}
    (h : Shows ss q v) : look (.table es) q = some v := by
  rcases h with ⟨s, hs, hq, rfl⟩ | ⟨s, hs, e, he, rfl, rfl⟩
  · exact look_on_way (hss s hs).found hq
  · have hget : Entries.get? s.entries e.1 = some e.2 := (get?_eq_some_iff (hss s hs).kept).mpr (List.mem_filter.mp he).1
    rw [look, at?_append, (hss s hs).found, Option.bind_some, at?, hget]
    rfl

/-- The ways of keys that a section decides about: those to its table and those to and behind its plain values. -/
def Section.Decides (s : Section) (q : List String) : Prop :=
  q <+: s.path ∨ ∃ e ∈ plainEntries s.entries, s.path ++ [e.1] <+: q

theorem decides_of_shows {s : Section} {q : List String} {v : Value} (h : Shows [s] q v) : s.Decides q := by
  rcases h with ⟨t, ht, hq, -⟩ | ⟨t, ht, e, he, rfl, -⟩
  · rw [List.mem_singleton.mp ht] at hq
    exact .inl hq
  · rw [List.mem_singleton.mp ht] at he ⊢
    exact .inr ⟨e, he, List.prefix_refl _⟩

theorem look_iff_shows {es : Entries} {s : Section} (hs : s.Within es) {q : List String} (hq : s.Decides q) {v : Value} :
    look (.table es) q = some v ↔ Shows [s] q v := by
  have hself : s ∈ [s] := List.mem_singleton.mpr rfl
  have hwithin : ∀ t ∈ [s], t.Within es := fun t ht => List.mem_singleton.mp ht ▸ hs
  refine ⟨fun hlook => ?_, look_of_shows hwithin⟩
  rcases hq with hway | ⟨e, he, r, rfl⟩
  · rw [look_on_way hs.found hway] at hlook
    exact .inl ⟨s, hself, hway, (Option.some.inj hlook).symm⟩
  · have hentry : look (.table es) (s.path ++ [e.1]) = some e.2.face :=
      look_of_shows hwithin (.inr ⟨s, hself, e, he, rfl, rfl⟩)
    by_cases hr : r = []
    · subst hr
      rw [List.append_nil, hentry] at hlook
      exact .inr ⟨s, hself, e, he, List.append_nil _, (Option.some.inj hlook).symm⟩
    · rw [look_behind_plain (isTable_of_mem_plainEntries he) hentry hr] at hlook
      cases hlook

theorem Adds.look_eq {es : Entries} {s : Section} (hs : s.Within es) {before after : Value} (h : Adds s before after)
    {q : List String} (hq : s.Decides q) : look after q = look (.table es) q := by
  rcases hq with hway | ⟨e, he, r, rfl⟩
  · rw [h.way q hway, look_on_way hs.found hway]
  · have hentry : look (.table es) (s.path ++ [e.1]) = some e.2.face :=
      (look_iff_shows hs (.inr ⟨e, he, List.prefix_refl _⟩)).mpr
        (.inr ⟨s, List.mem_singleton.mpr rfl, e, he, rfl, rfl⟩)
    by_cases hr : r = []
    · rw [hr, List.append_nil, h.entries e he, hentry]
    · have hplain := isTable_of_mem_plainEntries he
      rw [look_behind_plain hplain (h.entries e he) hr, look_behind_plain hplain hentry hr]

/-- One more section shows what it decides about, and the rest stays as it was. -/
theorem Adds.shows {es : Entries} {ss : List Section} (hss : ∀ t ∈ ss, t.Within es) {s : Section} (hs : s.Within es)
    {before after : Value} (hadds : Adds s before after)
    (h : ∀ q, q ≠ [] → ∀ v, look before q = some v ↔ Shows ss q v) (q : List String) (v : Value) :
    look after q = some v ↔ Shows (ss ++ [s]) q v := by
  rw [shows_append]
  by_cases hq : s.Decides q
  · rw [hadds.look_eq hs hq, ← look_iff_shows hs hq]
    exact ⟨.inr, fun hor => hor.elim (look_of_shows hss) id⟩
  · have hframe : look after q = look before q :=
      hadds.frame q (fun hway => hq (.inl hway)) fun e he hkey => hq (.inr ⟨e, he, hkey⟩)
    have hne : q ≠ [] := fun heq => hq (.inl (heq ▸ List.nil_prefix))
    rw [hframe, h q hne v]
    exact ⟨.inl, fun hor => hor.elim id fun hshows => absurd (decides_of_shows hshows) hq⟩

/-- On the way to a section there is nothing yet, or tables. -/
theorem look_way_of_shows {es : Entries} {ss : List Section} (hss : ∀ t ∈ ss, t.Within es) {s : Section}
    (hs : s.Within es) {root : Value} (hshows : ∀ q v, look root q = some v ↔ Shows ss q v) {q : List String}
    (hq : q <+: s.path) : look root q = none ∨ look root q = some (.table []) := by
  cases hlook : look root q with
  | none => exact .inl rfl
  | some v =>
    have hes := look_of_shows hss ((hshows q v).mp hlook)
    rw [look_on_way hs.found hq] at hes
    exact .inr hes.symm

theorem look_new_of_shows {es : Entries} {ss : List Section} (hss : ∀ t ∈ ss, t.Within es) {s : Section}
    (hs : s.Within es) (hlater : ∀ t ∈ ss, ¬ s.path <+: t.path) {root : Value}
    (hshows : ∀ q v, look root q = some v ↔ Shows ss q v) : look root s.path = none := by
  cases hlook : look root s.path with
  | none => rfl
  | some v =>
    rcases (hshows _ v).mp hlook with ⟨t, ht, hbelow, -⟩ | ⟨t, ht, e, he, hpath, -⟩
    · exact absurd hbelow (hlater t ht)
    · -- A plain value cannot stand where the settings have a table.
      have hplain := isTable_of_mem_plainEntries he
      have hentry : look (.table es) s.path = some e.2.face := look_of_shows hss (.inr ⟨t, ht, e, he, hpath, rfl⟩)
      rw [look_on_way hs.found (List.prefix_refl _), face_of_plain hplain] at hentry
      rw [← Option.some.inj hentry] at hplain
      cases hplain

/-- The reader takes sections in an order in which none comes after one of a table within it. -/
theorem run_sections {es : Entries} {ss ts : List Section} (hss : ∀ s ∈ ss ++ ts, s.Within es)
    (horder : (ss ++ ts).Pairwise fun a b => ¬ b.path <+: a.path) {st : State} (hlong : st.long = none)
    (hroot : look st.root [] = some (.table [])) (hshows : ∀ q v, look st.root q = some v ↔ Shows ss q v)
    (hstart : ss ≠ []) :
    ∃ t : State, Run st (ts.flatMap Section.lines) t ∧ ∀ q v, look t.root q = some v ↔ Shows (ss ++ ts) q v := by
  -- The induction is on the sections still to be read; `ss` are those that the reader has had.
  induction ts generalizing ss st with
  | nil => exact ⟨st, .nil hlong, by simpa using hshows⟩
  | cons s ts ih =>
    have hwithin : ∀ t ∈ ss, t.Within es := fun t ht => hss t (List.mem_append_left _ ht)
    have hs : s.Within es := hss s (by simp)
    have hlater : ∀ t ∈ ss, ¬ s.path <+: t.path :=
      fun t ht => (List.pairwise_append.mp horder).2.2 t ht s List.mem_cons_self
    have hpath : s.path ≠ [] := by
      intro heq
      obtain ⟨t, ht⟩ := List.exists_mem_of_ne_nil ss hstart
      exact hlater t ht (heq ▸ List.nil_prefix)
    obtain ⟨st₁, hrun₁, hadds⟩ := run_section hs hpath hlong hroot (fun _ => look_way_of_shows hwithin hs hshows)
      (look_new_of_shows hwithin hs hlater hshows)
    have hshows₁ := hadds.shows hwithin hs fun q _ => hshows q
    have hassoc : ss ++ s :: ts = (ss ++ [s]) ++ ts := by simp
    rw [hassoc] at hss horder ⊢
    obtain ⟨t, hrun₂, hshows₂⟩ :=
      ih hss horder hrun₁.long_end (hadds.way [] List.nil_prefix) hshows₁ (by simp)
    exact ⟨t, hrun₁.append hrun₂, hshows₂⟩

/-! ### Whole settings -/

theorem keeps_of_at? {path : List String} {v w : Value} (hv : keeps v = true) (h : at? path v = some w) :
    keeps w = true := by
  induction path generalizing v with
  | nil =>
    cases h
    exact hv
  | cons k ks ih =>
    cases v with
    | table es =>
      rw [at?] at h
      obtain ⟨child, hget, hchild⟩ := Option.bind_eq_some_iff.mp h
      exact ih ((keepsEntries_iff.mp hv).1 _ (mem_of_get? hget)).2 hchild
    | _ => cases h

theorem within_top {es : Entries} (h : keepsEntries es = true) : (Section.top es).Within es :=
  ⟨rfl, fun _ hk => absurd hk List.not_mem_nil, h⟩

theorem within_of_mem_sections {es : Entries} (h : keepsEntries es = true) : ∀ s ∈ sections es, s.Within es :=
  fun s hs => within_of_mem_levels (fun _ ht => (within_top h).subtable ht) s (List.mem_filter.mp hs).1

theorem pairwise_sections {es : Entries} (h : keepsEntries es = true) :
    (Section.top es :: sections es).Pairwise fun a b => ¬ b.path <+: a.path := by
  have hdepth : ∀ s ∈ (Section.top es).subtables, s.path.length = 1 := by
    intro s hs
    obtain ⟨k, _, -, rfl⟩ := Section.mem_subtables.mp hs
    rfl
  obtain ⟨hpairs, hlong⟩ := pairwise_levels (n := weight (.table es) + 1) (fun s hs => (within_top h).subtable hs) hdepth
    (pairwise_subtables (within_top h))
  refine .cons (fun s hs hbelow => ?_) (hpairs.sublist List.filter_sublist)
  have hle : 1 ≤ s.path.length := hlong s (List.mem_filter.mp hs).1
  have hzero : s.path.length ≤ 0 := hbelow.length_le
  omega

/-- The sections show all of the settings. -/
theorem shows_of_look {es : Entries} (h : keepsEntries es = true) {q : List String} {v : Value}
    (hlook : look (.table es) q = some v) : Shows (Section.top es :: sections es) q v := by
  obtain ⟨w, hat, rfl⟩ := Option.map_eq_some_iff.mp hlook
  cases htable : isTable w with
  | true =>
    obtain ⟨es', rfl⟩ := exists_table_of_isTable htable
    by_cases hq : q = []
    · exact .inl ⟨Section.top es, List.mem_cons_self, hq ▸ List.nil_prefix, rfl⟩
    · have hkept : keepsEntries es' = true := keeps_of_at? (v := .table es) h hat
      obtain ⟨s, hs, hbelow⟩ := exists_section_below hq hat hkept
      exact .inl ⟨s, List.mem_cons_of_mem _ hs, hbelow, rfl⟩
  | false =>
    obtain rfl | ⟨p, k, rfl⟩ := List.eq_nil_or_concat q
    · cases hat
      cases htable
    · rw [List.concat_eq_append] at hat ⊢
      rw [at?_append] at hat
      obtain ⟨u, hu, hget⟩ := Option.bind_eq_some_iff.mp hat
      obtain ⟨es', rfl⟩ := exists_table_of_at? hget
      have hmem : (k, w) ∈ plainEntries es' := by
        rw [at?] at hget
        obtain ⟨child, hchild, heq⟩ := Option.bind_eq_some_iff.mp hget
        cases heq
        exact List.mem_filter.mpr ⟨mem_of_get? hchild, by simp [htable]⟩
      by_cases hp : p = []
      · subst hp
        cases hu
        exact .inr ⟨Section.top es, List.mem_cons_self, (k, w), hmem, rfl, rfl⟩
      · have hheader : Section.hasHeader ⟨p, es'⟩ = true := by
          have hne : (plainEntries es').isEmpty = false := by
            simpa using List.ne_nil_of_mem hmem
          simp [Section.hasHeader, hne]
        exact .inr ⟨⟨p, es'⟩, List.mem_cons_of_mem _ (mem_sections hp hu hheader), (k, w), hmem, rfl, rfl⟩

/-- Written lines pass the layout and have no line ends in them. -/
structure GoodLine (l : List Char) : Prop where
  passes : Layout.LinePasses l
  oneLine : '\n' ∉ l
  noReturn : '\r' ∉ l

theorem goodLine_entry {es : Entries} (h : keepsEntries es = true) : ∀ l ∈ entryLines es, GoodLine l := by
  intro l hl
  obtain ⟨e, he, rfl⟩ := List.mem_map.mp hl
  obtain ⟨hbare, hwritten⟩ := writtenAs_of_mem_plainEntries h e he
  have hline : '\n' ∉ e.1.toList := notMem_of_isBare hbare (by decide)
  have hreturn : '\r' ∉ e.1.toList := notMem_of_isBare hbare (by decide)
  exact ⟨Layout.linePasses_entry hbare hwritten.passes, by simp [entryLine, hline, hwritten.oneLine],
    by simp [entryLine, hreturn, hwritten.noReturn]⟩

theorem goodLine_header {path : List String} (h : ∀ k ∈ path, isBare k.toList = true) :
    GoodLine (headerLine (nameOf path)) := by
  have hbare := isBare_of_mem_map h
  have hline : '\n' ∉ nameOf path := notMem_joinWith hbare (by decide) (by decide)
  have hreturn : '\r' ∉ nameOf path := notMem_joinWith hbare (by decide) (by decide)
  refine ⟨Layout.linePasses_header fun c hc => ?_, by simp [headerLine, hline], by simp [headerLine, hreturn]⟩
  rcases eq_dot_or_isBareChar hbare hc with rfl | hbare
  · rfl
  · exact Layout.isInert_of_isBareChar hbare

theorem goodLine_of_mem {es : Entries} (h : keepsEntries es = true) :
    ∀ l ∈ entryLines es ++ (sections es).flatMap Section.lines, GoodLine l := by
  intro l hl
  rcases List.mem_append.mp hl with hl | hl
  · exact goodLine_entry h l hl
  · obtain ⟨s, hs, hl⟩ := List.mem_flatMap.mp hl
    have hwithin := within_of_mem_sections h s hs
    rcases List.mem_cons.mp hl with rfl | hl
    · exact goodLine_header hwithin.bare
    · exact goodLine_entry hwithin.kept l hl

theorem HasLines.notMem {text : List Char} {ls : List (List Char)} (h : HasLines text ls) {c : Char} (hc : c ≠ '\n')
    (hls : ∀ l ∈ ls, c ∉ l) : c ∉ text := by
  obtain ⟨ks, rfl, rfl⟩ := h
  intro hmem
  obtain ⟨k, hk, hmem⟩ := List.mem_flatMap.mp hmem
  rcases List.mem_append.mp hmem with hmem | hmem
  · refine hls k (List.mem_filter.mpr ⟨hk, ?_⟩) hmem
    cases k with
    | nil => cases hmem
    | cons d k => rfl
  · exact hc (List.mem_singleton.mp hmem)

theorem run_lines {es : Entries} (h : keepsEntries es = true) :
    ∃ t : State, Run {} (entryLines es ++ (sections es).flatMap Section.lines) t ∧
      ∀ q, look t.root q = look (.table es) q := by
  obtain ⟨s, hrun, hadds⟩ := run_top h
  have hshows : ∀ q v, look s.root q = some v ↔ Shows ([] ++ [Section.top es]) q v := by
    refine hadds.shows (fun _ ht => absurd ht List.not_mem_nil) (within_top h) fun q hq v => ?_
    simp [look_empty hq, Shows]
  have hwithin : ∀ t ∈ [Section.top es] ++ sections es, t.Within es := by
    intro t ht
    rcases List.mem_append.mp ht with ht | ht
    · rw [List.mem_singleton.mp ht]
      exact within_top h
    · exact within_of_mem_sections h t ht
  obtain ⟨t, hrun', hall⟩ := run_sections hwithin (pairwise_sections h) hrun.long_end (hadds.way [] List.nil_prefix) hshows
    (List.cons_ne_nil _ _)
  refine ⟨t, hrun.append hrun', fun q => Option.ext fun v => ?_⟩
  rw [hall q v]
  exact ⟨look_of_shows hwithin, shows_of_look h⟩

/-- Kept settings are read as they were written. -/
theorem read_write {es : Entries} (h : keepsEntries es = true) :
    ∃ text, write es = .ok text ∧ '\r' ∉ text.toList ∧ ∃ es', read text = .ok es' ∧ es'.Agree es := by
  obtain ⟨text, hwrite, hlines⟩ := write_eq h
  have hgood := goodLine_of_mem h
  obtain ⟨t, hrun, hlook⟩ := run_lines h
  obtain ⟨es', hat⟩ := exists_table_of_look (hlook [])
  have hroot : t.root = .table es' := Option.some.inj hat
  refine ⟨text, hwrite, hlines.notMem (by decide) fun l hl => (hgood l hl).noReturn, es', ?_, fun q => ?_⟩
  · exact read_of_run hlines (fun l hl => ⟨(hgood l hl).passes, (hgood l hl).oneLine⟩) hrun hroot
  · rw [← hroot]
    exact hlook q

end ChangeGraph.Toml
