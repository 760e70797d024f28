import ChangeGraph.Proofs.Toml.Sections

/-!
# The text of kept settings

Kept settings can be written, and their text has the lines of their sections in order, with blank lines between them.
-/

namespace ChangeGraph.Toml

open Value

open ChangeGraph.Text (joinWith)

/-! ### Lines -/

def entryLines (es : Entries) : List (List Char) :=
  (plainEntries es).map fun e => entryLine e.1.toList (textOf e.2)

def Section.lines (s : Section) : List (List Char) := headerLine (nameOf s.path) :: entryLines s.entries

/-- Lines with a line end after each. -/
def joined (ls : List (List Char)) : List Char := ls.flatMap (· ++ ['\n'])

theorem hasLines_nil : HasLines [] [] := ⟨[], rfl, rfl⟩

theorem HasLines.append {text : List Char} {ls ks : List (List Char)} (h : HasLines text ls) (hks : ∀ k ∈ ks, k ≠ []) :
    HasLines (text ++ joined ks) (ls ++ ks) := by
  obtain ⟨all, rfl, rfl⟩ := h
  refine ⟨all ++ ks, by rw [List.flatMap_append, joined], ?_⟩
  have hkept : ks.filter (!·.isEmpty) = ks := List.filter_eq_self.mpr fun k hk => by simpa using hks k hk
  rw [List.filter_append, hkept]

theorem HasLines.withGap {text : List Char} {ls : List (List Char)} (h : HasLines text ls) : HasLines (withGap text) ls := by
  unfold Toml.withGap
  split
  · exact h
  · obtain ⟨all, rfl, rfl⟩ := h
    exact ⟨all ++ [[]], by simp, by simp⟩

theorem ne_nil_of_mem_entryLines {es : Entries} {l : List Char} (h : l ∈ entryLines es) : l ≠ [] := by
  obtain ⟨e, -, rfl⟩ := List.mem_map.mp h
  simp [entryLine]

theorem Section.ne_nil_of_mem_lines {s : Section} {l : List Char} (h : l ∈ s.lines) : l ≠ [] := by
  rcases List.mem_cons.mp h with rfl | h
  · exact List.cons_ne_nil _ _
  · exact ne_nil_of_mem_entryLines h

/-! ### Entries -/

theorem Named.put_new {name : List Char} {ts : Named} (h : name ∉ ts.map (·.1)) (v : Value) :
    ts.put name v = ts ++ [(name, v)] := by
  induction ts with
  | nil => rfl
  | cons t ts ih =>
    rw [List.map_cons, List.mem_cons, not_or] at h
    have hne : (t.1 == name) = false := beq_eq_false_iff_ne.mpr (Ne.symm h.1)
    rw [Named.put, hne, if_neg (by decide), ih h.2]
    rfl

theorem foldl_put {ts next : Named} (h : ((next ++ ts).map (·.1)).Nodup) :
    ts.foldl (fun ts t => Named.put t.1 t.2 ts) next = next ++ ts := by
  induction ts generalizing next with
  | nil => simp
  | cons t ts ih =>
    have hnew : t.1 ∉ next.map (·.1) := by
      rw [List.map_append, List.nodup_append] at h
      exact fun hmem => h.2.2 _ hmem t.1 (by simp) rfl
    rw [List.foldl_cons, Named.put_new hnew, ih (by simpa using h), List.append_assoc]
    rfl

def namedTables (es : Entries) : Named := (es.filter fun e => isTable e.2).map fun e => (e.1.toList, e.2)

theorem writeKey_of_isBare {k : String} (h : isBare k.toList = true) : writeKey k = .ok k.toList := by
  rw [writeKey, isBareKey, h, Bool.true_or, if_pos rfl]

theorem dump_eq {es : Entries} (h : keepsEntries es = true) {fuel : Nat} (hfuel : es.length < fuel) (name : List Char)
    {d : Dump} (hnew : ((d.tables ++ namedTables es).map (·.1)).Nodup) :
    dump fuel name d es = .ok ⟨d.plain ++ joined (entryLines es), d.lists, d.tables ++ namedTables es⟩ := by
  -- `d` is what has been written of the table; its tables are put aside for the next level.
  induction es generalizing fuel d with
  | nil =>
    obtain ⟨fuel, rfl⟩ : ∃ n, fuel = n + 1 := ⟨fuel - 1, by simp at hfuel; omega⟩
    simp [dump, entryLines, plainEntries, joined, namedTables]
  | cons e es ih =>
    obtain ⟨k, v⟩ := e
    obtain ⟨hbare, -, hv, hes⟩ := keepsEntries_cons.mp h
    obtain ⟨fuel, rfl⟩ : ∃ n, fuel = n + 1 := ⟨fuel - 1, by omega⟩
    have hfuel' : es.length < fuel := by
      rw [List.length_cons] at hfuel
      omega
    rw [dump, writeKey_of_isBare hbare]
    cases htable : isTable v with
    | true =>
      have hnamed : namedTables ((k, v) :: es) = (k.toList, v) :: namedTables es := by
        simp [namedTables, htable]
      have hlines : entryLines ((k, v) :: es) = entryLines es := by
        simp [entryLines, plainEntries, htable]
      have hfresh : k.toList ∉ d.tables.map (·.1) := by
        rw [hnamed, List.map_append, List.nodup_append] at hnew
        exact fun hmem => hnew.2.2 _ hmem k.toList (by simp) rfl
      have hrest : (((d.tables ++ [(k.toList, v)]) ++ namedTables es).map (·.1)).Nodup := by
        rw [hnamed] at hnew
        simpa using hnew
      have hdump := ih hes hfuel' (d := { d with tables := d.tables ++ [(k.toList, v)] }) hrest
      simp only [bind, Except.bind, if_true, Named.put_new hfresh, hdump, hlines, hnamed, List.append_assoc,
        List.singleton_append]
    | false =>
      have hwritten := writtenAs_textOf hv htable
      have hnamed : namedTables ((k, v) :: es) = namedTables es := by
        simp [namedTables, htable]
      have hlines : entryLines ((k, v) :: es) = entryLine k.toList (textOf v) :: entryLines es := by
        simp [entryLines, plainEntries, htable]
      rw [hnamed] at hnew
      have hdump := ih hes hfuel' (d := { d with plain := d.plain ++ (entryLine k.toList (textOf v) ++ ['\n']) }) hnew
      simp only [bind, Except.bind, hwritten.notTables, hwritten.written, hlines, hnamed, Bool.false_eq_true, if_false,
        joined, List.flatMap_cons]
      refine hdump.trans ?_
      simp only [joined, List.append_assoc]

theorem length_le_weight (es : Entries) : es.length < weight (.table es) := by
  have hle : es.length ≤ weightEntries es := by
    induction es with
    | nil => exact Nat.le_refl 0
    | cons e es ih =>
      have := weight_pos e.2
      rw [weightEntries, List.length_cons]
      omega
  rw [weight]
  omega

theorem nodup_namedTables {es : Entries} (h : keepsEntries es = true) : ((namedTables es).map (·.1)).Nodup := by
  have hkeys := (keepsEntries_iff.mp h).2
  rw [namedTables, List.map_map]
  rw [List.Nodup, List.pairwise_map] at hkeys ⊢
  exact (hkeys.sublist List.filter_sublist).imp fun hne heq => hne (String.toList_inj.mp heq)

theorem dumpTable_eq {es : Entries} (h : keepsEntries es = true) (name : List Char) :
    dumpTable name es = .ok ⟨joined (entryLines es), [], namedTables es⟩ := by
  have hfuel : es.length < 2 * weight (.table es) + 2 := by
    have := length_le_weight es
    omega
  exact dump_eq h hfuel name (d := {}) (nodup_namedTables h)

/-! ### Names of tables -/

theorem nameOf_ne_nil {path : List String} (hpath : path ≠ []) (hbare : ∀ k ∈ path, isBare k.toList = true) :
    nameOf path ≠ [] := by
  obtain ⟨k, ks, rfl⟩ := List.exists_cons_of_ne_nil hpath
  have hk : k.toList ≠ [] := ne_nil_of_isBare (hbare k List.mem_cons_self)
  rw [nameOf, List.map_cons]
  cases ks with
  | nil => exact hk
  | cons k' ks =>
    rw [List.map_cons, Text.joinWith_cons (List.cons_ne_nil _ _)]
    simp [hk]

theorem dotted_nameOf {path : List String} (hbare : ∀ k ∈ path, isBare k.toList = true) (key : String) :
    dotted (nameOf path) key.toList = nameOf (path ++ [key]) := by
  by_cases hpath : path = []
  · subst hpath
    rfl
  · have hne : (nameOf path).isEmpty = false := by simpa using nameOf_ne_nil hpath hbare
    rw [dotted, hne, if_neg (by decide), nameOf, nameOf, List.map_append, List.map_singleton,
      Text.joinWith_concat (by simpa using hpath)]
    simp

theorem nameOf_inj {path path' : List String} (hbare : ∀ k ∈ path, isBare k.toList = true)
    (hbare' : ∀ k ∈ path', isBare k.toList = true) (hne : path ≠ []) (hne' : path' ≠ [])
    (h : nameOf path = nameOf path') : path = path' := by
  have hsplit {p : List String} (hp : ∀ k ∈ p, isBare k.toList = true) (hne : p ≠ []) :
      Text.splitAtEach '.' (nameOf p) = p.map String.toList := by
    refine Text.splitAtEach_joinWith (by simpa using hne) fun cs hcs => ?_
    obtain ⟨k, hk, rfl⟩ := List.mem_map.mp hcs
    exact notMem_of_isBare (hp k hk) (by decide)
  have hlists : path.map String.toList = path'.map String.toList := by
    rw [← hsplit hbare hne, ← hsplit hbare' hne', h]
  exact List.map_injective_iff.mpr (fun _ _ heq => String.toList_inj.mp heq) hlists

/-- Sections as the writer passes them on. -/
def named (ss : List Section) : Named := ss.map fun s => (nameOf s.path, .table s.entries)

theorem nodup_named {es : Entries} {ss : List Section} (h : ∀ s ∈ ss, s.Within es) (hne : ∀ s ∈ ss, s.path ≠ [])
    (hdistinct : ss.Pairwise fun a b => a.path ≠ b.path) : ((named ss).map (·.1)).Nodup := by
  rw [named, List.map_map, List.Nodup, List.pairwise_map]
  rw [List.pairwise_iff_forall_sublist] at hdistinct ⊢
  intro a b hab heq
  have ha : a ∈ ss := hab.subset (by simp)
  have hb : b ∈ ss := hab.subset (by simp)
  exact hdistinct hab (nameOf_inj (h a ha).bare (h b hb).bare (hne a ha) (hne b hb) heq)

theorem named_subtables {es : Entries} {s : Section} (h : s.Within es) :
    (namedTables s.entries).map (fun t => (dotted (nameOf s.path) t.1, t.2)) = named s.subtables := by
  rw [namedTables, named, Section.subtables, List.map_map, List.map_map]
  refine List.map_congr_left fun e he => ?_
  obtain ⟨k, v⟩ := e
  obtain ⟨es', rfl⟩ := exists_table_of_isTable (List.mem_filter.mp he).2
  simp [dotted_nameOf h.bare, tableEntries]

/-! ### Tables -/

theorem isEmpty_entryLines (es : Entries) : (joined (entryLines es)).isEmpty = (plainEntries es).isEmpty := by
  rw [joined, entryLines]
  cases plainEntries es with
  | nil => rfl
  | cons e es => simp

theorem isEmpty_namedTables (s : Section) : (namedTables s.entries).isEmpty = s.subtables.isEmpty := by
  rw [namedTables, Section.subtables, List.isEmpty_map, List.isEmpty_map]

theorem foldl_put_subtables {es : Entries} {s : Section} (hs : s.Within es) {next : List Section}
    (hfresh : ((named (next ++ s.subtables)).map (·.1)).Nodup) :
    (namedTables s.entries).foldl (fun ts t => ts.put (dotted (nameOf s.path) t.1) t.2) (named next) =
      named (next ++ s.subtables) := by
  have hnamed : named (next ++ s.subtables) = named next ++ named s.subtables := List.map_append
  rw [hnamed] at hfresh ⊢
  rw [← foldl_put hfresh, ← named_subtables hs, List.foldl_map]

/-- A table is added under its header, unless it has nothing but tables in it. -/
theorem addTable_eq {es : Entries} {s : Section} (hs : s.Within es) {next : List Section}
    (hfresh : ((named (next ++ s.subtables)).map (·.1)).Nodup) {text : List Char} {ls : List (List Char)}
    (hlines : HasLines text ls) :
    ∃ text', addTable (text, named next) (nameOf s.path, .table s.entries) = .ok (text', named (next ++ s.subtables)) ∧
      HasLines text' (ls ++ ([s].filter Section.hasHeader).flatMap Section.lines) := by
  have hput := foldl_put_subtables hs hfresh
  rw [addTable, tableEntries, dumpTable_eq hs.kept]
  simp only [bind, Except.bind, Dump.body, List.append_nil, isEmpty_entryLines, isEmpty_namedTables]
  cases hheader : s.hasHeader with
  | true =>
    have hcond : ((plainEntries s.entries).isEmpty && !s.subtables.isEmpty) = false := by
      rw [Section.hasHeader] at hheader
      revert hheader
      cases (plainEntries s.entries).isEmpty <;> cases s.subtables.isEmpty <;> simp
    refine ⟨withGap text ++ joined s.lines, ?_, ?_⟩
    · rw [hcond, if_neg (by decide), hput]
      simp [Section.lines, joined, headerLine, pure, Except.pure]
    · rw [List.filter_cons_of_pos hheader, List.filter_nil, List.flatMap_singleton]
      exact hlines.withGap.append fun l hl => Section.ne_nil_of_mem_lines hl
  | false =>
    have hcond : ((plainEntries s.entries).isEmpty && !s.subtables.isEmpty) = true := by
      rw [Section.hasHeader] at hheader
      revert hheader
      cases (plainEntries s.entries).isEmpty <;> cases s.subtables.isEmpty <;> simp
    refine ⟨text, ?_, ?_⟩
    · rw [hcond, if_pos rfl, hput]
      rfl
    · rw [List.filter_cons_of_neg (by simp [hheader])]
      simpa using hlines

theorem foldlM_addTable {es : Entries} {ss : List Section} (hss : ∀ s ∈ ss, s.Within es) {next : List Section}
    (hfresh : ((named (next ++ ss.flatMap Section.subtables)).map (·.1)).Nodup) {text : List Char}
    {ls : List (List Char)} (hlines : HasLines text ls) :
    ∃ text', (named ss).foldlM addTable (text, named next) =
        .ok (text', named (next ++ ss.flatMap Section.subtables)) ∧
      HasLines text' (ls ++ (ss.filter Section.hasHeader).flatMap Section.lines) := by
  induction ss generalizing next text ls with
  | nil => exact ⟨text, by simp [named, pure, Except.pure], by simpa using hlines⟩
  | cons s ss ih =>
    rw [List.flatMap_cons, ← List.append_assoc] at hfresh
    have hfirst : ((named (next ++ s.subtables)).map (·.1)).Nodup := by
      have hsplit : named (next ++ s.subtables ++ ss.flatMap Section.subtables) =
          named (next ++ s.subtables) ++ named (ss.flatMap Section.subtables) := List.map_append
      rw [hsplit, List.map_append] at hfresh
      exact (List.nodup_append.mp hfresh).1
    obtain ⟨text₁, hadd, hlines₁⟩ := addTable_eq (hss s List.mem_cons_self) hfirst hlines
    obtain ⟨text₂, hfold, hlines₂⟩ := ih (fun t ht => hss t (List.mem_cons_of_mem s ht)) hfresh hlines₁
    refine ⟨text₂, ?_, ?_⟩
    · have hcons : named (s :: ss) = (nameOf s.path, .table s.entries) :: named ss := rfl
      rw [hcons, List.foldlM_cons, hadd, List.flatMap_cons, ← List.append_assoc]
      exact hfold
    · have hfilter : (s :: ss).filter Section.hasHeader = [s].filter Section.hasHeader ++ ss.filter Section.hasHeader := by
        rw [← List.filter_append, List.singleton_append]
      rw [hfilter, List.flatMap_append, ← List.append_assoc]
      exact hlines₂

theorem addLevels_succ (fuel : Nat) (text : List Char) (ts : Named) :
    addLevels (fuel + 1) text ts = (ts.foldlM addTable (text, []) >>= fun r => addLevels fuel r.1 r.2) := by
  cases ts with
  | nil => cases fuel <;> rfl
  | cons t ts => rfl

theorem addLevels_eq {es : Entries} (fuel : Nat) {ss : List Section} (hss : ∀ s ∈ ss, s.Within es)
    (hne : ∀ s ∈ ss, s.path ≠ []) (hdistinct : ss.Pairwise fun a b => a.path ≠ b.path) {text : List Char}
    {ls : List (List Char)} (hlines : HasLines text ls) :
    ∃ text', addLevels fuel text (named ss) = .ok text' ∧
      HasLines text' (ls ++ ((levels fuel ss).filter Section.hasHeader).flatMap Section.lines) := by
  induction fuel generalizing ss text ls with
  | zero => exact ⟨text, rfl, by simpa [levels] using hlines⟩
  | succ fuel ih =>
    have hwithin := within_nextLevel hss
    have hbelow : ∀ t ∈ ss.flatMap Section.subtables, t.path ≠ [] := by
      intro t ht
      obtain ⟨a, -, hta⟩ := List.mem_flatMap.mp ht
      obtain ⟨k, _, -, rfl⟩ := Section.mem_subtables.mp hta
      simp
    have hnext := pairwise_nextLevel hss hdistinct
    have hfresh : ((named ([] ++ ss.flatMap Section.subtables)).map (·.1)).Nodup := nodup_named hwithin hbelow hnext
    obtain ⟨text₁, hfold, hlines₁⟩ := foldlM_addTable hss hfresh hlines
    obtain ⟨text₂, hlevels, hlines₂⟩ := ih hwithin hbelow hnext hlines₁
    refine ⟨text₂, ?_, ?_⟩
    · have hempty : named [] = [] := rfl
      rw [addLevels_succ, ← hempty, hfold]
      exact hlevels
    · rw [levels, List.filter_append, List.flatMap_append, ← List.append_assoc]
      exact hlines₂

/-- Kept settings are written, section by section. -/
theorem write_eq {es : Entries} (h : keepsEntries es = true) :
    ∃ text, write es = .ok text ∧ HasLines text.toList (entryLines es ++ (sections es).flatMap Section.lines) := by
  have htop : (Section.top es).Within es := ⟨rfl, fun _ hk => absurd hk List.not_mem_nil, h⟩
  have hbelow : ∀ s ∈ (Section.top es).subtables, s.path ≠ [] := by
    intro s hs
    obtain ⟨k, _, -, rfl⟩ := Section.mem_subtables.mp hs
    simp
  have hbody : HasLines (joined (entryLines es)) (entryLines es) :=
    hasLines_nil.append fun l hl => ne_nil_of_mem_entryLines hl
  have hnamed : namedTables es = named (Section.top es).subtables := by
    rw [← named_subtables htop]
    exact (List.map_id _).symm
  obtain ⟨text, hlevels, hlines⟩ :=
    addLevels_eq (weight (.table es) + 1) (fun s hs => htop.subtable hs) hbelow (pairwise_subtables htop) hbody
  refine ⟨String.ofList text, ?_, by rwa [String.toList_ofList]⟩
  rw [write, dumpTable_eq h]
  simp only [bind, Except.bind, Dump.body, List.append_nil, hnamed, hlevels]
  rfl

end ChangeGraph.Toml
