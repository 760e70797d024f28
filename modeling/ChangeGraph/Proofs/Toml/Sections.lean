import ChangeGraph.Proofs.Toml.Lines
import ChangeGraph.Proofs.Toml.Lists

/-!
# Settings as sections

Kept settings are made of plain values that are read as they were written and of tables of such settings, all under bare
keys. They are written as sections, one for each table, level by level: every table has a section of its own or one of a
table within it, and no section comes after one of a table within it.
-/

namespace ChangeGraph.Toml

open Value

/-! ### Kept settings -/

mutual

def keeps : Value → Bool
  | .bool _ => true
  | .int n => (toString n.natAbs).length ≤ Text.digitLimit
  | .float x => readsBack (.float x)
  | .moment m => readsBack (.moment m)
  | .text s => decide (KeptText s)
  | .list vs => alike vs && keepsElements vs
  | .table es => keepsEntries es
  | _ => false

/-- Entries under bare keys, none of them twice, with values that are kept. -/
def keepsEntries : List (String × Value) → Bool
  | [] => true
  | (k, v) :: es => isBare k.toList && !(es.map (·.1)).contains k && keeps v && keepsEntries es

end

theorem keepsEntries_cons {k : String} {v : Value} {es : Entries} : keepsEntries ((k, v) :: es) = true ↔
    isBare k.toList = true ∧ k ∉ es.map (·.1) ∧ keeps v = true ∧ keepsEntries es = true := by
  rw [keepsEntries]
  simp [and_assoc]

theorem keepsEntries_iff {es : Entries} : keepsEntries es = true ↔
    (∀ e ∈ es, isBare e.1.toList = true ∧ keeps e.2 = true) ∧ (es.map (·.1)).Nodup := by
  induction es with
  | nil => simp [keepsEntries]
  | cons e es ih =>
    obtain ⟨k, v⟩ := e
    rw [keepsEntries_cons, ih, List.map_cons, List.nodup_cons, List.forall_mem_cons]
    tauto

theorem exists_table_of_isTable {v : Value} (h : isTable v = true) : ∃ es, v = .table es := by
  cases v with
  | table es => exact ⟨es, rfl⟩
  | _ => cases h

def textOf (v : Value) : List Char := (writeValue v).toOption.getD []

theorem writtenAs_textOf {v : Value} (h : keeps v = true) (hplain : isTable v = false) : WrittenAs v (textOf v) := by
  have hexists : ∃ cs, WrittenAs v cs := by
    cases v with
    | bool b => exact ⟨_, writtenAs_bool b⟩
    | int n => exact ⟨_, writtenAs_int (of_decide_eq_true h)⟩
    | float x => exact (exists_writtenAs_of_readsBack (v := .float x) h).imp fun _ hcs => hcs.1
    | moment m => exact (exists_writtenAs_of_readsBack (v := .moment m) h).imp fun _ hcs => hcs.1
    | text s => exact ⟨_, writtenAs_text (of_decide_eq_true h)⟩
    | list vs =>
      rw [keeps, Bool.and_eq_true] at h
      obtain ⟨css, hcss⟩ := exists_forall₂_elementAs h.2
      exact ⟨_, writtenAs_list hcss h.1⟩
    | table es => cases hplain
    | _ => cases h
  obtain ⟨cs, hcs⟩ := hexists
  have htext : textOf v = cs := by rw [textOf, hcs.written]; rfl
  rwa [htext]

theorem get?_eq_some_iff {es : Entries} (h : keepsEntries es = true) {k : String} {v : Value} :
    Entries.get? es k = some v ↔ (k, v) ∈ es := by
  induction es with
  | nil => simp [Entries.get?]
  | cons e es ih =>
    obtain ⟨k', w⟩ := e
    obtain ⟨-, hnew, -, hes⟩ := keepsEntries_cons.mp h
    rw [Entries.get?_cons, List.mem_cons]
    by_cases hk : k = k'
    · subst hk
      have hnot : (k, v) ∉ es := fun hmem => hnew (List.mem_map_of_mem (f := (·.1)) hmem)
      simp [hnot, eq_comm]
    · simp [hk, ih hes]

/-! ### Sections -/

/-- A table and the way to it. -/
structure Section where
  path : List String
  entries : Entries

def plainEntries (es : Entries) : Entries := es.filter fun e => !isTable e.2

namespace Section

def subtables (s : Section) : List Section :=
  (s.entries.filter fun e => isTable e.2).map fun e => ⟨s.path ++ [e.1], tableEntries e.2⟩

/-- Whether a table is written under a header of its own. -/
def hasHeader (s : Section) : Bool := !(plainEntries s.entries).isEmpty || s.subtables.isEmpty

/-- The table is the one that the settings have at its path. -/
structure Within (es : Entries) (s : Section) : Prop where
  found : at? s.path (.table es) = some (.table s.entries)
  bare : ∀ k ∈ s.path, isBare k.toList = true
  kept : keepsEntries s.entries = true

theorem mem_subtables {s t : Section} :
    t ∈ s.subtables ↔ ∃ k es, (k, .table es) ∈ s.entries ∧ t = ⟨s.path ++ [k], es⟩ := by
  rw [subtables, List.mem_map]
  constructor
  · rintro ⟨⟨k, v⟩, hmem, rfl⟩
    obtain ⟨hmem, htable⟩ := List.mem_filter.mp hmem
    obtain ⟨es, rfl⟩ := exists_table_of_isTable htable
    exact ⟨k, es, hmem, rfl⟩
  · rintro ⟨k, es, hmem, rfl⟩
    exact ⟨(k, .table es), List.mem_filter.mpr ⟨hmem, rfl⟩, rfl⟩

theorem Within.subtable {es : Entries} {s t : Section} (h : s.Within es) (ht : t ∈ s.subtables) : t.Within es := by
  obtain ⟨k, es', hmem, rfl⟩ := mem_subtables.mp ht
  obtain ⟨hbare, hkept⟩ := (keepsEntries_iff.mp h.kept).1 _ hmem
  refine ⟨?_, ?_, hkept⟩
  · rw [at?_append, h.found, Option.bind_some, at?, (get?_eq_some_iff h.kept).mpr hmem]
    rfl
  · intro k' hk'
    rcases List.mem_append.mp hk' with hk' | hk'
    · exact h.bare k' hk'
    · rw [List.mem_singleton.mp hk']
      exact hbare

end Section

/-- Tables, the tables within them, and so on, `n` levels deep. -/
def levels : Nat → List Section → List Section
  | 0, _ => []
  | n + 1, ss => ss ++ levels n (ss.flatMap Section.subtables)

theorem within_nextLevel {es : Entries} {ss : List Section} (h : ∀ s ∈ ss, s.Within es) :
    ∀ t ∈ ss.flatMap Section.subtables, t.Within es := by
  intro t ht
  obtain ⟨s, hs, hts⟩ := List.mem_flatMap.mp ht
  exact (h s hs).subtable hts

theorem within_of_mem_levels {es : Entries} {n : Nat} {ss : List Section} (h : ∀ s ∈ ss, s.Within es) :
    ∀ s ∈ levels n ss, s.Within es := by
  induction n generalizing ss with
  | zero => exact fun _ hs => absurd hs List.not_mem_nil
  | succ n ih =>
    intro s hs
    rcases List.mem_append.mp hs with hs | hs
    · exact h s hs
    · exact ih (within_nextLevel h) s hs

/-! ### The order of sections -/

theorem pairwise_subtables {es : Entries} {s : Section} (h : s.Within es) :
    s.subtables.Pairwise fun a b => a.path ≠ b.path := by
  have hkeys : (s.entries.filter fun e => isTable e.2).Pairwise fun a b => a.1 ≠ b.1 := by
    have hnodup := (keepsEntries_iff.mp h.kept).2
    rw [List.Nodup, List.pairwise_map] at hnodup
    exact hnodup.sublist List.filter_sublist
  rw [Section.subtables, List.pairwise_map]
  exact hkeys.imp fun hne heq => hne (by simpa using heq)

theorem pairwise_nextLevel {es : Entries} {ss : List Section} (h : ∀ s ∈ ss, s.Within es)
    (hdistinct : ss.Pairwise fun a b => a.path ≠ b.path) :
    (ss.flatMap Section.subtables).Pairwise fun a b => a.path ≠ b.path := by
  rw [List.pairwise_flatMap]
  refine ⟨fun s hs => pairwise_subtables (h s hs), hdistinct.imp fun hne x hx y hy heq => ?_⟩
  obtain ⟨k, _, -, rfl⟩ := Section.mem_subtables.mp hx
  obtain ⟨k', _, -, rfl⟩ := Section.mem_subtables.mp hy
  exact hne (List.append_inj_left' heq rfl)

/-- No section comes after that of a table within it. -/
theorem pairwise_levels {es : Entries} {n depth : Nat} {ss : List Section} (h : ∀ s ∈ ss, s.Within es)
    (hdepth : ∀ s ∈ ss, s.path.length = depth) (hdistinct : ss.Pairwise fun a b => a.path ≠ b.path) :
    (levels n ss).Pairwise (fun a b => ¬ b.path <+: a.path) ∧ ∀ s ∈ levels n ss, depth ≤ s.path.length := by
  induction n generalizing depth ss with
  | zero => exact ⟨.nil, fun _ hs => absurd hs List.not_mem_nil⟩
  | succ n ih =>
    have hnext : ∀ t ∈ ss.flatMap Section.subtables, t.path.length = depth + 1 := by
      intro t ht
      obtain ⟨a, ha, hta⟩ := List.mem_flatMap.mp ht
      obtain ⟨k, _, -, rfl⟩ := Section.mem_subtables.mp hta
      simp [hdepth a ha]
    obtain ⟨hpairs, hlong⟩ := ih (within_nextLevel h) hnext (pairwise_nextLevel h hdistinct)
    refine ⟨?_, fun s hs => ?_⟩
    · rw [levels, List.pairwise_append]
      refine ⟨?_, hpairs, fun a ha b hb hbelow => ?_⟩
      · rw [List.pairwise_iff_forall_sublist] at hdistinct ⊢
        intro a b hab hbelow
        have ha := hdepth a (hab.subset (by simp))
        have hb := hdepth b (hab.subset (by simp))
        exact hdistinct hab (hbelow.eq_of_length (hb.trans ha.symm)).symm
      · have hle := hbelow.length_le
        have ha := hdepth a ha
        have hb := hlong b hb
        omega
    · rcases List.mem_append.mp hs with hs | hs
      · exact (hdepth s hs).ge
      · have := hlong s hs
        omega

/-! ### Every table has a section -/

theorem weight_pos (v : Value) : 0 < weight v := by
  cases v <;> simp [weight]

theorem weight_lt_of_mem {es : Entries} {k : String} {v : Value} (h : (k, v) ∈ es) : weight v < weight (.table es) := by
  have hle : weight v ≤ weightEntries es := by
    induction es with
    | nil => cases h
    | cons e es ih =>
      rw [weightEntries]
      rcases List.mem_cons.mp h with rfl | h
      · simp
      · have := ih h
        omega
  rw [weight]
  omega

theorem mem_of_get? {es : Entries} {k : String} {v : Value} (h : Entries.get? es k = some v) : (k, v) ∈ es := by
  induction es with
  | nil => cases h
  | cons e es ih =>
    obtain ⟨k', w⟩ := e
    rw [Entries.get?_cons] at h
    split at h
    next heq =>
      cases h
      rw [heq]
      exact List.mem_cons_self
    next => exact List.mem_cons_of_mem _ (ih h)

theorem length_lt_weight {path : List String} {v w : Value} (h : at? path v = some w) : path.length < weight v := by
  induction path generalizing v with
  | nil => exact weight_pos v
  | cons k ks ih =>
    cases v with
    | table es =>
      rw [at?] at h
      obtain ⟨child, hget, hchild⟩ := Option.bind_eq_some_iff.mp h
      have hlt := weight_lt_of_mem (mem_of_get? hget)
      have := ih hchild
      rw [List.length_cons]
      omega
    | _ => cases h

theorem mem_levels {n : Nat} {ss : List Section} {s : Section} (hs : s ∈ ss) {path : List String} {es : Entries}
    (hat : at? path (.table s.entries) = some (.table es)) (hn : path.length < n) :
    (⟨s.path ++ path, es⟩ : Section) ∈ levels n ss := by
  induction path generalizing n ss s with
  | nil =>
    cases hat
    obtain ⟨n, rfl⟩ : ∃ m, n = m + 1 := ⟨n - 1, by simp at hn; omega⟩
    rw [List.append_nil]
    exact List.mem_append_left _ hs
  | cons k ks ih =>
    obtain ⟨n, rfl⟩ : ∃ m, n = m + 1 := ⟨n - 1, by omega⟩
    rw [at?] at hat
    obtain ⟨child, hget, hchild⟩ := Option.bind_eq_some_iff.mp hat
    obtain ⟨es', rfl⟩ : ∃ es', child = .table es' := by
      cases ks with
      | nil =>
        cases hchild
        exact ⟨es, rfl⟩
      | cons k' ks =>
        cases child with
        | table es' => exact ⟨es', rfl⟩
        | _ => cases hchild
    have hsub : (⟨s.path ++ [k], es'⟩ : Section) ∈ ss.flatMap Section.subtables :=
      List.mem_flatMap.mpr ⟨s, hs, Section.mem_subtables.mpr ⟨k, es', mem_of_get? hget, rfl⟩⟩
    have hmem := ih hsub hchild (by simp at hn; omega)
    rw [List.append_assoc, List.singleton_append] at hmem
    exact List.mem_append_right _ hmem

def Section.top (es : Entries) : Section := ⟨[], es⟩

/-- The sections of settings, without that of the settings themselves. -/
def sections (es : Entries) : List Section :=
  (levels (weight (.table es) + 1) (Section.top es).subtables).filter Section.hasHeader

theorem mem_sections {es : Entries} {path : List String} (hpath : path ≠ []) {es' : Entries}
    (hat : at? path (.table es) = some (.table es')) (hheader : Section.hasHeader ⟨path, es'⟩ = true) :
    (⟨path, es'⟩ : Section) ∈ sections es := by
  have htop : Section.top es ∈ [Section.top es] := List.mem_singleton.mpr rfl
  have hmem := mem_levels htop hat (n := weight (.table es) + 2) (by have := length_lt_weight hat; omega)
  rw [levels, List.mem_append, List.mem_singleton] at hmem
  rcases hmem with heq | hmem
  · exact absurd (congrArg Section.path heq) hpath
  · rw [List.flatMap_singleton] at hmem
    exact List.mem_filter.mpr ⟨hmem, hheader⟩

/-- A table without a section of its own has one of a table within it. -/
theorem exists_section_below {es : Entries} {path : List String} (hpath : path ≠ []) {es' : Entries}
    (hat : at? path (.table es) = some (.table es')) (hkept : keepsEntries es' = true) :
    ∃ s ∈ sections es, path <+: s.path := by
  generalize hw : weight (.table es') = w
  induction w using Nat.strong_induction_on generalizing path es' with
  | _ w ih =>
    by_cases hheader : Section.hasHeader ⟨path, es'⟩ = true
    · exact ⟨_, mem_sections hpath hat hheader, List.prefix_refl path⟩
    · rw [Section.hasHeader, Bool.not_eq_true, Bool.or_eq_false_iff] at hheader
      obtain ⟨t, ht⟩ := List.exists_mem_of_ne_nil _ (by simpa using hheader.2)
      obtain ⟨k, es'', hmem, rfl⟩ := Section.mem_subtables.mp ht
      have hat' : at? (path ++ [k]) (.table es) = some (.table es'') := by
        rw [at?_append, hat, Option.bind_some, at?, (get?_eq_some_iff hkept).mpr hmem]
        rfl
      have hlt : weight (.table es'') < w := hw ▸ weight_lt_of_mem hmem
      obtain ⟨s, hs, hbelow⟩ := ih _ hlt (by simp) hat' ((keepsEntries_iff.mp hkept).1 _ hmem).2 rfl
      exact ⟨s, hs, (List.prefix_append path [k]).trans hbelow⟩

end ChangeGraph.Toml
