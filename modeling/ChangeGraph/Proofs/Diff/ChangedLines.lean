import ChangeGraph.Diff.ChangedFile
import ChangeGraph.Proofs.LineRange.Cover

/-!
# The changed lines of each file

The ranges under a path cover the lines of all hunks of the diffs with that path, whatever their number and order.
-/

namespace ChangeGraph

open LineRange

theorem Hunk.mem_range?_iff {h : Hunk} {line : Int} :
    (∃ r, h.range? = some r ∧ line ∈ r) ↔ (h.start : Int) ≤ line ∧ line < h.start + h.count := by
  unfold Hunk.range?
  split
  · next none =>
    constructor
    · rintro ⟨r, hr, -⟩
      cases hr
    · rintro ⟨h₁, h₂⟩
      omega
  · simp only [Option.some.injEq, exists_eq_left', mem_def]
    omega

theorem FileDiff.covers_ranges {d : FileDiff} {line : Int} :
    Covers d.ranges line ↔ ∃ h ∈ d.hunks, (h.start : Int) ≤ line ∧ line < h.start + h.count := by
  rw [FileDiff.ranges, covers_merge, covers_filterMap]
  simp only [Hunk.mem_range?_iff]

/-! ### Diffs from outside -/

theorem Hunk.ofValue_toValue (h : Hunk) : Hunk.ofValue h.toValue = .ok h := by
  have hstart : (1 : Int) ≤ h.start := by exact_mod_cast h.positive
  have hcount : (0 : Int) ≤ h.count := Int.natCast_nonneg h.count
  have hof : Hunk.of h.start h.count = .ok h := by
    rw [Hunk.of, dif_pos hstart, if_pos hcount]
    rfl
  exact hof

/-- A diff that was written out for outside is valid as it is. -/
theorem FileDiff.valid_raw (d : FileDiff) : d.raw.valid = d := by
  have hsome : (fun v => (Hunk.ofValue v).toOption) ∘ Hunk.toValue = some := by
    funext h
    rw [Function.comp_apply, Hunk.ofValue_toValue]
    rfl
  rw [FileDiff.raw, RawDiff.valid, List.filterMap_map, hsome, List.filterMap_some]
  rfl

theorem FileDiff.map_valid_raw (ds : List FileDiff) : (ds.map FileDiff.raw).map RawDiff.valid = ds := by
  rw [List.map_map]
  exact List.map_id'' FileDiff.valid_raw ds

/-- Whether `p` is left of a path when one `a/` or `b/` is taken off its front, if there is one. -/
def FileDiff.Names (path p : String) : Prop :=
  path = "a/" ++ p ∨ path = "b/" ++ p ∨ path = p ∧ ¬"a/".toList <+: path.toList ∧ ¬"b/".toList <+: path.toList

instance (path p : String) : Decidable (FileDiff.Names path p) := inferInstanceAs (Decidable (_ ∨ _ ∨ _))

theorem FileDiff.plainPath_eq_iff {path p : String} : FileDiff.plainPath path = p ↔ FileDiff.Names path p := by
  have ha : path = "a/" ++ p ↔ path.toList = 'a' :: '/' :: p.toList := by
    rw [← String.toList_inj, String.toList_append]
    rfl
  have hb : path = "b/" ++ p ↔ path.toList = 'b' :: '/' :: p.toList := by
    rw [← String.toList_inj, String.toList_append]
    rfl
  have hof (rest : List Char) : String.ofList rest = p ↔ rest = p.toList := by
    rw [← String.toList_inj, String.toList_ofList]
  unfold FileDiff.Names FileDiff.plainPath
  rw [ha, hb]
  split
  · next rest hl => simp [hl, hof]
  · next rest hl => simp [hl, hof]
  · next hna hnb =>
    have not_a : ¬"a/".toList <+: path.toList := by
      rintro ⟨rest, h⟩
      exact hna rest h.symm
    have not_b : ¬"b/".toList <+: path.toList := by
      rintro ⟨rest, h⟩
      exact hnb rest h.symm
    have ne_a : path.toList ≠ 'a' :: '/' :: p.toList := hna _
    have ne_b : path.toList ≠ 'b' :: '/' :: p.toList := hnb _
    simp only [ne_a, ne_b, not_a, not_b, not_false_eq_true, and_true, false_or]

namespace ChangedFile

/-- The ranges of the entry of a path, none if the path has no entry. -/
def rangesFor (fs : List ChangedFile) (path : String) : List LineRange :=
  ((fs.find? (·.path == path)).map (·.ranges)).getD []

theorem rangesFor_cons (f : ChangedFile) (fs : List ChangedFile) (path : String) :
    rangesFor (f :: fs) path = if f.path = path then f.ranges else rangesFor fs path := by
  by_cases h : f.path = path <;> simp [rangesFor, h]

theorem rangesFor_of_mem {fs : List ChangedFile} (paths : (fs.map (·.path)).Nodup) {f : ChangedFile}
    (hf : f ∈ fs) : rangesFor fs f.path = f.ranges := by
  induction fs with
  | nil => cases hf
  | cons g gs ih =>
    rw [List.map_cons, List.nodup_cons] at paths
    rw [rangesFor_cons]
    rcases List.mem_cons.mp hf with rfl | hf
    · rw [if_pos rfl]
    · have hne : g.path ≠ f.path := fun he => paths.1 (he ▸ List.mem_map_of_mem hf)
      rw [if_neg hne, ih paths.2 hf]

theorem rangesFor_add (path : String) (rs : List LineRange) (fs : List ChangedFile) (p : String) :
    rangesFor (add path rs fs) p = rangesFor fs p ++ if path = p then rs else [] := by
  induction fs with
  | nil =>
    rw [add, rangesFor_cons]
    simp [rangesFor]
  | cons f fs ih =>
    rw [add]
    split
    · next heq =>
      have heq : f.path = path := beq_iff_eq.mp heq
      by_cases hp : path = p <;> simp [rangesFor_cons, heq, hp]
    · next hne =>
      have hne : f.path ≠ path := fun h => hne (beq_iff_eq.mpr h)
      by_cases hp : f.path = p
      · have hpath : path ≠ p := fun h => hne (hp.trans h.symm)
        simp [rangesFor_cons, hp, hpath]
      · simp [rangesFor_cons, hp, ih]

/-- A diff without changed lines adds no entry, and one without a path none that has a path. -/
theorem rangesFor_addDiff (fs : List ChangedFile) (d : FileDiff) {p : String} (hp : p ≠ "") :
    rangesFor (addDiff fs d) p = rangesFor fs p ++ if FileDiff.plainPath d.path = p then d.ranges else [] := by
  simp only [addDiff]
  split
  · next skipped =>
    rcases Bool.or_eq_true_iff.mp skipped with h | h
    · have hpath : FileDiff.plainPath d.path ≠ p := fun he => hp (he.symm.trans (String.isEmpty_iff.mp h))
      rw [if_neg hpath, List.append_nil]
    · rw [List.isEmpty_iff.mp h, ite_self, List.append_nil]
  · exact rangesFor_add _ _ _ _

theorem rangesFor_foldl_addDiff (ds : List FileDiff) (fs : List ChangedFile) {p : String} (hp : p ≠ "") :
    rangesFor (ds.foldl addDiff fs) p =
      rangesFor fs p ++ ds.flatMap fun d => if FileDiff.plainPath d.path = p then d.ranges else [] := by
  induction ds generalizing fs with
  | nil => simp
  | cons d ds ih => rw [List.foldl_cons, ih, rangesFor_addDiff fs d hp, List.flatMap_cons, List.append_assoc]

theorem rangesFor_map_merge (fs : List ChangedFile) (p : String) :
    rangesFor (fs.map fun f => ⟨f.path, merge f.ranges⟩) p = merge (rangesFor fs p) := by
  induction fs with
  | nil => simp [rangesFor]
  | cons f fs ih =>
    rw [List.map_cons, rangesFor_cons, rangesFor_cons, ih]
    exact (apply_ite merge _ _ _).symm

theorem covers_rangesFor_ofDiffs {ds : List FileDiff} {p : String} (hp : p ≠ "") {line : Int} :
    Covers (rangesFor (ofDiffs ds) p) line ↔
      ∃ d ∈ ds, FileDiff.plainPath d.path = p ∧ Covers d.ranges line := by
  rw [ofDiffs, rangesFor_map_merge, covers_merge, rangesFor_foldl_addDiff ds [] hp]
  have hnil : rangesFor [] p = [] := rfl
  rw [hnil, List.nil_append, covers_flatMap]
  refine exists_congr fun d => and_congr_right fun _ => ?_
  by_cases hd : FileDiff.plainPath d.path = p <;> simp [hd]

/-! ### Paths -/

theorem paths_add (path : String) (rs : List LineRange) (fs : List ChangedFile) :
    (add path rs fs).map (·.path) =
      if path ∈ fs.map (·.path) then fs.map (·.path) else fs.map (·.path) ++ [path] := by
  induction fs with
  | nil => simp [add]
  | cons f fs ih =>
    rw [add]
    by_cases h : f.path = path
    · simp [h]
    · have hne : path ≠ f.path := fun he => h he.symm
      simp only [beq_iff_eq, h, if_false, List.map_cons, ih, List.mem_cons, hne, false_or]
      exact apply_ite (f.path :: ·) _ _ _

theorem nodup_paths_addDiff {fs : List ChangedFile} (h : (fs.map (·.path)).Nodup) (d : FileDiff) :
    ((addDiff fs d).map (·.path)).Nodup := by
  simp only [addDiff]
  split
  · exact h
  · rw [paths_add]
    split
    · exact h
    · next new =>
      rw [List.nodup_append]
      refine ⟨h, by simp, ?_⟩
      rintro p hp q hq rfl
      exact new (List.mem_singleton.mp hq ▸ hp)

/-- Each path has one entry. -/
theorem nodup_paths_ofDiffs (ds : List FileDiff) : ((ofDiffs ds).map (·.path)).Nodup := by
  have hfold : ∀ (ds : List FileDiff) (fs : List ChangedFile), (fs.map (·.path)).Nodup →
      ((ds.foldl addDiff fs).map (·.path)).Nodup := by
    intro ds
    induction ds with
    | nil => exact fun _ h => h
    | cons d ds ih => exact fun fs h => ih _ (nodup_paths_addDiff h d)
  rw [ofDiffs, List.map_map]
  exact hfold ds [] List.nodup_nil

end ChangedFile

end ChangeGraph
