import ChangeGraph.Proofs.FirstByKey
import ChangeGraph.Proofs.Outcome

/-!
# What is extracted from changed files

A changed file gives an extract or none, whatever files stand around it. Of the files with one path the first that
gives an extract is taken in, and the others add nothing.
-/

namespace ChangeGraph

section

variable {ε : Type} (parse : String → String → Except ε SourceFile) (contents : String → Option String) (budget : Int)

/-- A reader of sources that gives a file the path it was asked for. -/
def KeepsPath : Prop := ∀ source path file, parse source path = .ok file → file.path = path

theorem keepsPath_parse : KeepsPath SourceFile.parse := by
  intro source path file h
  unfold SourceFile.parse at h
  split at h
  · cases h
    rfl
  · cases h

/-- What is extracted from a changed file whose path was not met before. -/
def extractOf? (f : ChangedFile) : Option Extract :=
  if isParseable f.path then (contents f.path).bind fun source => (extractFile parse budget f source).toOption else none

variable {parse contents budget}

theorem KeepsPath.path_eq (keeps : KeepsPath parse) {f : ChangedFile} {x : Extract}
    (h : extractOf? parse contents budget f = some x) : x.file.path = f.path := by
  unfold extractOf? at h
  split at h
  · obtain ⟨source, -, hx⟩ := Option.bind_eq_some_iff.mp h
    obtain ⟨file, hfile, hx⟩ := bind_eq_ok_iff.mp (toOption_eq_some_iff.mp hx)
    obtain ⟨symbols, -, hx⟩ := bind_eq_ok_iff.mp hx
    cases hx
    exact keeps source f.path file (mapError_eq_ok_iff.mp hfile)
  · cases h

theorem extracts_add_new {x : Extraction ε} {f : ChangedFile} (new : f.path ∉ x.extracts.map (·.file.path)) :
    (x.add parse contents budget f).extracts = x.extracts ++ (extractOf? parse contents budget f).toList := by
  have hany : x.extracts.any (·.file.path == f.path) = false := by
    rw [Bool.eq_false_iff, ne_eq, List.any_eq_true]
    rintro ⟨e, he, hp⟩
    exact new (List.mem_map.mpr ⟨e, he, beq_iff_eq.mp hp⟩)
  unfold Extraction.add extractOf?
  rw [hany, Bool.false_or]
  by_cases hp : isParseable f.path = true
  · simp only [hp, Bool.not_true, Bool.false_eq_true, if_false, if_true]
    cases contents f.path with
    | none => exact (List.append_nil _).symm
    | some source =>
      simp only [Option.bind_some]
      cases extractFile parse budget f source with
      | ok e => rfl
      | error fault => exact (List.append_nil _).symm
  · simp only [hp, Bool.not_false, if_true, Bool.false_eq_true, if_false]
    exact (List.append_nil _).symm

theorem add_seen {x : Extraction ε} {f : ChangedFile} (seen : f.path ∈ x.extracts.map (·.file.path)) :
    x.add parse contents budget f = x := by
  obtain ⟨e, he, hp⟩ := List.mem_map.mp seen
  have hany : x.extracts.any (·.file.path == f.path) = true := List.any_eq_true.mpr ⟨e, he, beq_iff_eq.mpr hp⟩
  rw [Extraction.add, hany, Bool.true_or, if_pos rfl]

/-- Of the extracts with one path the first is taken in. -/
theorem KeepsPath.extracts_eq_firstByKey (keeps : KeepsPath parse) (fs : List ChangedFile) :
    (extract parse contents budget fs).extracts =
      firstByKey (·.file.path) [] (fs.filterMap (extractOf? parse contents budget)) := by
  -- the paths seen are those of the extracts so far
  suffices h : ∀ (x : Extraction ε) (seen : List String), (∀ p, p ∈ seen ↔ p ∈ x.extracts.map (·.file.path)) →
      (fs.foldl (Extraction.add parse contents budget) x).extracts =
        x.extracts ++ firstByKey (·.file.path) seen (fs.filterMap (extractOf? parse contents budget)) from
    h {} [] (fun _ => Iff.rfl)
  induction fs with
  | nil =>
    intro x seen _
    exact (List.append_nil _).symm
  | cons f fs ih =>
    intro x seen hseen
    rw [List.foldl_cons]
    by_cases hp : f.path ∈ x.extracts.map (·.file.path)
    · rw [add_seen hp, ih x seen hseen]
      cases hf : extractOf? parse contents budget f with
      | none => rw [List.filterMap_cons_none hf]
      | some e =>
        have he : e.file.path ∈ seen := by rw [hseen, keeps.path_eq hf]; exact hp
        rw [List.filterMap_cons_some hf, firstByKey_cons_seen (fun x : Extract => x.file.path) he]
    · have hadd : (x.add parse contents budget f).extracts = _ := extracts_add_new hp
      cases hf : extractOf? parse contents budget f with
      | none =>
        rw [hf, Option.toList_none, List.append_nil] at hadd
        rw [List.filterMap_cons_none hf, ih _ seen (by rw [hadd]; exact hseen), hadd]
      | some e =>
        rw [hf, Option.toList_some] at hadd
        have he : e.file.path ∉ seen := by rw [hseen, keeps.path_eq hf]; exact hp
        have hseen' : ∀ p, p ∈ e.file.path :: seen ↔
            p ∈ (x.add parse contents budget f).extracts.map (·.file.path) := by
          intro p
          rw [hadd, List.map_append, List.mem_append, List.mem_cons, hseen]
          simp [or_comm]
        rw [List.filterMap_cons_some hf, firstByKey_cons_new (fun x : Extract => x.file.path) he,
          ih _ _ hseen', hadd, List.append_assoc]
        rfl

theorem KeepsPath.nodup_paths (keeps : KeepsPath parse) {fs : List ChangedFile} (paths : (fs.map (·.path)).Nodup) :
    ((fs.filterMap (extractOf? parse contents budget)).map (·.file.path)).Nodup := by
  rw [List.Nodup, List.pairwise_map, List.pairwise_filterMap]
  refine (List.pairwise_map.mp paths).imp ?_
  intro f g hne x hx y hy
  rw [keeps.path_eq hx, keeps.path_eq hy]
  exact hne

/-- Files with different paths are extracted one by one. -/
theorem KeepsPath.extracts_eq (keeps : KeepsPath parse) {fs : List ChangedFile} (paths : (fs.map (·.path)).Nodup) :
    (extract parse contents budget fs).extracts = fs.filterMap (extractOf? parse contents budget) := by
  rw [keeps.extracts_eq_firstByKey]
  exact firstByKey_eq_self (fun _ _ => List.not_mem_nil) (keeps.nodup_paths paths)

end

end ChangeGraph
