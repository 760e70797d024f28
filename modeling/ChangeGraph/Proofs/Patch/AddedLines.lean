import ChangeGraph.Patch.Reader
import ChangeGraph.Proofs.Diff.ChangedLines
import ChangeGraph.Proofs.Outcome
import Mathlib.Data.List.TakeWhile

/-!
# From a patch to the changed lines

A range of lines of a file meets the ranges that a patch leaves for the file exactly if one of the lines that the patch
adds to the file is in it. The numbers of the added lines are told from the marks of a body alone, without its runs.
-/

namespace ChangeGraph.Patch

open LineRange

/-! ### The numbers of added lines -/

/-- Whether a line of a body is a line of the new text. -/
def Mark.isNew : Mark → Bool
  | .context => true
  | .added => true
  | .removed => false
  | .noLineEnd => false

/-- The lines of a body that are in the new text, numbered one after the other. -/
def Body.newLines (b : Body) : List (Mark × Nat) := (b.marks.filter Mark.isNew).zipIdx b.newStart

/-- The numbers of a run. -/
def runLines (run : Nat × Nat) : List Nat := List.range' run.1 run.2

def addedFrom (line : Nat) (ms : List Mark) : List Nat :=
  (((ms.filter Mark.isNew).zipIdx line).filter (·.1 = .added)).map (·.2)

theorem addedFrom_cons_added (line : Nat) (ms : List Mark) :
    addedFrom line (.added :: ms) = line :: addedFrom (line + 1) ms := rfl

theorem addedFrom_cons_context (line : Nat) (ms : List Mark) :
    addedFrom line (.context :: ms) = addedFrom (line + 1) ms := rfl

theorem addedFrom_cons_old (line : Nat) {m : Mark} (h : m.isNew = false) (ms : List Mark) :
    addedFrom line (m :: ms) = addedFrom line ms := by
  simp [addedFrom, h]

theorem runsFrom_cons_old (line : Nat) (run : Option (Nat × Nat)) {m : Mark} (h : m.isNew = false) (ms : List Mark) :
    runsFrom line run (m :: ms) = runsFrom line run ms := by
  cases m with
  | context => cases h
  | added => cases h
  | removed => rfl
  | noLineEnd => rfl

/-- The run so far ends right before the next new line, so that an added line makes it longer by that line. -/
theorem flatMap_runsFrom (ms : List Mark) (line : Nat) (run : Option (Nat × Nat))
    (ends : ∀ r ∈ run, r.1 + r.2 = line) :
    (runsFrom line run ms).flatMap runLines = run.toList.flatMap runLines ++ addedFrom line ms := by
  induction ms generalizing line run with
  | nil => simp [runsFrom, addedFrom]
  | cons m ms ih =>
    cases m with
    | added =>
      rw [addedFrom_cons_added]
      cases run with
      | none =>
        rw [runsFrom, ih]
        · simp [runLines]
        · simp
      | some r =>
        obtain ⟨first, n⟩ := r
        have hr : first + n = line := ends (first, n) rfl
        rw [runsFrom, ih]
        · simp [runLines, List.range'_1_concat, hr]
        · simp only [Option.mem_def, Option.some.injEq]
          rintro _ rfl
          omega
    | context =>
      rw [addedFrom_cons_context, runsFrom, List.flatMap_append, ih _ none (by simp)]
      simp
    | removed => rw [addedFrom_cons_old line rfl, runsFrom_cons_old line run rfl, ih line run ends]
    | noLineEnd => rw [addedFrom_cons_old line rfl, runsFrom_cons_old line run rfl, ih line run ends]

theorem Body.flatMap_runs (b : Body) : b.runs.flatMap runLines = addedFrom b.newStart b.marks := by
  rw [Body.runs, flatMap_runsFrom b.marks b.newStart none (by simp)]
  rfl

/-- The runs of a body hold the added lines and no others. -/
theorem Body.mem_runs_iff {b : Body} {n : Nat} :
    (∃ run ∈ b.runs, run.1 ≤ n ∧ n < run.1 + run.2) ↔ (Mark.added, n) ∈ b.newLines := by
  have h : n ∈ b.runs.flatMap runLines ↔ n ∈ addedFrom b.newStart b.marks := by rw [Body.flatMap_runs]
  simpa [runLines, List.mem_range'_1, addedFrom, Body.newLines] using h

/-! ### The diff of a section -/

theorem numbers_of_hunk {start count : Nat} {h : Hunk} (ok : Hunk.of start count = .ok h) :
    (h.start, h.count) = (start, count) := by
  unfold Hunk.of at ok
  split at ok
  · split at ok
    · cases ok
      simp
    · cases ok
  · cases ok

theorem numbers_of_hunks {runs : List (Nat × Nat)} {hs : List Hunk}
    (ok : (runs.mapM fun (start, count) => Hunk.of start count) = .ok hs) :
    hs.map (fun h => (h.start, h.count)) = runs := by
  have all := forall₂_of_mapM_eq_ok ok
  clear ok
  induction all with
  | nil => rfl
  | cons hh _ ih => rw [List.map_cons, ih, numbers_of_hunk hh]

theorem path_of_diff {x : Section} {d : FileDiff} (ok : x.diff = .ok d) : d.path = x.path := by
  obtain ⟨hs, -, hd⟩ := bind_eq_ok_iff.mp ok
  cases hd
  rfl

theorem runs_of_diff {x : Section} {d : FileDiff} (ok : x.diff = .ok d) :
    d.hunks.map (fun h => (h.start, h.count)) = x.bodies.flatMap Body.runs := by
  obtain ⟨hs, hok, hd⟩ := bind_eq_ok_iff.mp ok
  cases hd
  exact numbers_of_hunks hok

theorem covers_of_diff {x : Section} {d : FileDiff} (ok : x.diff = .ok d) {line : Int} :
    Covers d.ranges line ↔ ∃ b ∈ x.bodies, ∃ n : Nat, (Mark.added, n) ∈ b.newLines ∧ (n : Int) = line := by
  rw [FileDiff.covers_ranges]
  have runs := runs_of_diff ok
  constructor
  · rintro ⟨h, hh, hs, hc⟩
    have hrun : (h.start, h.count) ∈ x.bodies.flatMap Body.runs := runs ▸ List.mem_map_of_mem hh
    obtain ⟨b, hb, hrun⟩ := List.mem_flatMap.mp hrun
    have hn : (Mark.added, line.toNat) ∈ b.newLines :=
      Body.mem_runs_iff.mp ⟨(h.start, h.count), hrun, by omega, by omega⟩
    exact ⟨b, hb, line.toNat, hn, by omega⟩
  · rintro ⟨b, hb, n, hn, rfl⟩
    obtain ⟨run, hrun, hs, hc⟩ := Body.mem_runs_iff.mpr hn
    have hmem : run ∈ d.hunks.map fun h => (h.start, h.count) := runs ▸ List.mem_flatMap.mpr ⟨b, hb, hrun⟩
    obtain ⟨h, hh, rfl⟩ := List.mem_map.mp hmem
    exact ⟨h, hh, by omega, by omega⟩

/-! ### Blank patches

A blank patch gives no diffs before it is cut into sections. It has no sections either: none of its lines is more than
a line between sections. -/

theorem isBlank_of_trimBoth {cs : List Char} (h : Text.trimBoth Text.isBlank cs = []) :
    ∀ c ∈ cs, Text.isBlank c = true := by
  have hrev : ∀ c ∈ cs.dropWhile Text.isBlank, Text.isBlank c = true := by
    simpa [Text.trimBoth, List.dropWhile_eq_nil_iff] using h
  -- A character that stops the search for the first that is no blank would not be blank.
  have hnil : cs.dropWhile Text.isBlank = [] := by
    by_contra hne
    have hhead := List.head_dropWhile_not Text.isBlank hne
    rw [hrev _ (List.head_mem hne)] at hhead
    cases hhead
  exact List.dropWhile_eq_nil_iff.mp hnil

theorem ne_nil_of_mem_linesOf {cs l : List Char} (h : l ∈ linesOf cs) : l ≠ [] := by
  fun_induction linesOf cs with
  | case1 => cases h
  | case2 cs ih =>
    rcases List.mem_cons.mp h with rfl | h
    · exact List.cons_ne_nil _ _
    · exact ih h
  | case3 c cs _ hnil ih => grind
  | case4 c cs _ l' ls hcs hc ih => grind
  | case5 c cs _ l' ls hcs hc ih => grind

theorem flatten_linesOf (cs : List Char) : (linesOf cs).flatten = cs := by
  fun_induction linesOf cs with
  | case1 => rfl
  | case2 cs ih => rw [List.flatten_cons, ih, List.singleton_append]
  | case3 c cs _ hnil ih =>
    rw [hnil] at ih
    simp [← ih]
  | case4 c cs hc l ls hcs heq ih => exact absurd (beq_iff_eq.mp heq) hc
  | case5 c cs _ l ls hcs hc ih =>
    rw [hcs, List.flatten_cons] at ih
    rw [List.flatten_cons, List.cons_append, ih]

section Blank

variable {cs : List Char} (blank : ∀ c ∈ cs, Text.isBlank c = true)
include blank

theorem after?_eq_none (hne : cs ≠ []) {start : String} (hs : start.toList.head?.any (!Text.isBlank ·) = true) :
    after? start cs = none := by
  obtain ⟨c, rest, rfl⟩ := List.exists_cons_of_ne_nil hne
  have hc : Text.isBlank c = true := blank c List.mem_cons_self
  rw [after?]
  cases hl : start.toList with
  | nil => simp [hl] at hs
  | cons a as =>
    have hac : a ≠ c := by
      rintro rfl
      simp [hl, hc] at hs
    simp [rest?, hac]

theorem Line.of_blank (hne : cs ≠ []) : Line.of cs = .blank ∨ Line.of cs = .other := by
  have start {s : String} (hs : s.toList.head?.any (!Text.isBlank ·) = true) : after? s cs = none :=
    after?_eq_none blank hne hs
  have names : sectionNames? cs = none := by
    rw [sectionNames?, start (by decide)]
    rfl
  have header : header? cs = none := by
    rw [header?, start (by decide)]
    rfl
  have binary : binaryName? cs = none := by
    rw [binaryName?, start (by decide), start (by decide)]
    rfl
  have git : ¬(cs == "GIT binary patch\n".toList) = true := by
    intro h
    rw [beq_iff_eq.mp h] at blank
    exact absurd (blank 'G' (by decide)) (by decide)
  simp only [Line.of, names, header, binary]
  rw [start (by decide), start (by decide), start (by decide), start (by decide), start (by decide)]
  simp only [Option.map_none, Option.getD_none, Option.isSome_none, Bool.false_eq_true, if_false]
  rw [if_neg git]
  split
  · exact .inl rfl
  · exact .inr rfl

/-- A blank line leaves a reader without sections as it is, up to its flags. -/
theorem State.step_blank (hne : cs ≠ []) {s : State} (hsections : s.sections = []) (hhunk : s.hunk = none) :
    ∃ t, s.step cs = .ok t ∧ t.sections = [] ∧ t.hunk = none := by
  have hfresh : s.fresh.sections = [] ∧ s.fresh.hunk = none := by
    unfold State.fresh
    split <;> exact ⟨hsections, hhunk⟩
  have hcurrent : s.current? = none := by
    simp [State.current?, hsections]
  refine ⟨s.fresh, ?_, hfresh⟩
  simp only [State.step, hhunk, State.headerStep]
  rcases Line.of_blank blank hne with h | h
  · simp [h, hcurrent]
  · simp [h]

end Blank

theorem foldlM_step_blank {ls : List (List Char)} (hls : ∀ l ∈ ls, l ≠ [] ∧ ∀ c ∈ l, Text.isBlank c = true) {s : State}
    (hsections : s.sections = []) (hhunk : s.hunk = none) :
    ∃ t, ls.foldlM State.step s = .ok t ∧ t.sections = [] ∧ t.hunk = none := by
  induction ls generalizing s with
  | nil => exact ⟨s, rfl, hsections, hhunk⟩
  | cons l ls ih =>
    obtain ⟨hne, hl⟩ := hls l List.mem_cons_self
    obtain ⟨t, ht, hts, hth⟩ := State.step_blank hl hne hsections hhunk
    obtain ⟨u, hu, hus, huh⟩ := ih (fun l' h => hls l' (List.mem_cons_of_mem _ h)) hts hth
    refine ⟨u, ?_, hus, huh⟩
    rw [List.foldlM_cons, ht]
    exact hu

theorem sections_blank {text : String} (h : Text.trimBoth Text.isBlank text.toList = []) : sections text = .ok [] := by
  have hb := isBlank_of_trimBoth h
  have hls : ∀ l ∈ linesOf text.toList, l ≠ [] ∧ ∀ c ∈ l, Text.isBlank c = true := by
    intro l hl
    refine ⟨ne_nil_of_mem_linesOf hl, fun c hc => hb c ?_⟩
    rw [← flatten_linesOf text.toList]
    exact List.mem_flatten.mpr ⟨l, hl, hc⟩
  obtain ⟨t, ht, hts, hth⟩ := foldlM_step_blank hls (s := {}) rfl rfl
  rw [sections, ht]
  simp [bind, Except.bind, State.finish, hts, hth]

/-! ### The changed lines of a patch -/

/-- Whether a section is about the file `p`, by its new name or, if the file is gone, by its old one. -/
def Section.IsAbout (x : Section) (p : String) : Prop :=
  FileDiff.Names (if x.new = "/dev/null" then x.old else x.new) p

instance (x : Section) (p : String) : Decidable (x.IsAbout p) :=
  inferInstanceAs (Decidable (FileDiff.Names _ p))

/-- Whether a section adds a line of the range to the file `p`. -/
def Section.AddsTo (x : Section) (p : String) (r : LineRange) : Prop :=
  x.binary = false ∧ x.IsAbout p ∧ ∃ b ∈ x.bodies, ∃ l ∈ b.newLines, l.1 = .added ∧ (l.2 : Int) ∈ r

instance (x : Section) (p : String) (r : LineRange) : Decidable (x.AddsTo p r) :=
  inferInstanceAs (Decidable (_ ∧ _ ∧ _))

theorem plainPath_eq_iff_isAbout {x : Section} {p : String} : FileDiff.plainPath x.path = p ↔ x.IsAbout p := by
  simp only [FileDiff.plainPath_eq_iff, Section.IsAbout, Section.path, beq_iff_eq]

/-- A text that is read falls into sections, and the diffs are those of its sections without binary files. -/
theorem exists_sections_of_read {text : String} {ds : List FileDiff} (ok : read text = .ok ds) :
    ∃ xs, sections text = .ok xs ∧ List.Forall₂ (fun x d => x.diff = .ok d) (xs.filter (!·.binary)) ds := by
  unfold read at ok
  split at ok
  · next hb =>
    cases ok
    exact ⟨[], sections_blank (List.isEmpty_iff.mp hb), List.Forall₂.nil⟩
  · obtain ⟨xs, hxs, hds⟩ := bind_eq_ok_iff.mp ok
    refine ⟨xs, mapError_eq_ok_iff.mp hxs, ?_⟩
    exact (forall₂_of_mapM_eq_ok hds).imp fun x d h => mapError_eq_ok_iff.mp h

theorem covers_rangesFor_iff {xs : List Section} {ds : List FileDiff}
    (all : List.Forall₂ (fun x d => x.diff = .ok d) xs ds) {p : String} (hp : p ≠ "") {line : Int} :
    Covers (ChangedFile.rangesFor (ChangedFile.ofDiffs ds) p) line ↔
      ∃ x ∈ xs, x.IsAbout p ∧ ∃ b ∈ x.bodies, ∃ n : Nat, (Mark.added, n) ∈ b.newLines ∧ (n : Int) = line := by
  rw [ChangedFile.covers_rangesFor_ofDiffs hp]
  induction all with
  | nil => simp
  | cons hd _ ih =>
    simp only [List.exists_mem_cons_iff, ih, covers_of_diff hd, path_of_diff hd, plainPath_eq_iff_isAbout]

theorem changed_iff_line_added {text : String} {ds : List FileDiff} (ok : read text = .ok ds) {p : String}
    (hp : p ≠ "") (r : LineRange) :
    ∃ xs, sections text = .ok xs ∧
      (r.meetsAny (ChangedFile.rangesFor (ChangedFile.ofDiffs ds) p) = true ↔ ∃ x ∈ xs, x.AddsTo p r) := by
  obtain ⟨xs, hxs, all⟩ := exists_sections_of_read ok
  refine ⟨xs, hxs, ?_⟩
  simp only [meetsAny_iff, covers_rangesFor_iff all hp]
  constructor
  · rintro ⟨line, hr, x, hx, hp, b, hb, n, hn, rfl⟩
    obtain ⟨hx, hbin⟩ := List.mem_filter.mp hx
    exact ⟨x, hx, by simpa using hbin, hp, b, hb, (.added, n), hn, rfl, hr⟩
  · rintro ⟨x, hx, hbin, hp, b, hb, ⟨m, n⟩, hn, rfl, hr⟩
    have hx : x ∈ xs.filter (!·.binary) := List.mem_filter.mpr ⟨hx, by simp [hbin]⟩
    exact ⟨n, hr, x, hx, hp, b, hb, n, hn, rfl⟩

/-- The run of added lines goes over a removed line and over the mark of a missing line end. -/
def samplePatch : String :=
  "--- a/m\n+++ b/m\n@@ -1,2 +1,3 @@\n x\n+y\n-z\n\\ No newline at end of file\n+w\n"

def sampleSection : Section :=
  { old := "a/m", new := "b/m", bodies := [⟨1, [.context, .added, .removed, .noLineEnd, .added]⟩] }

theorem changed_iff_line_added_sample :
    ∃ ds, read samplePatch = .ok ds ∧ sections samplePatch = .ok [sampleSection] ∧
      (single 3).meetsAny (ChangedFile.rangesFor (ChangedFile.ofDiffs ds) "m") = true ∧
      (single 1).meetsAny (ChangedFile.rangesFor (ChangedFile.ofDiffs ds) "m") = false := by
  have hs : sections samplePatch = .ok [sampleSection] := by decide +kernel
  have hok : (read samplePatch).isOk = true := by decide +kernel
  cases hds : read samplePatch with
  | error e =>
    rw [hds] at hok
    cases hok
  | ok ds =>
    have key (r : LineRange) :
        r.meetsAny (ChangedFile.rangesFor (ChangedFile.ofDiffs ds) "m") = true ↔ sampleSection.AddsTo "m" r := by
      obtain ⟨xs, hxs, h⟩ := changed_iff_line_added hds (by decide : "m" ≠ "") r
      rw [hs] at hxs
      cases hxs
      rw [h, List.exists_mem_cons_iff]
      simp
    refine ⟨ds, rfl, hs, (key _).mpr (by decide), ?_⟩
    exact Bool.eq_false_iff.mpr (mt (key _).mp (by decide))

end ChangeGraph.Patch
