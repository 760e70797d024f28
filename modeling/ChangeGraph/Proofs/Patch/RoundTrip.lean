import ChangeGraph.Proofs.Analysis.Escapes
import ChangeGraph.Proofs.Patch.Groups
import ChangeGraph.Proofs.Patch.Written

/-!
# Reading what was written

Whatever the lines of a written patch look like, reading the patch gives back the groups of added lines of each file,
as long as no number of a hunk header has too many digits. Within a hunk the counts of its header tell where it ends, so
that a line which looks like a header is none.
-/

namespace ChangeGraph.Patch

open ChangeGraph.Text (valuesOf length_valuesOf)

/-! ### Reading written lines -/

/-- Reading the lines from the state `s` comes to `r`, whether or not they have line ends. -/
def Reads (s : State) (ls : List String) (r : Except Halt State) : Prop :=
  ∀ css, List.Forall₂ Stands css ls → css.foldlM State.step s = r

theorem Reads.nil (s : State) : Reads s [] (.ok s) := by
  intro css h
  cases h
  rfl

theorem Reads.cons {s t : State} {l : String} {ls : List String} {r : Except Halt State}
    (hl : ∀ cs, Stands cs l → s.step cs = .ok t) (hls : Reads t ls r) : Reads s (l :: ls) r := by
  intro css h
  cases h with
  | cons hcs hcss =>
    rw [List.foldlM_cons, hl _ hcs]
    exact hls _ hcss

theorem Reads.stop {s : State} {l : String} {e : Halt} (hl : ∀ cs, Stands cs l → s.step cs = .error e)
    (ls : List String) : Reads s (l :: ls) (.error e) := by
  intro css h
  cases h with
  | cons hcs hcss =>
    rw [List.foldlM_cons, hl _ hcs]
    rfl

theorem Reads.append {s t : State} {ls ks : List String} {r : Except Halt State} (hls : Reads s ls (.ok t))
    (hks : Reads t ks r) : Reads s (ls ++ ks) r := by
  intro css h
  rw [← List.take_append_drop ls.length css, List.foldlM_append, hls _ (List.forall₂_take_append css ls ks h)]
  exact hks _ (List.forall₂_drop_append css ls ks h)

theorem Reads.stop_append {s : State} {ls : List String} {e : Halt} (hls : Reads s ls (.error e))
    (ks : List String) : Reads s (ls ++ ks) (.error e) := by
  intro css h
  rw [← List.take_append_drop ls.length css, List.foldlM_append, hls _ (List.forall₂_take_append css ls ks h)]
  rfl

/-- The state within the section `x`, after the sections `xs`, when the next line of the file is awaited. -/
def State.within (x : Section) (xs : List Section) : State := { sections := x :: xs, isOpen := true }

theorem State.step_oldName {s : State} (hhunk : s.hunk = none) {name : String}
    (plain : name.toList.any isNameEnd = false) {cs : List Char} (hcs : Stands cs ("--- " ++ name)) :
    s.step cs = .ok { s with pending := some name, isOpen := s.isOpen && s.inHeader } := by
  obtain ⟨tail, ends, rfl⟩ := hcs
  rw [String.toList_append, List.append_assoc]
  simp only [State.step, hhunk, State.headerStep, Line.of_oldName, nameOf_append plain ends, String.ofList_toList]

theorem State.step_newName {s : State} (hhunk : s.hunk = none) (hopen : s.isOpen = false) {old name : String}
    (hpending : s.pending = some old) (plain : name.toList.any isNameEnd = false) {cs : List Char}
    (hcs : Stands cs ("+++ " ++ name)) : s.step cs = .ok (State.within { old, new := name } s.sections) := by
  obtain ⟨tail, ends, rfl⟩ := hcs
  rw [String.toList_append, List.append_assoc]
  simp only [State.step, hhunk, State.headerStep, Line.of_newName, nameOf_append plain ends, String.ofList_toList,
    State.current?, hopen, hpending, State.begin, State.within, Bool.false_eq_true, if_false]

theorem State.step_header {s : State} (hhunk : s.hunk = none) (hopen : s.isOpen = true) (h : HunkText) {cs : List Char}
    (hcs : Stands cs h.header) :
    s.step cs = h.head.hunk >>= fun hunk => .ok { s with inHeader := false, hunk := some hunk } := by
  obtain ⟨tail, -, rfl⟩ := hcs
  simp only [State.step, hhunk, State.headerStep, Line.of_header, hopen, if_true]
  rfl

theorem Mark.of?_written (l : EditLine) {cs : List Char} (hcs : Stands cs l.written) :
    Mark.of? cs = some l.edit.mark := by
  obtain ⟨tail, -, rfl⟩ := hcs
  rw [EditLine.written, String.toList_append]
  cases l.edit <;> rfl

theorem State.step_written {s : State} {o : OpenHunk} (hhunk : s.hunk = some o) (l : EditLine) {o' : OpenHunk}
    (hadd : o.add l.edit.mark = .ok o') {cs : List Char} (hcs : Stands cs l.written) :
    s.step cs = .ok (if o'.isComplete then s.close o' else { s with hunk := some o' }) := by
  simp only [State.step, hhunk, State.bodyStep, Mark.of?_written l hcs, hadd]
  rfl

/-- A hunk of which the lines `ls` are missing. -/
def awaiting (newStart : Nat) (ls : List EditLine) (marks : List Mark) : OpenHunk :=
  ⟨newStart, ls.countP (·.edit ≠ .add), ls.countP (·.edit ≠ .remove), marks⟩

/-- Each line is counted on one side at least. -/
theorem isComplete_awaiting (newStart : Nat) (ls : List EditLine) (marks : List Mark) :
    (awaiting newStart ls marks).isComplete = ls.isEmpty := by
  cases ls with
  | nil => rfl
  | cons l ls => cases hl : l.edit <;> simp [awaiting, OpenHunk.isComplete, hl]

theorem add_awaiting (newStart : Nat) (l : EditLine) (ls : List EditLine) (marks : List Mark) :
    (awaiting newStart (l :: ls) marks).add l.edit.mark = .ok (awaiting newStart ls (l.edit.mark :: marks)) := by
  unfold awaiting
  cases hl : l.edit with
  | keep =>
    rw [List.countP_cons_of_pos (by simp [hl]), List.countP_cons_of_pos (by simp [hl])]
    rfl
  | add =>
    rw [List.countP_cons_of_neg (by simp [hl]), List.countP_cons_of_pos (by simp [hl])]
    rfl
  | remove =>
    rw [List.countP_cons_of_pos (by simp [hl]), List.countP_cons_of_neg (by simp [hl])]
    rfl

/-- The counts of the header say how many lines are missing, so that the hunk is complete right after its last line. -/
theorem reads_lines {ls : List EditLine} (hne : ls ≠ []) {s : State} {newStart : Nat} {marks : List Mark}
    (hhunk : s.hunk = some (awaiting newStart ls marks)) :
    Reads s (ls.map EditLine.written)
      (.ok (s.close (awaiting newStart [] ((ls.map (·.edit.mark)).reverse ++ marks)))) := by
  induction ls generalizing s marks with
  | nil => exact absurd rfl hne
  | cons l ls ih =>
    have hstep (cs : List Char) (hcs : Stands cs l.written) :=
      State.step_written hhunk l (add_awaiting newStart l ls marks) hcs
    rw [isComplete_awaiting] at hstep
    cases ls with
    | nil => exact Reads.cons hstep (Reads.nil _)
    | cons k ks =>
      let t : State := { s with hunk := some (awaiting newStart (k :: ks) (l.edit.mark :: marks)) }
      have hrest := ih (List.cons_ne_nil k ks) (s := t) rfl
      have hmarks : ((l :: k :: ks).map (·.edit.mark)).reverse ++ marks =
          ((k :: ks).map (·.edit.mark)).reverse ++ l.edit.mark :: marks := by
        simp
      rw [hmarks]
      exact Reads.cons hstep hrest

theorem HunkText.hunk_head {h : HunkText} (short : h.Short) : h.head.hunk = .ok (awaiting h.newStart h.lines []) := by
  have hread (n : Nat) (hn : n ∈ h.numbers) : readNumber (valuesOf n) = .ok n := readNumber_valuesOf (short n hn)
  rw [Header.hunk, HunkText.head, hread _ (by simp [numbers]), hread _ (by simp [numbers]), hread _ (by simp [numbers]),
    hread _ (by simp [numbers])]
  rfl

theorem reads_hunk {h : HunkText} (short : h.Short) (x : Section) (xs : List Section) :
    Reads (State.within x xs) h.written (.ok (State.within { x with bodies := x.bodies ++ [h.body] } xs)) := by
  let s : State := { State.within x xs with hunk := some (awaiting h.newStart h.lines []) }
  have hheader (cs : List Char) (hcs : Stands cs h.header) : (State.within x xs).step cs = .ok s := by
    rw [State.step_header rfl rfl h hcs, h.hunk_head short]
    rfl
  have hlines := reads_lines h.lines_ne_nil (s := s) rfl
  have hclose : s.close (awaiting h.newStart [] ((h.lines.map (·.edit.mark)).reverse ++ [])) =
      State.within { x with bodies := x.bodies ++ [h.body] } xs := by
    rw [List.append_nil]
    simp only [s, awaiting, State.close, State.change, State.within, List.reverse_reverse]
    rfl
  rw [hclose] at hlines
  exact Reads.cons hheader hlines

theorem exists_hunk_head {h : HunkText} (long : ¬h.Short) : ∃ n, h.head.hunk = .error (.longNumber n) := by
  obtain ⟨n, hn, hlong⟩ : ∃ n ∈ h.numbers, Text.digitLimit < (Nat.toDigits 10 n).length := by
    simpa [HunkText.Short] using long
  rw [← length_valuesOf] at hlong
  have hmem : valuesOf n ∈ h.head.numbers := List.mem_map_of_mem (f := valuesOf) hn
  have htoo : (h.head.numbers.find? fun digits => Text.digitLimit < digits.length).isSome = true :=
    List.find?_isSome.mpr ⟨_, hmem, decide_eq_true hlong⟩
  obtain ⟨digits, hdigits⟩ := Option.isSome_iff_exists.mp htoo
  refine ⟨digits.length, Header.hunk_eq_error_iff.mpr ⟨_, ?_, rfl⟩⟩
  rw [Header.tooLong?, hdigits, Option.map_some]

theorem stops_at_hunk {h : HunkText} {n : Nat} (long : h.head.hunk = .error (.longNumber n)) (x : Section)
    (xs : List Section) : Reads (State.within x xs) h.written (.error (.longNumber n)) := by
  refine Reads.stop ?_ _
  intro cs hcs
  rw [State.step_header rfl rfl h hcs, long]
  rfl

theorem reads_hunks {hs : List HunkText} (short : ∀ h ∈ hs, h.Short) (x : Section) (xs : List Section) :
    Reads (State.within x xs) (hs.flatMap HunkText.written)
      (.ok (State.within { x with bodies := x.bodies ++ hs.map HunkText.body } xs)) := by
  induction hs generalizing x with
  | nil =>
    rw [List.map_nil, List.append_nil]
    exact Reads.nil _
  | cons h hs ih =>
    have hrest := ih (fun h' hh => short h' (List.mem_cons_of_mem _ hh)) { x with bodies := x.bodies ++ [h.body] }
    rw [List.append_assoc, List.singleton_append] at hrest
    exact (reads_hunk (short h List.mem_cons_self) x xs).append hrest

/-- Reading stops at the first header with a number of too many digits. -/
theorem stops_within_hunks {hs : List HunkText} (long : ¬∀ h ∈ hs, h.Short) (x : Section) (xs : List Section) :
    ∃ n, Reads (State.within x xs) (hs.flatMap HunkText.written) (.error (.longNumber n)) := by
  induction hs generalizing x with
  | nil => exact absurd (by simp) long
  | cons h hs ih =>
    by_cases hh : h.Short
    · have hrest : ¬∀ h' ∈ hs, h'.Short := fun all => long (List.forall_mem_cons.mpr ⟨hh, all⟩)
      obtain ⟨n, hn⟩ := ih hrest { x with bodies := x.bodies ++ [h.body] }
      exact ⟨n, (reads_hunk hh x xs).append hn⟩
    · obtain ⟨n, hn⟩ := exists_hunk_head hh
      exact ⟨n, (stops_at_hunk hn x xs).stop_append _⟩

/-! ### Reading written files -/

/-- Whether a new section can start with its old and new name: the state is within no hunk and no header. -/
def State.Between (s : State) : Prop := s.hunk = none ∧ (s.isOpen && s.inHeader) = false

theorem State.between_within (x : Section) (xs : List Section) : (State.within x xs).Between := ⟨rfl, rfl⟩

theorem reads_names (f : FileText) {s : State} (between : s.Between) {ls : List String} {r : Except Halt State}
    (hls : Reads (State.within { old := "a/" ++ f.path, new := "b/" ++ f.path } s.sections) ls r) :
    Reads s (("--- a/" ++ f.path) :: ("+++ b/" ++ f.path) :: ls) r := by
  obtain ⟨hhunk, hheader⟩ := between
  have hold : "--- a/" ++ f.path = "--- " ++ ("a/" ++ f.path) := by rw [← String.append_assoc]; rfl
  have hnew : "+++ b/" ++ f.path = "+++ " ++ ("b/" ++ f.path) := by rw [← String.append_assoc]; rfl
  have plain (side : String) (hside : side.toList.any isNameEnd = false) :
      (side ++ f.path).toList.any isNameEnd = false := by
    rw [String.toList_append, List.any_append, hside, f.path_plain]
    rfl
  rw [hold, hnew]
  let t : State := { s with pending := some ("a/" ++ f.path), isOpen := s.isOpen && s.inHeader }
  have hstart (cs : List Char) (hcs : Stands cs ("--- " ++ ("a/" ++ f.path))) : s.step cs = .ok t :=
    State.step_oldName hhunk (plain "a/" (by decide)) hcs
  have hnext (cs : List Char) (hcs : Stands cs ("+++ " ++ ("b/" ++ f.path))) :=
    State.step_newName (s := t) hhunk hheader rfl (plain "b/" (by decide)) hcs
  exact Reads.cons hstart (Reads.cons hnext hls)

theorem reads_file {f : FileText} (short : ∀ h ∈ f.hunks, h.Short) {s : State} (between : s.Between) :
    Reads s f.written (.ok (State.within f.section s.sections)) :=
  reads_names f between (reads_hunks short _ _)

theorem reads_files {fs : List FileText} (short : ∀ f ∈ fs, ∀ h ∈ f.hunks, h.Short) {s : State}
    (between : s.Between) :
    ∃ t, Reads s (fs.flatMap FileText.written) (.ok t) ∧ t.hunk = none ∧
      t.sections.reverse = s.sections.reverse ++ fs.map FileText.section := by
  induction fs generalizing s with
  | nil => exact ⟨s, Reads.nil s, between.1, by simp⟩
  | cons f fs ih =>
    have hf := reads_file (short f List.mem_cons_self) between
    obtain ⟨t, ht, hhunk, hsections⟩ :=
      ih (fun f' hf' => short f' (List.mem_cons_of_mem _ hf')) (State.between_within f.section s.sections)
    refine ⟨t, hf.append ht, hhunk, ?_⟩
    rw [hsections]
    simp [State.within]

theorem stops_within_files {fs : List FileText} (long : ¬∀ f ∈ fs, ∀ h ∈ f.hunks, h.Short) {s : State}
    (between : s.Between) : ∃ n, Reads s (fs.flatMap FileText.written) (.error (.longNumber n)) := by
  induction fs generalizing s with
  | nil => exact absurd (by simp) long
  | cons f fs ih =>
    by_cases hf : ∀ h ∈ f.hunks, h.Short
    · have hrest : ¬∀ f' ∈ fs, ∀ h ∈ f'.hunks, h.Short := fun all => long (List.forall_mem_cons.mpr ⟨hf, all⟩)
      obtain ⟨n, hn⟩ := ih hrest (State.between_within f.section s.sections)
      exact ⟨n, (reads_file hf between).append hn⟩
    · obtain ⟨n, hn⟩ := stops_within_hunks hf _ _
      exact ⟨n, (reads_names f between hn).stop_append _⟩

/-! ### The sections of a written patch -/

theorem sections_writePatch (ended : Bool) {fs : List FileText} (short : ∀ f ∈ fs, ∀ h ∈ f.hunks, h.Short) :
    sections (writePatch ended fs) = .ok (fs.map FileText.section) := by
  obtain ⟨t, ht, hhunk, hsections⟩ := reads_files short (s := {}) ⟨rfl, rfl⟩
  have hfinish : t.finish = .ok t.sections.reverse := by
    rw [State.finish, hhunk]
  rw [sections, ht _ (stands_writePatch ended fs)]
  show t.finish = _
  rw [hfinish, hsections]
  rfl

theorem sections_writePatch_long (ended : Bool) {fs : List FileText} (long : ¬∀ f ∈ fs, ∀ h ∈ f.hunks, h.Short) :
    ∃ n, sections (writePatch ended fs) = .error (.longNumber n) := by
  obtain ⟨n, hn⟩ := stops_within_files long (s := {}) ⟨rfl, rfl⟩
  refine ⟨n, ?_⟩
  rw [sections, hn _ (stands_writePatch ended fs)]
  rfl

/-! ### The diffs of a written patch -/

theorem read_of_sections {text : String} {xs : List Section} (ok : sections text = .ok xs) :
    read text = (xs.filter (!·.binary)).mapM fun x => x.diff.mapError Failure.badHunk := by
  unfold read
  split
  · next hblank =>
    rw [sections_blank (List.isEmpty_iff.mp hblank)] at ok
    cases ok
    rfl
  · rw [ok]
    rfl

theorem FileText.not_addsLineZero (f : FileText) : ¬f.section.AddsLineZero := by
  rintro ⟨-, b, hb, hzero⟩
  obtain ⟨h, -, rfl⟩ := List.mem_map.mp hb
  have hle : h.newStart ≤ 0 := List.le_snd_of_mem_zipIdx hzero
  have hpos := h.newStart_pos
  omega

theorem FileText.path_section (f : FileText) : f.section.path = "b/" ++ f.path := by
  have hne : "b/" ++ f.path ≠ "/dev/null" := by
    intro h
    have hlist := congrArg String.toList h
    rw [String.toList_append] at hlist
    cases hlist
  simp [Section.path, FileText.section, hne]

theorem FileText.runs_section (f : FileText) :
    f.section.bodies.flatMap Body.runs = f.hunks.flatMap fun h => h.body.groups := by
  simp only [FileText.section, List.flatMap_map, Body.runs_eq_groups]

/-- A written patch with short numbers is read, one diff for each file. -/
theorem exists_read_writePatch (ended : Bool) {fs : List FileText} (short : ∀ f ∈ fs, ∀ h ∈ f.hunks, h.Short) :
    ∃ ds, read (writePatch ended fs) = .ok ds ∧
      List.Forall₂ (fun (f : FileText) d => f.section.diff = .ok d) fs ds := by
  have hsections := sections_writePatch ended short
  cases hds : read (writePatch ended fs) with
  | error e =>
    rw [read_of_sections hsections] at hds
    obtain ⟨⟨x, hx, hzero⟩, -⟩ := mapM_diff_eq_error_iff.mp hds
    obtain ⟨f, -, rfl⟩ := List.mem_map.mp hx
    exact absurd hzero f.not_addsLineZero
  | ok ds =>
    obtain ⟨xs, hxs, all⟩ := exists_sections_of_read hds
    rw [hsections] at hxs
    cases hxs
    have htexts : (fs.map FileText.section).filter (!·.binary) = fs.map FileText.section := by
      simp [FileText.section]
    rw [htexts, List.forall₂_map_left_iff] at all
    exact ⟨ds, rfl, all⟩

theorem groups_of_diffs {fs : List FileText} {ds : List FileDiff}
    (all : List.Forall₂ (fun (f : FileText) d => f.section.diff = .ok d) fs ds) :
    ds.map (fun d => (d.path, d.hunks.map fun h => (h.start, h.count))) =
      fs.map fun f => ("b/" ++ f.path, f.hunks.flatMap fun h => h.body.groups) := by
  induction all with
  | nil => rfl
  | cons hd _ ih =>
    rw [List.map_cons, List.map_cons, ih, path_of_diff hd, runs_of_diff hd, FileText.path_section,
      FileText.runs_section]

/-- Reading a written patch gives its files with the groups of their added lines exactly if no number of a header has
too many digits. -/
theorem read_writePatch_iff (ended : Bool) (fs : List FileText) :
    (∃ ds, read (writePatch ended fs) = .ok ds ∧
      ds.map (fun d => (d.path, d.hunks.map fun h => (h.start, h.count))) =
        fs.map fun f => ("b/" ++ f.path, f.hunks.flatMap fun h => h.body.groups)) ↔
      ∀ f ∈ fs, ∀ h ∈ f.hunks, h.Short := by
  constructor
  · rintro ⟨ds, hread, -⟩
    by_contra long
    obtain ⟨n, hn⟩ := sections_writePatch_long ended long
    obtain ⟨xs, hxs, -⟩ := exists_sections_of_read hread
    rw [hn] at hxs
    cases hxs
  · intro short
    obtain ⟨ds, hread, all⟩ := exists_read_writePatch ended short
    exact ⟨ds, hread, groups_of_diffs all⟩

/-- A hunk with lines that look like the headers of files and of hunks, and like the mark of a missing line end. -/
def disguisedHunk : HunkText where
  oldStart := 4
  newStart := 7
  lines := [⟨.remove, "-- a/y", by decide⟩, ⟨.add, "++ b/y", by decide⟩, ⟨.keep, "@@ -1 +1 @@", by decide⟩,
    ⟨.add, "@@ -1 +1 @@", by decide⟩, ⟨.remove, "", by decide⟩, ⟨.add, "\\ No newline at end of file", by decide⟩]
  newStart_pos := by decide
  lines_ne_nil := List.cons_ne_nil _ _

def disguisedFile : FileText where
  path := "x.js"
  hunks := [disguisedHunk]
  path_plain := by decide

theorem read_writePatch_iff_sample :
    disguisedHunk.Short ∧ ∃ ds, read (writePatch false [disguisedFile, disguisedFile]) = .ok ds ∧
      ds.map (fun d => (d.path, d.hunks.map fun h => (h.start, h.count))) =
        [("b/x.js", [(7, 1), (9, 2)]), ("b/x.js", [(7, 1), (9, 2)])] := by
  have short : disguisedHunk.Short := by
    intro n hn
    have hten : n < 10 := (by decide : ∀ n ∈ disguisedHunk.numbers, n < 10) n hn
    rw [Nat.toDigits_of_lt_base hten, List.length_singleton]
    decide
  have all : ∀ f ∈ [disguisedFile, disguisedFile], ∀ h ∈ f.hunks, h.Short := by
    simp [disguisedFile, short]
  obtain ⟨ds, hread, hgroups⟩ := (read_writePatch_iff false [disguisedFile, disguisedFile]).mpr all
  have hdisguised : disguisedHunk.body.groups = [(7, 1), (9, 2)] := by decide
  refine ⟨short, ds, hread, ?_⟩
  rw [hgroups]
  simp [disguisedFile, hdisguised]

/-- A hunk that starts at a line with a number of one digit too many. -/
def longHunk : HunkText where
  oldStart := Text.powerOfTen Text.digitLimit
  newStart := 1
  lines := [⟨.add, "y", by decide⟩]
  newStart_pos := Nat.one_pos
  lines_ne_nil := List.cons_ne_nil _ _

def longFile : FileText where
  path := "x.js"
  hunks := [longHunk]
  path_plain := by decide

/-- The old number is of no use for the added lines, but it is read with the others. -/
theorem read_longFile :
    read (writePatch true [longFile]) = .error (.badHunk (.longNumber (Text.digitLimit + 1))) := by
  have hlength : (Nat.toDigits 10 longHunk.oldStart).length = Text.digitLimit + 1 := by
    simp only [longHunk]
    rw [Text.length_toDigits_powerOfTen (by decide)]
  have hnumber : readNumber (valuesOf longHunk.oldStart) = .error (.longNumber (Text.digitLimit + 1)) := by
    rw [readNumber_valuesOf_long (hlength ▸ Nat.lt_succ_self _), hlength]
  have hhead : longHunk.head.hunk = .error (.longNumber (Text.digitLimit + 1)) := by
    rw [Header.hunk, HunkText.head, hnumber]
    rfl
  have hreads : Reads {} ([longFile].flatMap FileText.written) (.error (.longNumber (Text.digitLimit + 1))) :=
    (reads_names longFile ⟨rfl, rfl⟩ ((stops_at_hunk hhead _ _).stop_append [])).stop_append []
  have hsections : sections (writePatch true [longFile]) = .error (.longNumber (Text.digitLimit + 1)) := by
    rw [sections, hreads _ (stands_writePatch true [longFile])]
    rfl
  exact read_eq_badHunk_iff.mpr (escapes_iff.mpr (.inr ⟨_, rfl, hsections⟩))

end ChangeGraph.Patch
