import ChangeGraph.Proofs.Patch.RoundTrip

/-!
# Two patches as one

The staged changes and the others are read as one patch. The sections of the second follow those of the first, and
nothing is renumbered: a line that one of the patches adds is reported by the number that it has after that patch. A
staged line that the other changes move is therefore reported at a place where it no longer stands.
-/

namespace ChangeGraph.Patch

open LineRange

/-! ### Sections below -/

/-- The state with more sections before all that it has. -/
def State.above (s : State) (below : List Section) : State := { s with sections := s.sections ++ below }

theorem State.current?_above {s : State} (hne : s.sections ≠ []) (below : List Section) :
    (s.above below).current? = s.current? := by
  obtain ⟨x, xs, hs⟩ := List.exists_cons_of_ne_nil hne
  simp [State.current?, State.above, hs]

theorem State.change_above {s : State} (hne : s.sections ≠ []) (f : Section → Section) (below : List Section) :
    (s.above below).change f = (s.change f).above below := by
  obtain ⟨x, xs, hs⟩ := List.exists_cons_of_ne_nil hne
  simp [State.change, State.above, hs]

theorem State.change_ne_nil {s : State} (hne : s.sections ≠ []) (f : Section → Section) :
    (s.change f).sections ≠ [] := by
  obtain ⟨x, xs, hs⟩ := List.exists_cons_of_ne_nil hne
  simp [State.change, hs]

theorem State.close_above {s : State} (hne : s.sections ≠ []) (o : OpenHunk) (below : List Section) :
    (s.above below).close o = (s.close o).above below :=
  State.change_above (s := { s with hunk := none }) hne _ below

theorem State.close_ne_nil {s : State} (hne : s.sections ≠ []) (o : OpenHunk) : (s.close o).sections ≠ [] :=
  State.change_ne_nil (s := { s with hunk := none }) hne _

theorem State.fresh_above (s : State) (below : List Section) : (s.above below).fresh = s.fresh.above below := by
  unfold State.fresh
  show (if s.inHeader then _ else _) = _
  split <;> rfl

theorem State.sections_fresh (s : State) : s.fresh.sections = s.sections := by
  unfold State.fresh
  split <;> rfl

theorem State.finishBinary_above {s : State} (hne : s.sections ≠ []) (below : List Section) :
    (s.above below).finishBinary = s.finishBinary.above below := by
  unfold State.finishBinary
  rw [State.change_above hne]
  rfl

theorem State.finishBinary_ne_nil {s : State} (hne : s.sections ≠ []) : s.finishBinary.sections ≠ [] :=
  State.change_ne_nil hne _

variable {below : List Section}

/-- Where `r` is a state with sections, `r'` is the same one above the sections `below`. -/
def Lifts (below : List Section) (r r' : Except Halt State) : Prop :=
  ∀ t, r = .ok t → t.sections ≠ [] ∧ r' = .ok (t.above below)

theorem Lifts.ok {t : State} (hne : t.sections ≠ []) : Lifts below (.ok t) (.ok (t.above below)) := by
  intro u hu
  cases hu
  exact ⟨hne, rfl⟩

theorem Lifts.error (e : Halt) (r' : Except Halt State) : Lifts below (.error e) r' := nofun

theorem Lifts.ite {r r' q q' : Except Halt State} (c : Prop) [Decidable c] (hr : Lifts below r r')
    (hq : Lifts below q q') : Lifts below (if c then r else q) (if c then r' else q') := by
  by_cases hc : c
  · rw [if_pos hc, if_pos hc]
    exact hr
  · rw [if_neg hc, if_neg hc]
    exact hq

theorem Lifts.bind {α : Type} (x : Except Halt α) {f f' : α → Except Halt State} (hf : ∀ a, Lifts below (f a) (f' a)) :
    Lifts below (x >>= f) (x >>= f') := by
  cases x with
  | error e => exact Lifts.error e _
  | ok a => exact hf a

section Steps

variable {s : State} (hne : s.sections ≠ [])
include hne

theorem State.lifts_change (f : Section → Section) :
    Lifts below (.ok (s.change f)) (.ok ((s.above below).change f)) := by
  rw [State.change_above hne]
  exact Lifts.ok (State.change_ne_nil hne f)

theorem State.lifts_fresh : Lifts below (.ok s.fresh) (.ok (s.above below).fresh) := by
  rw [State.fresh_above]
  exact Lifts.ok (s.sections_fresh ▸ hne)

theorem State.lifts_finishBinary : Lifts below (.ok s.finishBinary) (.ok (s.above below).finishBinary) := by
  rw [State.finishBinary_above hne]
  exact Lifts.ok (State.finishBinary_ne_nil hne)

theorem State.lifts_bodyStep (o : OpenHunk) (line : List Char) :
    Lifts below ((s.bodyStep o line).mapError Halt.malformed)
      (((s.above below).bodyStep o line).mapError Halt.malformed) := by
  unfold State.bodyStep
  cases Mark.of? line with
  | none => exact Lifts.error _ _
  | some m =>
    dsimp only
    cases o.add m with
    | error f => exact Lifts.error _ _
    | ok o' =>
      show Lifts below (.ok (if o'.isComplete then s.close o' else _))
        (.ok (if o'.isComplete then (s.above below).close o' else _))
      rw [State.close_above hne]
      split
      · exact Lifts.ok (State.close_ne_nil hne o')
      · exact Lifts.ok (t := { s with hunk := some o' }) hne

/-- A line outside of hunks does the same whatever sections are below the latest one. -/
theorem State.lifts_headerStep (line : List Char) :
    Lifts below (s.headerStep line) ((s.above below).headerStep line) := by
  have hfresh : s.fresh.sections ≠ [] := s.sections_fresh ▸ hne
  have hbegin (x : Section) : (s.begin x).sections ≠ [] := List.cons_ne_nil _ _
  have hpending : (s.above below).pending = s.pending := rfl
  unfold State.headerStep
  rw [State.current?_above hne]
  cases Line.of line with
  | fileStart old new =>
    exact Lifts.ok (t := { s.begin { old, new } with inHeader := true, pending := some old }) (hbegin _)
  | newFile => exact Lifts.ite _ (State.lifts_change hne _) (Lifts.error _ _)
  | deletedFile => exact Lifts.ite _ (State.lifts_change hne _) (Lifts.error _ _)
  | oldName name => exact Lifts.ok (t := { s with pending := some name, isOpen := s.isOpen && s.inHeader }) hne
  | newName name =>
    cases s.current? with
    | some x => exact Lifts.ite _ (Lifts.ok hne) (Lifts.error _ _)
    | none =>
      dsimp only
      rw [hpending]
      cases s.pending with
      | some old =>
        exact Lifts.ok (t := { s.begin { old, new := name } with inHeader := false, pending := none }) (hbegin _)
      | none => exact Lifts.error _ _
  | hunk h =>
    refine Lifts.ite _ (Lifts.bind h.hunk fun o => ?_) (Lifts.error _ _)
    exact Lifts.ok (t := { s with inHeader := false, hunk := some o }) hne
  | noLineEnd =>
    cases s.current? with
    | none => exact Lifts.error _ _
    | some x => exact Lifts.ite _ (Lifts.error _ _) (Lifts.ok hne)
  | blank => exact Lifts.ite _ (Lifts.ok hne) (State.lifts_fresh hne)
  | binary old =>
    let u : State := { s.fresh with pending := some old }
    rw [State.fresh_above]
    show Lifts below (.ok (if u.isOpen then _ else _)) (.ok (if u.isOpen then _ else _))
    split
    · exact State.lifts_finishBinary (s := u) hfresh
    · exact State.lifts_finishBinary (s := u.begin { old, new := old }) (List.cons_ne_nil _ _)
  | binaryPatch =>
    simp only [State.fresh_above]
    exact Lifts.ite _ (State.lifts_finishBinary hfresh) (Lifts.error _ _)
  | other => exact State.lifts_fresh hne

theorem State.lifts_step (line : List Char) : Lifts below (s.step line) ((s.above below).step line) := by
  have hhunk : (s.above below).hunk = s.hunk := rfl
  unfold State.step
  rw [hhunk]
  cases s.hunk with
  | some o => exact State.lifts_bodyStep hne o line
  | none => exact State.lifts_headerStep hne line

theorem State.lifts_foldlM (ls : List (List Char)) :
    Lifts below (ls.foldlM State.step s) (ls.foldlM State.step (s.above below)) := by
  induction ls generalizing s with
  | nil => exact Lifts.ok hne
  | cons l ls ih =>
    intro t ht
    rw [List.foldlM_cons] at ht
    obtain ⟨u, hu, ht⟩ := bind_eq_ok_iff.mp ht
    obtain ⟨hune, hstep⟩ := State.lifts_step hne l u hu
    rw [List.foldlM_cons, hstep]
    exact ih hune t ht

end Steps

theorem State.finish_above {s : State} (hne : s.sections ≠ []) (below : List Section) {xs : List Section}
    (ok : s.finish = .ok xs) : (s.above below).finish = .ok (below.reverse ++ xs) := by
  have hhunk : (s.above below).hunk = s.hunk := rfl
  unfold State.finish at ok ⊢
  rw [hhunk]
  cases ho : s.hunk with
  | none =>
    rw [ho] at ok
    cases ok
    exact congrArg Except.ok List.reverse_append
  | some o =>
    simp only [ho] at ok ⊢
    split at ok
    · next hc =>
      cases ok
      rw [if_pos hc, State.close_above hne]
      exact congrArg Except.ok List.reverse_append
    · cases ok

/-! ### Patches of version control -/

/-- A patch as version control writes it: lines with line ends, of which the first starts a section, and no hunk goes on
at the end. -/
structure GitPatch (text : String) : Prop where
  ended : text = "" ∨ ∃ cs, text.toList = cs ++ ['\n']
  starts : ∀ l ∈ (linesOf text.toList).head?, ∃ old new, Line.of l = .fileStart old new
  closed : ∀ s, (linesOf text.toList).foldlM State.step {} = .ok s → s.hunk = none

theorem linesOf_append_of_ended {first : String} (ended : first = "" ∨ ∃ cs, first.toList = cs ++ ['\n'])
    (second : String) : linesOf (first ++ second).toList = linesOf first.toList ++ linesOf second.toList := by
  rw [String.toList_append]
  rcases ended with rfl | ⟨cs, hcs⟩
  · rfl
  · rw [hcs, List.append_assoc, List.singleton_append, linesOf_append]

/-- The start of a section does the same after other sections as at the beginning. -/
theorem State.step_fileStart {s : State} (hhunk : s.hunk = none) {line : List Char} {old new : String}
    (hline : Line.of line = .fileStart old new) :
    ∃ t : State, t.sections ≠ [] ∧ State.step {} line = .ok t ∧ s.step line = .ok (t.above s.sections) := by
  refine ⟨{ State.begin {} { old, new } with inHeader := true, pending := some old }, List.cons_ne_nil _ _, ?_, ?_⟩
  · simp only [State.step, State.headerStep, hline]
  · simp [State.step, hhunk, State.headerStep, hline, State.above, State.begin]

/-- What one patch leaves does not matter for the next. -/
theorem foldlM_step_of_starts {text : String} (git : GitPatch text) {s t : State} (hhunk : s.hunk = none)
    {ys : List Section} (read : (linesOf text.toList).foldlM State.step {} = .ok t) (done : t.finish = .ok ys) :
    ∃ u, (linesOf text.toList).foldlM State.step s = .ok u ∧ u.finish = .ok (s.sections.reverse ++ ys) := by
  cases hlines : linesOf text.toList with
  | nil =>
    rw [hlines] at read
    cases read
    cases done
    refine ⟨s, rfl, ?_⟩
    rw [State.finish, hhunk]
    exact congrArg Except.ok (List.append_nil _).symm
  | cons l ls =>
    obtain ⟨old, new, hl⟩ := git.starts l (by rw [hlines]; rfl)
    obtain ⟨v, hne, hfirst, hnext⟩ := State.step_fileStart hhunk hl
    rw [hlines, List.foldlM_cons, hfirst] at read
    obtain ⟨ht, hrest⟩ := State.lifts_foldlM hne ls t read
    refine ⟨t.above s.sections, ?_, State.finish_above ht s.sections done⟩
    rw [List.foldlM_cons, hnext]
    exact hrest

theorem sections_append {first second : String} (hfirst : GitPatch first) (hsecond : GitPatch second)
    {xs ys : List Section} (hxs : sections first = .ok xs) (hys : sections second = .ok ys) :
    sections (first ++ second) = .ok (xs ++ ys) := by
  obtain ⟨s, hs, hxs⟩ := bind_eq_ok_iff.mp hxs
  obtain ⟨t, ht, hys⟩ := bind_eq_ok_iff.mp hys
  have hhunk := hfirst.closed s hs
  have hsections : s.sections.reverse = xs := by
    rw [State.finish, hhunk] at hxs
    cases hxs
    rfl
  obtain ⟨u, hu, hdone⟩ := foldlM_step_of_starts hsecond hhunk ht hys
  rw [sections, linesOf_append_of_ended hfirst.ended, List.foldlM_append, hs]
  show ((linesOf second.toList).foldlM State.step s >>= State.finish) = _
  rw [hu, ← hsections]
  exact hdone

theorem read_append {first second : String} (hfirst : GitPatch first) (hsecond : GitPatch second)
    {ds es : List FileDiff} (hds : read first = .ok ds) (hes : read second = .ok es) :
    read (first ++ second) = .ok (ds ++ es) := by
  obtain ⟨xs, hxs, -⟩ := exists_sections_of_read hds
  obtain ⟨ys, hys, -⟩ := exists_sections_of_read hes
  rw [read_of_sections hxs] at hds
  rw [read_of_sections hys] at hes
  rw [read_of_sections (sections_append hfirst hsecond hxs hys), List.filter_append, List.mapM_append, hds, hes]
  rfl

/-! ### Added lines of both -/

/-- Whether a patch adds the line to the file `p`, by the number that the line has after the patch. -/
def AddsLine (text p : String) (line : Int) : Prop :=
  ∃ xs, sections text = .ok xs ∧ ∃ x ∈ xs, x.AddsTo p (single line)

theorem covers_iff_addsLine {text : String} {ds : List FileDiff} (ok : read text = .ok ds) {p : String} (hp : p ≠ "")
    {line : Int} : Covers (ChangedFile.rangesFor (ChangedFile.ofDiffs ds) p) line ↔ AddsLine text p line := by
  obtain ⟨xs, hxs, all⟩ := exists_sections_of_read ok
  rw [covers_rangesFor_iff all hp]
  constructor
  · rintro ⟨x, hx, hp, b, hb, n, hn, rfl⟩
    obtain ⟨hx, hbin⟩ := List.mem_filter.mp hx
    exact ⟨xs, hxs, x, hx, by simpa using hbin, hp, b, hb, (.added, n), hn, rfl, Int.le_refl _, Int.le_refl _⟩
  · rintro ⟨ys, hys, x, hx, hbin, hp, b, hb, ⟨m, n⟩, hn, rfl, hle, hge⟩
    rw [hxs] at hys
    cases hys
    have hx : x ∈ xs.filter (!·.binary) := List.mem_filter.mpr ⟨hx, by simp [hbin]⟩
    exact ⟨x, hx, hp, b, hb, n, hn, Int.le_antisymm hge hle⟩

theorem addsLine_append {first second : String} (hfirst : GitPatch first) (hsecond : GitPatch second)
    {xs ys : List Section} (hxs : sections first = .ok xs) (hys : sections second = .ok ys) {p : String} {line : Int} :
    AddsLine (first ++ second) p line ↔ AddsLine first p line ∨ AddsLine second p line := by
  simp only [AddsLine, sections_append hfirst hsecond hxs hys, hxs, hys, Except.ok.injEq, exists_eq_left',
    List.mem_append, or_and_right, exists_or]

/-- The staged changes and the others together are read as the diffs of the first and then those of the second. A line
is then covered exactly if one of them adds it, each by the numbers that lines have after that patch. -/
theorem covers_joined_iff {staged others : String} (hstaged : GitPatch staged) (hothers : GitPatch others)
    {ds es : List FileDiff} (hds : read staged = .ok ds) (hes : read others = .ok es) :
    read (staged ++ others) = .ok (ds ++ es) ∧
      ∀ p ≠ "", ∀ line, Covers (ChangedFile.rangesFor (ChangedFile.ofDiffs (ds ++ es)) p) line ↔
        AddsLine staged p line ∨ AddsLine others p line := by
  have hread := read_append hstaged hothers hds hes
  obtain ⟨xs, hxs, -⟩ := exists_sections_of_read hds
  obtain ⟨ys, hys, -⟩ := exists_sections_of_read hes
  refine ⟨hread, fun p hp line => ?_⟩
  rw [covers_iff_addsLine hread hp, addsLine_append hstaged hothers hxs hys]

/-! ### A staged line that is moved -/

/-- The old and the new number of each line that is kept. -/
def keptFrom (old new : Nat) : List EditLine → List (Nat × Nat)
  | [] => []
  | l :: ls =>
    match l.edit with
    | .keep => (old, new) :: keptFrom (old + 1) (new + 1) ls
    | .add => keptFrom old (new + 1) ls
    | .remove => keptFrom (old + 1) new ls

def HunkText.kept (h : HunkText) : List (Nat × Nat) := keptFrom h.oldStart h.newStart h.lines

/-- The patch of one file as version control writes it. -/
def FileText.git (f : FileText) : String :=
  textOf true (("diff --git a/" ++ f.path ++ " b/" ++ f.path) :: f.written)

/-- Line 2 is staged. -/
def stagedHunk : HunkText where
  oldStart := 1
  newStart := 1
  lines := [⟨.keep, "x", by decide⟩, ⟨.add, "s", by decide⟩]
  newStart_pos := Nat.one_pos
  lines_ne_nil := List.cons_ne_nil _ _

/-- A line put in front of both lines, so that line 2 becomes line 3. -/
def frontHunk : HunkText where
  oldStart := 1
  newStart := 1
  lines := [⟨.add, "u", by decide⟩, ⟨.keep, "x", by decide⟩, ⟨.keep, "s", by decide⟩]
  newStart_pos := Nat.one_pos
  lines_ne_nil := List.cons_ne_nil _ _

def stagedPatch : String := FileText.git ⟨"m.js", [stagedHunk], by decide⟩

def frontPatch : String := FileText.git ⟨"m.js", [frontHunk], by decide⟩

def stagedSection : Section := { old := "a/m.js", new := "b/m.js", bodies := [stagedHunk.body] }

def frontSection : Section := { old := "a/m.js", new := "b/m.js", bodies := [frontHunk.body] }

/-- Both patches have one section, about the same file. -/
theorem gitPatch_of_section {text : String} {cs : List Char} {x : Section} (hcs : text.toList = cs ++ ['\n'])
    (hfirst : (linesOf text.toList).head? = some "diff --git a/m.js b/m.js\n".toList)
    (hread : (linesOf text.toList).foldlM State.step {} =
      .ok { sections := [x], isOpen := true, pending := some "a/m.js" }) : GitPatch text where
  ended := .inr ⟨cs, hcs⟩
  starts := by
    intro l hl
    rw [hfirst] at hl
    cases hl
    exact ⟨"a/m.js", "b/m.js", by decide +kernel⟩
  closed := by
    intro s hs
    rw [hread] at hs
    cases hs
    rfl

theorem gitPatch_stagedPatch : GitPatch stagedPatch := by
  have hcs : stagedPatch.toList = stagedPatch.toList.dropLast ++ ['\n'] := by decide +kernel
  have hread : (linesOf stagedPatch.toList).foldlM State.step {} =
      .ok { sections := [stagedSection], isOpen := true, pending := some "a/m.js" } := by decide +kernel
  exact gitPatch_of_section hcs (by decide +kernel) hread

theorem gitPatch_frontPatch : GitPatch frontPatch := by
  have hcs : frontPatch.toList = frontPatch.toList.dropLast ++ ['\n'] := by decide +kernel
  have hread : (linesOf frontPatch.toList).foldlM State.step {} =
      .ok { sections := [frontSection], isOpen := true, pending := some "a/m.js" } := by decide +kernel
  exact gitPatch_of_section hcs (by decide +kernel) hread

theorem sections_stagedPatch : sections stagedPatch = .ok [stagedSection] := by decide +kernel

theorem sections_frontPatch : sections frontPatch = .ok [frontSection] := by decide +kernel

theorem addsLine_iff {text : String} {x : Section} (ok : sections text = .ok [x]) {p : String} {line : Int} :
    AddsLine text p line ↔ x.AddsTo p (single line) := by
  simp [AddsLine, ok]

theorem exists_read {text : String} (ok : (read text).isOk = true) : ∃ ds, read text = .ok ds := by
  cases h : read text with
  | error e =>
    rw [h] at ok
    cases ok
  | ok ds => exact ⟨ds, rfl⟩

theorem covers_joined_iff_sample :
    ∃ ds es, read stagedPatch = .ok ds ∧ read frontPatch = .ok es ∧
      read (stagedPatch ++ frontPatch) = .ok (ds ++ es) ∧
      Covers (ChangedFile.rangesFor (ChangedFile.ofDiffs (ds ++ es)) "m.js") 2 ∧
      ¬Covers (ChangedFile.rangesFor (ChangedFile.ofDiffs (ds ++ es)) "m.js") 3 := by
  obtain ⟨ds, hds⟩ : ∃ ds, read stagedPatch = .ok ds := exists_read (by decide +kernel)
  obtain ⟨es, hes⟩ : ∃ es, read frontPatch = .ok es := exists_read (by decide +kernel)
  obtain ⟨hread, hcovers⟩ := covers_joined_iff gitPatch_stagedPatch gitPatch_frontPatch hds hes
  refine ⟨ds, es, hds, hes, hread, ?_, ?_⟩
  · rw [hcovers "m.js" (by decide), addsLine_iff sections_stagedPatch, addsLine_iff sections_frontPatch]
    decide
  · rw [hcovers "m.js" (by decide), addsLine_iff sections_stagedPatch, addsLine_iff sections_frontPatch]
    decide

/-- The staged line is line 3 of the file as it is now, but line 3 is not covered. -/
theorem staged_line_not_moved :
    GitPatch stagedPatch ∧ GitPatch frontPatch ∧ AddsLine stagedPatch "m.js" 2 ∧ (2, 3) ∈ frontHunk.kept ∧
      ∃ ds, read (stagedPatch ++ frontPatch) = .ok ds ∧
        ¬Covers (ChangedFile.rangesFor (ChangedFile.ofDiffs ds) "m.js") 3 := by
  obtain ⟨ds, hds⟩ : ∃ ds, read stagedPatch = .ok ds := exists_read (by decide +kernel)
  obtain ⟨es, hes⟩ : ∃ es, read frontPatch = .ok es := exists_read (by decide +kernel)
  have hread := read_append gitPatch_stagedPatch gitPatch_frontPatch hds hes
  refine ⟨gitPatch_stagedPatch, gitPatch_frontPatch, (addsLine_iff sections_stagedPatch).mpr (by decide), by decide,
    ds ++ es, hread, ?_⟩
  rw [covers_iff_addsLine hread (by decide), addsLine_append gitPatch_stagedPatch gitPatch_frontPatch
    sections_stagedPatch sections_frontPatch, addsLine_iff sections_stagedPatch, addsLine_iff sections_frontPatch]
  decide

end ChangeGraph.Patch
