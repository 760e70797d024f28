import ChangeGraph.Analysis.Analyzer
import ChangeGraph.Proofs.Patch.AddedLines

/-!
# Errors that are no report

A patch that cannot be read is reported as malformed, with two exceptions: a line added as line zero of its file, and
a hunk header with a number of too many digits. For these, and for nothing else, an analysis of a patch ends in an
error instead of a report.
-/

namespace ChangeGraph

namespace Patch

/-! ### Long numbers -/

def Header.numbers (h : Header) : List (List Nat) := [h.oldStart, h.oldCount, h.newStart, h.newCount]

/-- The digits of the first number of a header that has too many of them. -/
def Header.tooLong? (h : Header) : Option Nat :=
  (h.numbers.find? fun digits => Text.digitLimit < digits.length).map (·.length)

theorem mapM_readNumber_eq_error_iff {numbers : List (List Nat)} {e : Halt} :
    numbers.mapM readNumber = .error e ↔
      ∃ n, (numbers.find? fun digits => Text.digitLimit < digits.length).map (·.length) = some n ∧
        e = .longNumber n := by
  induction numbers with
  | nil => exact ⟨nofun, nofun⟩
  | cons digits numbers ih =>
    rw [List.mapM_cons, List.find?_cons]
    by_cases h : Text.digitLimit < digits.length
    · have hread : readNumber digits = .error (.longNumber digits.length) := if_neg (by omega)
      rw [hread, decide_eq_true h]
      constructor
      · intro he
        cases he
        exact ⟨digits.length, rfl, rfl⟩
      · rintro ⟨n, hn, rfl⟩
        cases hn
        rfl
    · have hread : readNumber digits = .ok (Text.ofDigits digits) := if_pos (by omega)
      rw [hread, decide_eq_false h, ← ih]
      cases numbers.mapM readNumber with
      | error e' => exact Iff.rfl
      | ok ns => exact ⟨nofun, nofun⟩

theorem Header.hunk_eq_error_iff {h : Header} {e : Halt} :
    h.hunk = .error e ↔ ∃ n, h.tooLong? = some n ∧ e = .longNumber n := by
  have hall : h.hunk = .error e ↔ h.numbers.mapM readNumber = .error e := by
    simp only [Header.hunk, Header.numbers, List.mapM_cons, List.mapM_nil, bind_eq_error_iff]
    simp [pure, Except.pure]
  rw [hall, mapM_readNumber_eq_error_iff]
  rfl

theorem State.headerStep_eq_longNumber_iff (s : State) {line : List Char} {n : Nat} :
    s.headerStep line = .error (.longNumber n) ↔
      s.isOpen = true ∧ ∃ h, Line.of line = .hunk h ∧ h.tooLong? = some n := by
  unfold headerStep
  cases Line.of line with
  | hunk h =>
    by_cases hopen : s.isOpen = true
    · simp [hopen, bind_eq_error_iff, Header.hunk_eq_error_iff, pure, Except.pure]
    · simp [hopen, refuse]
  | fileStart old new => simp
  | newFile => grind [refuse]
  | deletedFile => grind [refuse]
  | oldName name => simp
  | newName name => grind [refuse]
  | noLineEnd => grind [refuse]
  | blank => grind
  | binary old => grind
  | binaryPatch => grind [refuse]
  | other => simp

theorem State.step_eq_longNumber_iff {s : State} {line : List Char} {n : Nat} :
    s.step line = .error (.longNumber n) ↔
      s.hunk = none ∧ s.isOpen = true ∧ ∃ h, Line.of line = .hunk h ∧ h.tooLong? = some n := by
  unfold step
  cases hh : s.hunk with
  | some h =>
    simp only
    cases s.bodyStep h line with
    | error f => simp [Except.mapError]
    | ok t => simp [Except.mapError]
  | none =>
    simp only [true_and]
    exact s.headerStep_eq_longNumber_iff

/-- A text of which reading comes, outside of hunks and with a section open, to a hunk header with a number of `n`
digits, more than are allowed. -/
def StopsAtLongNumber (text : String) (n : Nat) : Prop :=
  ∃ before line after s h, linesOf text.toList = before ++ line :: after ∧ before.foldlM State.step {} = .ok s ∧
    s.hunk = none ∧ s.isOpen = true ∧ Line.of line = .hunk h ∧ h.tooLong? = some n

theorem sections_eq_longNumber_iff {text : String} {n : Nat} :
    sections text = .error (.longNumber n) ↔ StopsAtLongNumber text n := by
  have hfinish (s : State) : s.finish ≠ .error (.longNumber n) := by
    unfold State.finish
    grind
  unfold sections
  rw [bind_eq_error_iff, foldlM_eq_error_iff]
  constructor
  · rintro (⟨before, line, after, s, hlines, hs, hstep⟩ | ⟨s, -, hs⟩)
    · obtain ⟨hhunk, hopen, h, hline, hn⟩ := State.step_eq_longNumber_iff.mp hstep
      exact ⟨before, line, after, s, h, hlines, hs, hhunk, hopen, hline, hn⟩
    · exact absurd hs (hfinish s)
  · rintro ⟨before, line, after, s, h, hlines, hs, hhunk, hopen, hline, hn⟩
    have hstep := State.step_eq_longNumber_iff.mpr ⟨hhunk, hopen, h, hline, hn⟩
    exact .inl ⟨before, line, after, s, hlines, hs, hstep⟩

/-! ### Lines numbered zero -/

/-- Whether a line is added as line zero of the new text. -/
def Section.AddsLineZero (x : Section) : Prop :=
  x.binary = false ∧ ∃ b ∈ x.bodies, (Mark.added, 0) ∈ b.newLines

theorem pos_of_mem_runsFrom {ms : List Mark} {line : Nat} {run : Option (Nat × Nat)} (pos : ∀ r ∈ run, 0 < r.2) :
    ∀ r ∈ runsFrom line run ms, 0 < r.2 := by
  induction ms generalizing line run with
  | nil =>
    intro r hr
    exact pos r (Option.mem_toList.mp hr)
  | cons m ms ih =>
    cases m with
    | added =>
      cases run with
      | none =>
        refine ih ?_
        rintro _ ⟨⟩
        exact Nat.one_pos
      | some r =>
        refine ih ?_
        rintro _ ⟨⟩
        exact Nat.succ_pos _
    | context =>
      intro r hr
      rcases List.mem_append.mp hr with hr | hr
      · exact pos r (Option.mem_toList.mp hr)
      · exact ih (by simp) r hr
    | removed => exact ih pos
    | noLineEnd => exact ih pos

theorem hunkOf_eq_error_iff {start count : Nat} {f : Hunk.Fault} :
    Hunk.of start count = .error f ↔ start = 0 ∧ f = .startBelowOne 0 := by
  unfold Hunk.of
  by_cases h : start = 0
  · subst h
    simp [eq_comm]
  · have hpos : (1 : Int) ≤ start := by omega
    simp [h, hpos]

theorem Section.diff_eq_error_iff {x : Section} {f : Hunk.Fault} :
    x.diff = .error f ↔ (∃ b ∈ x.bodies, (Mark.added, 0) ∈ b.newLines) ∧ f = .startBelowOne 0 := by
  have hdiff : x.diff = do
      let hunks ← (x.bodies.flatMap Body.runs).mapM fun run => Hunk.of run.1 run.2
      return ⟨x.path, hunks⟩ := rfl
  have hall : x.diff = .error f ↔
      ((x.bodies.flatMap Body.runs).mapM fun run => Hunk.of run.1 run.2) = .error f := by
    rw [hdiff, bind_eq_error_iff]
    constructor
    · rintro (hfail | ⟨hunks, -, hfail⟩)
      · exact hfail
      · cases hfail
    · exact .inl
  rw [hall, mapM_eq_error_iff (fun _ _ h => (hunkOf_eq_error_iff.mp h).2)]
  refine and_congr_left fun _ => ?_
  constructor
  · rintro ⟨⟨start, count⟩, hrun, hfail⟩
    obtain ⟨b, hb, hrun⟩ := List.mem_flatMap.mp hrun
    have hstart : start = 0 := (hunkOf_eq_error_iff.mp hfail).1
    have hcount : 0 < count := pos_of_mem_runsFrom (by simp) _ hrun
    exact ⟨b, hb, Body.mem_runs_iff.mp ⟨(start, count), hrun, by omega, by omega⟩⟩
  · rintro ⟨b, hb, hzero⟩
    obtain ⟨⟨start, count⟩, hrun, hle, -⟩ := Body.mem_runs_iff.mpr hzero
    have hstart : start = 0 := Nat.le_zero.mp hle
    exact ⟨(start, count), List.mem_flatMap.mpr ⟨b, hb, hrun⟩, hunkOf_eq_error_iff.mpr ⟨hstart, rfl⟩⟩

/-! ### The errors of reading -/

/-- The faults for which a patch is refused without being called malformed. -/
inductive Escapes (text : String) : Hunk.Fault → Prop
  | lineZero {xs : List Section} {x : Section} (ok : sections text = .ok xs) (mem : x ∈ xs)
    (zero : x.AddsLineZero) : Escapes text (.startBelowOne 0)
  | longNumber {n : Nat} (stops : StopsAtLongNumber text n) : Escapes text (.longNumber n)

theorem escapes_iff {text : String} {f : Hunk.Fault} :
    Escapes text f ↔
      (f = .startBelowOne 0 ∧ ∃ xs, sections text = .ok xs ∧ ∃ x ∈ xs, x.AddsLineZero) ∨
      ∃ n, f = .longNumber n ∧ sections text = .error (.longNumber n) := by
  constructor
  · intro h
    cases h with
    | lineZero ok mem zero => exact .inl ⟨rfl, _, ok, _, mem, zero⟩
    | longNumber stops => exact .inr ⟨_, rfl, sections_eq_longNumber_iff.mpr stops⟩
  · rintro (⟨rfl, xs, ok, x, mem, zero⟩ | ⟨n, rfl, stops⟩)
    · exact .lineZero ok mem zero
    · exact .longNumber (sections_eq_longNumber_iff.mp stops)

theorem mapM_diff_eq_error_iff {xs : List Section} {e : Failure} :
    ((xs.filter (!·.binary)).mapM fun x => x.diff.mapError Failure.badHunk) = .error e ↔
      (∃ x ∈ xs, x.AddsLineZero) ∧ e = .badHunk (.startBelowOne 0) := by
  have hfail (x : Section) (e : Failure) : x.diff.mapError Failure.badHunk = .error e ↔
      (∃ b ∈ x.bodies, (Mark.added, 0) ∈ b.newLines) ∧ e = .badHunk (.startBelowOne 0) := by
    rw [mapError_eq_error_iff]
    simp only [Section.diff_eq_error_iff]
    constructor
    · rintro ⟨f, ⟨hzero, rfl⟩, rfl⟩
      exact ⟨hzero, rfl⟩
    · rintro ⟨hzero, rfl⟩
      exact ⟨_, ⟨hzero, rfl⟩, rfl⟩
  rw [mapM_eq_error_iff fun x e h => ((hfail x e).mp h).2]
  refine and_congr_left fun _ => ?_
  simp only [hfail, List.mem_filter, Section.AddsLineZero]
  grind

/-- A text is refused without being called malformed exactly for the two kinds of faults. -/
theorem read_eq_badHunk_iff {text : String} {f : Hunk.Fault} :
    read text = .error (.badHunk f) ↔ Escapes text f := by
  rw [escapes_iff]
  unfold read
  split
  · next hblank =>
    have hsections := sections_blank (List.isEmpty_iff.mp hblank)
    simp [hsections, pure, Except.pure]
  · rw [bind_eq_error_iff, mapError_eq_error_iff]
    simp only [mapError_eq_ok_iff, mapM_diff_eq_error_iff]
    constructor
    · rintro (⟨halt, hs, hf⟩ | ⟨xs, hs, hzero, hf⟩)
      · cases halt with
        | malformed fault => cases hf
        | longNumber n =>
          cases hf
          exact .inr ⟨n, rfl, hs⟩
      · cases hf
        exact .inl ⟨rfl, xs, hs, hzero⟩
    · rintro (⟨rfl, xs, hs, hzero⟩ | ⟨n, rfl, hs⟩)
      · exact .inr ⟨xs, hs, hzero, rfl⟩
      · exact .inl ⟨_, hs, rfl⟩

end Patch

/-! ### The errors of an analysis -/

namespace Analyzer

variable {σ ε δ : Type} [ToString ε] [ToString δ]

theorem error_analyze (a : Analyzer (StateM σ) ε δ) (memo : Memo) (ds : List RawDiff) (revision : Option String)
    (w : σ) : ((a.analyze memo ds revision).run w).1.report.error = none := by
  cases revision with
  | none => rfl
  | some r =>
    simp only [analyze]
    split
    · rfl
    · rfl

theorem outcome_analyzePatch (a : Analyzer (StateM σ) ε δ) (memo : Memo) (text : String) (revision : Option String)
    (w : σ) :
    ((a.analyzePatch memo text revision).run w).1 = match Patch.read text with
      | .ok ds => .ok ((a.analyze memo (ds.map FileDiff.raw) revision).run w).1
      | .error (.malformed f) =>
        .ok ⟨{ error := some f }, memo, [.badPatch (Patch.Failure.malformed f).message]⟩
      | .error (.badHunk f) => .error f := by
  unfold analyzePatch
  cases Patch.read text with
  | ok ds => rfl
  | error e =>
    cases e with
    | malformed f => rfl
    | badHunk f => rfl

/-- Reading a patch ends in an error that is no report of a malformed text exactly if a line is added as line zero or a
number has too many digits, and then this error leaves the analyzer as well. In all other cases, whatever sources cannot
be read, the analyzer gives an answer, and it reports a fault exactly if the patch is malformed by that fault. -/
theorem analyzePatch_answers_iff (a : Analyzer (StateM σ) ε δ) (memo : Memo) (text : String)
    (revision : Option String) (w : σ) :
    (∀ f, Patch.read text = .error (.badHunk f) ↔ Patch.Escapes text f) ∧
    (∀ f, ((a.analyzePatch memo text revision).run w).1 = .error f ↔ Patch.Escapes text f) ∧
    ((∃ answer, ((a.analyzePatch memo text revision).run w).1 = .ok answer ∧
        ∀ f, answer.report.error = some f ↔ Patch.read text = .error (.malformed f)) ↔
      ∀ f, ¬Patch.Escapes text f) := by
  refine ⟨fun f => Patch.read_eq_badHunk_iff, ?_⟩
  simp only [← Patch.read_eq_badHunk_iff, outcome_analyzePatch]
  cases Patch.read text with
  | ok ds => simp [error_analyze]
  | error e =>
    cases e with
    | malformed f => simp
    | badHunk f => simp

end Analyzer

/-- A patch that adds a line to an empty file and numbers it zero. -/
def Patch.zeroPatch : String := "--- a/x.js\n+++ b/x.js\n@@ -0,0 +0,1 @@\n+x\n"

/-- The numbers of the header are accepted, yet the error is none of a malformed patch. -/
theorem Patch.read_zeroPatch : Patch.read Patch.zeroPatch = .error (.badHunk (.startBelowOne 0)) := by
  have hs : sections zeroPatch = .ok [{ old := "a/x.js", new := "b/x.js", bodies := [⟨0, [.added]⟩] }] := by
    decide +kernel
  refine read_eq_badHunk_iff.mpr (.lineZero hs List.mem_cons_self ⟨rfl, ⟨0, [.added]⟩, List.mem_cons_self, ?_⟩)
  decide

end ChangeGraph
