import ChangeGraph.Proofs.Analysis.Isolation

/-!
# What an analyzer reads

The sources are read for a question that was not asked before, and for every call without a revision. So the readings of
a call follow from the calls before it alone, whatever the sources held. The memory has an entry for a question if and
only if a call before has asked it.
-/

namespace ChangeGraph

namespace Analyzer

/-- A path and the revision that it is read at. -/
abbrev Reading := String × Option String

namespace Request

def revision : Request → Option String
  | diffs _ r => r
  | patch _ r => r

/-- The diffs that a call is about. A patch that cannot be read is about none. -/
def diffs? : Request → Option (List FileDiff)
  | diffs ds _ => some (ds.map RawDiff.valid)
  | patch text _ => (Patch.read text).toOption

def question? (q : Request) : Option Question :=
  q.diffs?.bind fun ds => q.revision.map fun r => ⟨parseableFiles (ChangedFile.ofDiffs ds), r⟩

end Request

variable {σ ε δ : Type}

/-- The same analyzer, which takes down its readings beside the world. -/
def recorded (a : Analyzer (StateM σ) ε δ) : Analyzer (StateM (σ × List Reading)) ε δ where
  options := a.options
  read path revision := fun s =>
    ((a.read path revision s.1).1, (a.read path revision s.1).2, s.2 ++ [(path, revision)])
  parse := a.parse

section Recorded

variable (a : Analyzer (StateM σ) ε δ)

theorem run_load_cons (revision : Option String) (f : ChangedFile) (fs : List ChangedFile) (w : σ) :
    ((a.load revision (f :: fs)).run w).2 =
      ((a.load revision fs).run ((a.read f.path revision).run w).2).2 := by
  simp only [load, List.mapM_cons, bind_assoc, pure_bind]
  rfl

theorem load_recorded (revision : Option String) (fs : List ChangedFile) (w : σ) (rs : List Reading) :
    (a.recorded.load revision fs).run (w, rs) =
      (((a.load revision fs).run w).1, ((a.load revision fs).run w).2, rs ++ fs.map fun f => (f.path, revision)) := by
  induction fs generalizing w rs with
  | nil =>
    rw [List.map_nil, List.append_nil]
    rfl
  | cons f fs ih =>
    have hread : (a.recorded.read f.path revision).run (w, rs) =
        (((a.read f.path revision).run w).1, ((a.read f.path revision).run w).2, rs ++ [(f.path, revision)]) := rfl
    refine Prod.ext ?_ ?_
    · rw [load_cons, load_cons, hread, ih]
    · rw [run_load_cons, run_load_cons, hread, ih]
      simp

variable [ToString ε] [ToString δ]

theorem find_recorded (revision : Option String) (fs : List ChangedFile) (w : σ) (rs : List Reading) :
    (a.recorded.find revision fs).run (w, rs) =
      (((a.find revision fs).run w).1, ((a.find revision fs).run w).2, rs ++ fs.map fun f => (f.path, revision)) := by
  simp only [find, run_bind, load_recorded]
  rfl

/-- Taking down the readings changes no answer. What is read is all or nothing. -/
theorem analyze_recorded (memo : Memo) (ds : List RawDiff) (revision : Option String) (w : σ) (rs : List Reading) :
    let files := parseableFiles (ChangedFile.ofDiffs (ds.map RawDiff.valid))
    (a.recorded.analyze memo ds revision).run (w, rs) =
      (((a.analyze memo ds revision).run w).1, ((a.analyze memo ds revision).run w).2,
        rs ++ if revision.any fun r => (memo.lookup ⟨files, r⟩).isSome then []
          else files.map fun f => (f.path, revision)) := by
  cases revision with
  | none =>
    simp only [analyze, run_bind, find_recorded]
    rfl
  | some r =>
    cases hlookup : memo.lookup ⟨parseableFiles (ChangedFile.ofDiffs (ds.map RawDiff.valid)), r⟩ with
    | some finding =>
      simp only [analyze, hlookup, Option.any_some, Option.isSome_some, if_true, List.append_nil]
      rfl
    | none =>
      simp only [analyze, hlookup, run_bind, find_recorded, Option.any_some, Option.isSome_none, Bool.false_eq_true,
        if_false]
      rfl

/-! ### One call -/

/-- What is read while a call is answered. -/
def readings (memo : Memo) (w : σ) (q : Request) : List Reading := ((a.recorded.serve memo q).run (w, [])).2.2

theorem readings_eq (memo : Memo) (w : σ) (q : Request) :
    a.readings memo w q =
      match q.diffs? with
      | none => []
      | some ds =>
        let files := parseableFiles (ChangedFile.ofDiffs ds)
        if q.revision.any fun r => (memo.lookup ⟨files, r⟩).isSome then []
        else files.map fun f => (f.path, q.revision) := by
  have hdiffs (ds : List RawDiff) (revision : Option String) :=
    congrArg (·.2.2) (a.analyze_recorded memo ds revision w [])
  cases q with
  | diffs ds revision => exact hdiffs ds revision
  | patch text revision =>
    cases htext : Patch.read text with
    | ok ds =>
      have hpatch := hdiffs (ds.map FileDiff.raw) revision
      rw [FileDiff.map_valid_raw] at hpatch
      simp only [readings, serve, analyzePatch, Request.diffs?, htext]
      exact hpatch
    | error e =>
      simp only [readings, serve, analyzePatch, Request.diffs?, htext]
      cases e <;> rfl

theorem respond_of_diffs?_eq_some (memo : Memo) (w : σ) {q : Request} {ds : List FileDiff} (h : q.diffs? = some ds) :
    a.respond memo w q = a.respond memo w (.diffs (ds.map FileDiff.raw) q.revision) := by
  cases q with
  | diffs ds' revision =>
    cases h
    simp only [respond, serve, analyze, FileDiff.map_valid_raw]
    rfl
  | patch text revision =>
    rw [respond_patch, toOption_eq_some_iff.mp h]
    rfl

/-- A patch that cannot be read has one outcome, and nothing is remembered of it. -/
theorem exists_respond_of_diffs?_eq_none {q : Request} (h : q.diffs? = none) :
    ∃ outcome, ∀ {τ : Type} (b : Analyzer (StateM τ) ε δ) (memo : Memo) (w : τ),
      b.respond memo w q = (outcome, memo) := by
  cases q with
  | diffs ds revision => cases h
  | patch text revision =>
    cases htext : Patch.read text with
    | ok ds => simp [Request.diffs?, htext, Except.toOption] at h
    | error e =>
      cases e with
      | malformed f => exact ⟨.ok { error := some f }, fun b memo w => by rw [respond_patch, htext]⟩
      | badHunk f => exact ⟨.error f, fun b memo w => by rw [respond_patch, htext]⟩

theorem respond_recorded (memo : Memo) (w : σ) (rs : List Reading) (q : Request) :
    a.recorded.respond memo (w, rs) q = a.respond memo w q := by
  cases h : q.diffs? with
  | none =>
    obtain ⟨outcome, hrespond⟩ := exists_respond_of_diffs?_eq_none (ε := ε) (δ := δ) h
    rw [hrespond, hrespond]
  | some ds =>
    rw [respond_of_diffs?_eq_some _ memo _ h, respond_of_diffs?_eq_some _ memo _ h]
    exact congrArg (fun x => (Except.ok x.1.report, x.1.memo))
      (a.analyze_recorded memo (ds.map FileDiff.raw) q.revision w rs)

theorem lookup_analyze (memo : Memo) (ds : List RawDiff) (revision : Option String) (w : σ) (x : Question) :
    (((a.analyze memo ds revision).run w).1.memo.lookup x).isSome =
      ((memo.lookup x).isSome ||
        (revision.map fun r => ⟨parseableFiles (ChangedFile.ofDiffs (ds.map RawDiff.valid)), r⟩) == some x) := by
  cases revision with
  | none =>
    have hkept : ((a.analyze memo ds none).run w).1.memo = memo := rfl
    simp [hkept]
  | some r =>
    rw [Option.map_some]
    generalize hfiles : parseableFiles (ChangedFile.ofDiffs (ds.map RawDiff.valid)) = files
    cases hlookup : memo.lookup ⟨files, r⟩ with
    | some finding =>
      have hkept : ((a.analyze memo ds (some r)).run w).1.memo = memo := by
        simp only [analyze, hfiles, hlookup]
        rfl
      rw [hkept]
      by_cases hx : x = ⟨files, r⟩
      · simp [hx, hlookup]
      · simp [Ne.symm hx]
    | none =>
      obtain ⟨finding, hadded⟩ :
          ∃ finding, ((a.analyze memo ds (some r)).run w).1.memo = (⟨files, r⟩, finding) :: memo := by
        simp only [analyze, hfiles, hlookup]
        exact ⟨_, rfl⟩
      rw [hadded, List.lookup_cons]
      by_cases hx : x = ⟨files, r⟩
      · simp [hx]
      · simp [Ne.symm hx, beq_false_of_ne hx]

/-- A call leaves an entry for its own question and keeps those that are there. -/
theorem lookup_respond (memo : Memo) (w : σ) (q : Request) (x : Question) :
    ((a.respond memo w q).2.lookup x).isSome = ((memo.lookup x).isSome || q.question? == some x) := by
  cases h : q.diffs? with
  | none =>
    obtain ⟨outcome, hrespond⟩ := exists_respond_of_diffs?_eq_none (ε := ε) (δ := δ) h
    simp [hrespond, Request.question?, h]
  | some ds =>
    rw [respond_of_diffs?_eq_some a memo w h, Request.question?, h]
    have hlookup := a.lookup_analyze memo (ds.map FileDiff.raw) q.revision w x
    rw [FileDiff.map_valid_raw] at hlookup
    exact hlookup

/-! ### Many calls -/

/-- What calls read and how they end, made one after the other, each in the world of its moment. -/
def trace (memo : Memo) : List (σ × Request) → List (List Reading × Except Hunk.Fault Report)
  | [] => []
  | (w, q) :: calls =>
    (a.readings memo w q, (a.recorded.respond memo (w, []) q).1) :: trace (a.recorded.respond memo (w, []) q).2 calls

theorem trace_cons (memo : Memo) (c : σ × Request) (calls : List (σ × Request)) :
    a.trace memo (c :: calls) =
      (a.readings memo c.1 c.2, (a.respond memo c.1 c.2).1) :: a.trace (a.respond memo c.1 c.2).2 calls := by
  obtain ⟨w, q⟩ := c
  rw [trace, respond_recorded]

def remembered (memo : Memo) (calls : List (σ × Request)) : Memo :=
  calls.foldl (fun m c => (a.respond m c.1 c.2).2) memo

theorem length_trace (memo : Memo) (calls : List (σ × Request)) : (a.trace memo calls).length = calls.length := by
  induction calls generalizing memo with
  | nil => rfl
  | cons c calls ih => simp [trace_cons, ih]

theorem map_snd_trace (memo : Memo) (calls : List (σ × Request)) :
    (a.trace memo calls).map (·.2) = a.session memo calls := by
  induction calls generalizing memo with
  | nil => rfl
  | cons c calls ih => simp [trace_cons, session, ih]

theorem trace_append (memo : Memo) (calls later : List (σ × Request)) :
    a.trace memo (calls ++ later) = a.trace memo calls ++ a.trace (a.remembered memo calls) later := by
  induction calls generalizing memo with
  | nil => rfl
  | cons c calls ih => simp [trace_cons, remembered, ih]

theorem lookup_remembered (memo : Memo) (calls : List (σ × Request)) (x : Question) :
    ((a.remembered memo calls).lookup x).isSome =
      ((memo.lookup x).isSome || calls.any fun c => c.2.question? == some x) := by
  induction calls generalizing memo with
  | nil => simp [remembered]
  | cons c calls ih =>
    have hstep : a.remembered memo (c :: calls) = a.remembered (a.respond memo c.1 c.2).2 calls := rfl
    rw [hstep, ih, lookup_respond, List.any_cons, Bool.or_assoc]

end Recorded

/-- What a call has to read after others: each parseable file of its change once, in order, unless it has a revision and
a call before had the same one and the same files with the same ranges. -/
def due (before : List (σ × Request)) (q : Request) : List Reading :=
  match q.diffs? with
  | none => []
  | some ds =>
    if q.revision.isSome && before.any fun c => c.2.question? == q.question? then []
    else (parseableFiles (ChangedFile.ofDiffs ds)).map fun f => (f.path, q.revision)

section Due

variable [ToString ε] [ToString δ] (a : Analyzer (StateM σ) ε δ)

theorem readings_remembered (before : List (σ × Request)) (w : σ) (q : Request) :
    a.readings (a.remembered [] before) w q = due before q := by
  rw [readings_eq, due]
  cases hds : q.diffs? with
  | none => rfl
  | some ds =>
    cases hrevision : q.revision with
    | none => rfl
    | some r =>
      have hquestion : q.question? = some ⟨parseableFiles (ChangedFile.ofDiffs ds), r⟩ := by
        simp [Request.question?, hds, hrevision]
      simp only [Option.any_some, lookup_remembered, hquestion]
      rfl

omit [ToString ε] [ToString δ] in
theorem due_sublist {before : List (σ × Request)} {q : Request} {ds : List FileDiff} (h : q.diffs? = some ds) :
    (due before q).Sublist ((parseableFiles (ChangedFile.ofDiffs ds)).map fun f => (f.path, q.revision)) := by
  rw [due, h]
  simp only
  split
  · exact List.nil_sublist _
  · exact List.Sublist.refl _

theorem nodup_due (before : List (σ × Request)) (q : Request) : (due before q).Nodup := by
  cases h : q.diffs? with
  | none => simp [due, h]
  | some ds =>
    have hpaths : ((parseableFiles (ChangedFile.ofDiffs ds)).map (·.path)).Nodup :=
      (ChangedFile.nodup_paths_ofDiffs ds).sublist (List.filter_sublist.map _)
    refine List.Nodup.sublist (due_sublist h) (List.Nodup.of_map (·.1) ?_)
    rwa [List.map_map]

theorem isParseable_of_mem_due {before : List (σ × Request)} {q : Request} {x : Reading} (hx : x ∈ due before q) :
    isParseable x.1 = true := by
  cases h : q.diffs? with
  | none => simp [due, h] at hx
  | some ds =>
    obtain ⟨f, hf, rfl⟩ := List.mem_map.mp ((due_sublist h).subset hx)
    exact (List.mem_filter.mp hf).2

/-- In every run of calls each one reads what is due after the calls before it: no file twice, and none that is not
parseable. A patch that cannot be read has no part in what the others read and answer. -/
theorem trace_reads_due (before after : List (σ × Request)) (w : σ) (q : Request) :
    (∃ outcome, (a.trace [] (before ++ (w, q) :: after))[before.length]? = some (due before q, outcome)) ∧
    (due before q).Nodup ∧ (∀ x ∈ due before q, isParseable x.1 = true) ∧
    (a.trace [] (before ++ (w, q) :: after)).map (·.2) = a.session [] (before ++ (w, q) :: after) ∧
    (q.diffs? = none →
      (a.trace [] (before ++ (w, q) :: after)).eraseIdx before.length = a.trace [] (before ++ after)) := by
  have htrace : a.trace [] (before ++ (w, q) :: after) = a.trace [] before ++
      (due before q, (a.respond (a.remembered [] before) w q).1) ::
        a.trace (a.respond (a.remembered [] before) w q).2 after := by
    rw [trace_append, trace_cons, readings_remembered]
  have hlength := a.length_trace [] before
  refine ⟨⟨(a.respond (a.remembered [] before) w q).1, ?_⟩, nodup_due before q, fun x hx => isParseable_of_mem_due hx,
    a.map_snd_trace [] _, fun hnone => ?_⟩
  · rw [htrace, List.getElem?_append_right hlength.le, hlength, Nat.sub_self]
    rfl
  · obtain ⟨outcome, hrespond⟩ := exists_respond_of_diffs?_eq_none (ε := ε) (δ := δ) hnone
    rw [htrace, hrespond, List.eraseIdx_append_of_length_le hlength.le, hlength, Nat.sub_self, trace_append]
    rfl

end Due

end Analyzer

/-- Of the five calls the third is a patch that cannot be read, and the last asks the question of the first again. -/
theorem trace_reads_due_sample :
    Sample.calls = Sample.calls.take 2 ++ (false, .patch "@@ -1 +1 @@\n" none) :: Sample.calls.drop 3 ∧
    (Analyzer.Request.patch "@@ -1 +1 @@\n" none).diffs? = none ∧
    (Sample.analyzer.trace [] Sample.calls).map (·.1) =
      [[("a.js", some "")], [("a.js", none)], [], [("a.js", none)], []] ∧
    (Sample.analyzer.trace [] Sample.calls).eraseIdx 2 =
      Sample.analyzer.trace [] (Sample.calls.take 2 ++ Sample.calls.drop 3) := by
  have hnone : (Analyzer.Request.patch "@@ -1 +1 @@\n" none).diffs? = none := by decide +kernel
  obtain ⟨-, -, -, -, herase⟩ := Sample.analyzer.trace_reads_due (Sample.calls.take 2) (Sample.calls.drop 3) false
    (.patch "@@ -1 +1 @@\n" none)
  exact ⟨rfl, hnone, by decide +kernel, herase hnone⟩

end ChangeGraph
