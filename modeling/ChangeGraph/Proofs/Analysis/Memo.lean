import ChangeGraph.Analysis.Analyzer
import ChangeGraph.Proofs.Graph.Limits

/-!
# The memory of an analyzer

An analyzer is asked again and again while the sources change under it. At a fixed revision a source has one outcome for
good; without a revision its outcome may be another one each time. Then the reports are those of an analyzer that
remembers nothing.
-/

namespace ChangeGraph

namespace Analyzer

variable {σ ε δ : Type}

/-! ### Sources at a fixed revision -/

/-- At a fixed revision the outcome for a path is the same in all worlds. -/
def Pinned (a : Analyzer (StateM σ) ε δ) : Prop :=
  ∀ path revision w w', ((a.read path (some revision)).run w).1 = ((a.read path (some revision)).run w').1

theorem run_bind {α β : Type} (x : StateM σ α) (f : α → StateM σ β) (w : σ) :
    (x >>= f).run w = (f (x.run w).1).run (x.run w).2 := rfl

variable {a : Analyzer (StateM σ) ε δ}

theorem load_cons (revision : Option String) (f : ChangedFile) (fs : List ChangedFile) (w : σ) :
    ((a.load revision (f :: fs)).run w).1 =
      (f.path, ((a.read f.path revision).run w).1) ::
        ((a.load revision fs).run ((a.read f.path revision).run w).2).1 := by
  simp only [load, List.mapM_cons, bind_assoc, pure_bind]
  rfl

theorem Pinned.load_eq (pinned : a.Pinned) (revision : String) (fs : List ChangedFile) (w w' : σ) :
    ((a.load (some revision) fs).run w).1 = ((a.load (some revision) fs).run w').1 := by
  induction fs generalizing w w' with
  | nil => rfl
  | cons f fs ih => rw [load_cons, load_cons, pinned f.path revision w w', ih]

variable [ToString ε] [ToString δ]

/-! ### What is found and remembered -/

/-- What is found in a world. -/
def found (a : Analyzer (StateM σ) ε δ) (revision : Option String) (fs : List ChangedFile) (w : σ) : Finding :=
  ((a.find revision fs).run w).1.1

theorem Pinned.found_eq (pinned : a.Pinned) (revision : String) (fs : List ChangedFile) (w w' : σ) :
    a.found (some revision) fs w = a.found (some revision) fs w' := by
  simp only [found, find, run_bind]
  rw [pinned.load_eq revision fs w w']
  rfl

/-- Each entry is what would be found, whatever the world. -/
def Sound (a : Analyzer (StateM σ) ε δ) (memo : Memo) : Prop :=
  ∀ q f, (q, f) ∈ memo → ∀ w, a.found (some q.revision) q.files w = f

theorem sound_nil : a.Sound [] := by
  intro q f h
  cases h

theorem Pinned.sound_cons (pinned : a.Pinned) {memo : Memo} (sound : a.Sound memo) (q : Question) (w : σ) :
    a.Sound ((q, a.found (some q.revision) q.files w) :: memo) := by
  intro q' f h w'
  rcases List.mem_cons.mp h with heq | h
  · cases heq
    exact pinned.found_eq q.revision q.files w' w
  · exact sound q' f h w'

theorem mem_of_lookup {memo : Memo} {q : Question} {f : Finding} (h : memo.lookup q = some f) : (q, f) ∈ memo := by
  obtain ⟨l₁, l₂, rfl, -⟩ := List.lookup_eq_some_iff.mp h
  exact List.mem_append_right _ List.mem_cons_self

/-! ### One call -/

variable {memo : Memo}

/-- The report depends on the memory only through entries, and those are what would be found. -/
theorem report_analyze (sound : a.Sound memo) (ds : List RawDiff) (revision : Option String) (w : σ) :
    ((a.analyze memo ds revision).run w).1.report =
      report (ChangedFile.ofDiffs (ds.map RawDiff.valid))
        (a.found revision (parseableFiles (ChangedFile.ofDiffs (ds.map RawDiff.valid))) w) := by
  cases revision with
  | none => rfl
  | some r =>
    simp only [analyze]
    split
    · next f hf =>
      have hfound := sound _ _ (mem_of_lookup hf) w
      rw [hfound]
      rfl
    · rfl

theorem Pinned.sound_analyze (pinned : a.Pinned) (sound : a.Sound memo) (ds : List RawDiff)
    (revision : Option String) (w : σ) : a.Sound ((a.analyze memo ds revision).run w).1.memo := by
  cases revision with
  | none => exact sound
  | some r =>
    simp only [analyze]
    split
    · exact sound
    · exact pinned.sound_cons sound ⟨parseableFiles (ChangedFile.ofDiffs (ds.map RawDiff.valid)), r⟩ w

/-- A call of an analyzer, with the diffs of a change or with the text of a patch. -/
inductive Request where
  | diffs (ds : List RawDiff) (revision : Option String)
  | patch (text : String) (revision : Option String)

def serve (a : Analyzer (StateM σ) ε δ) (memo : Memo) : Request → StateM σ (Except Hunk.Fault Answer)
  | .diffs ds revision => do return .ok (← a.analyze memo ds revision)
  | .patch text revision => a.analyzePatch memo text revision

/-- The outcome of a call made in a world, and the memory after it. A call that fails leaves the memory alone. -/
def respond (a : Analyzer (StateM σ) ε δ) (memo : Memo) (world : σ) (q : Request) :
    Except Hunk.Fault Report × Memo :=
  match ((a.serve memo q).run world).1 with
  | .ok answer => (.ok answer.report, answer.memo)
  | .error f => (.error f, memo)

/-- A patch that can be read is a call with its diffs; the memory has no part in the outcome of any other patch. -/
theorem respond_patch (memo : Memo) (w : σ) (text : String) (revision : Option String) :
    a.respond memo w (.patch text revision) =
      match Patch.read text with
      | .ok ds => a.respond memo w (.diffs (ds.map FileDiff.raw) revision)
      | .error (.malformed f) => (.ok { error := some f }, memo)
      | .error (.badHunk f) => (.error f, memo) := by
  simp only [respond, serve, analyzePatch]
  cases Patch.read text with
  | ok ds => rfl
  | error e =>
    cases e with
    | malformed f => rfl
    | badHunk f => rfl

theorem respond_fst_eq (sound : a.Sound memo) (w : σ) (q : Request) :
    (a.respond memo w q).1 = (a.respond [] w q).1 := by
  have same (ds : List RawDiff) (revision : Option String) :
      ((a.analyze memo ds revision).run w).1.report = ((a.analyze [] ds revision).run w).1.report := by
    rw [report_analyze sound, report_analyze sound_nil]
  cases q with
  | diffs ds revision => exact congrArg Except.ok (same ds revision)
  | patch text revision =>
    rw [respond_patch, respond_patch]
    split
    · next ds _ => exact congrArg Except.ok (same (ds.map FileDiff.raw) revision)
    · rfl
    · rfl

theorem Pinned.sound_respond (pinned : a.Pinned) (sound : a.Sound memo) (w : σ) (q : Request) :
    a.Sound (a.respond memo w q).2 := by
  cases q with
  | diffs ds revision => exact pinned.sound_analyze sound ds revision w
  | patch text revision =>
    rw [respond_patch]
    split
    · next ds _ => exact pinned.sound_analyze sound (ds.map FileDiff.raw) revision w
    · exact sound
    · exact sound

/-! ### Many calls -/

/-- The outcomes of calls made one after the other, each in the world of its moment. -/
def session (a : Analyzer (StateM σ) ε δ) (memo : Memo) : List (σ × Request) → List (Except Hunk.Fault Report)
  | [] => []
  | (world, q) :: calls => (a.respond memo world q).1 :: session a (a.respond memo world q).2 calls

theorem Pinned.session_eq (pinned : a.Pinned) (sound : a.Sound memo) (calls : List (σ × Request)) :
    a.session memo calls = calls.map fun c => (a.respond [] c.1 c.2).1 := by
  induction calls generalizing memo with
  | nil => rfl
  | cons c calls ih =>
    obtain ⟨w, q⟩ := c
    rw [session, List.map_cons, respond_fst_eq sound, ih (pinned.sound_respond sound w q)]

/-- Calls made one after the other have the outcomes that each would have with nothing remembered. -/
theorem session_eq_fresh (a : Analyzer (StateM σ) ε δ) (pinned : a.Pinned) (calls : List (σ × Request)) :
    a.session [] calls = calls.map fun c => (a.respond [] c.1 c.2).1 :=
  pinned.session_eq sound_nil calls

end Analyzer

namespace Sample

/-- The working tree has its files or has none; every revision has all files. -/
def analyzer : Analyzer (StateM Bool) String Unit where
  options := {}
  read path revision := do
    let here ← get
    return if revision.isSome || here then .ok "" else .error path
  parse := parse

/-- Two files, and what is no hunk or has no path. -/
def diffs : List RawDiff :=
  [⟨some "b/a.js", [Hunk.toValue ⟨1, 1, by decide⟩, .null]⟩, ⟨some "b/notes.txt", [Hunk.toValue ⟨4, 2, by decide⟩]⟩,
    ⟨none, [Hunk.toValue ⟨12, 1, by decide⟩]⟩]

/-- The revisions are an empty one, none, and the empty one again; the files go away in between. -/
def calls : List (Bool × Analyzer.Request) :=
  [(true, .diffs diffs (some "")), (true, .diffs diffs none), (false, .patch "@@ -1 +1 @@\n" none),
    (false, .diffs diffs none), (false, .diffs (diffs.take 1) (some ""))]

end Sample

theorem session_eq_fresh_sample :
    Sample.analyzer.Pinned ∧
    ((Sample.analyzer.read "a.js" none).run true).1 ≠ ((Sample.analyzer.read "a.js" none).run false).1 ∧
    Sample.analyzer.session [] Sample.calls =
      Sample.calls.map fun c => (Sample.analyzer.respond [] c.1 c.2).1 := by
  have pinned : Sample.analyzer.Pinned := by
    intro path revision w w'
    rfl
  exact ⟨pinned, by decide, Analyzer.session_eq_fresh Sample.analyzer pinned Sample.calls⟩

end ChangeGraph
