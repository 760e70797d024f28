import ChangeGraph.Proofs.Analysis.Memo
import ChangeGraph.Proofs.Diff.ChangedLines
import ChangeGraph.Proofs.Graph.Extraction

/-!
# Failures of single files

A file that cannot be read or parsed takes no part in the graph, and no other file notices. So the graph is the one of
the files that were read and parsed, built with a parser that never fails, and a list of changed files may hold any
entries that add nothing.
-/

namespace ChangeGraph

/-! ### Entries that add nothing -/

/-- The elements of a list at the places that are kept, where places are counted from `k` on. -/
def keeping {α : Type} (keep : Nat → Bool) (k : Nat) (l : List α) : List α :=
  ((l.zipIdx k).filter fun x => keep x.2).map (·.1)

theorem keeping_cons {α : Type} (keep : Nat → Bool) (k : Nat) (a : α) (as : List α) :
    keeping keep k (a :: as) = if keep k then a :: keeping keep (k + 1) as else keeping keep (k + 1) as := by
  unfold keeping
  cases h : keep k with
  | true => simp [h]
  | false => simp [h]

section Idle

variable {ε : Type} (parse : String → String → Except ε SourceFile) (contents : String → Option String) (budget : Int)

/-- Why the entry `f` at the place `i` of a list of changed files adds nothing. -/
inductive Idle (fs : List ChangedFile) (i : Nat) (f : ChangedFile) : Prop
  | notParseable (h : isParseable f.path = false)
  | noContent (h : contents f.path = none)
  | unparsed {source : String} {fault : ExtractFault ε} (content : contents f.path = some source)
    (h : extractFile parse budget f source = .error fault)
  | repeated {j : Nat} {g : ChangedFile} (before : j < i) (entry : fs[j]? = some g) (path : g.path = f.path)
    (parsed : (extractOf? parse contents budget g).isSome = true)

variable {parse contents budget}

theorem Idle.cases {fs : List ChangedFile} {i : Nat} {f : ChangedFile} (h : Idle parse contents budget fs i f) :
    extractOf? parse contents budget f = none ∨
      ∃ j < i, ∃ g, fs[j]? = some g ∧ g.path = f.path ∧ (extractOf? parse contents budget g).isSome = true := by
  cases h with
  | notParseable h => exact .inl (by simp [extractOf?, h])
  | noContent h => exact .inl (by simp [extractOf?, h])
  | unparsed content h => exact .inl (by simp [extractOf?, content, h, Except.toOption])
  | repeated before entry path parsed => exact .inr ⟨_, before, _, entry, path, parsed⟩

end Idle

/-- Elements that give nothing, or nothing but a key that was met, may be left out. -/
theorem firstByKey_filterMap_keeping {α β : Type} {e : α → Option β} {key : β → String} {path : α → String}
    (keeps : ∀ a b, e a = some b → key b = path a) {keep : Nat → Bool} (l : List α) (k : Nat) (seen : List String)
    (idle : ∀ i a, l[i]? = some a → keep (k + i) = false → e a = none ∨ path a ∈ seen ∨
      ∃ j < i, ∃ b, l[j]? = some b ∧ path b = path a ∧ (e b).isSome = true) :
    firstByKey key seen ((keeping keep k l).filterMap e) = firstByKey key seen (l.filterMap e) := by
  induction l generalizing k seen with
  | nil => rfl
  | cons a as ih =>
    -- what was said of the tail with `a` before it, once the key of `a` is among those met
    have tail (seen' : List String) (sub : ∀ p ∈ seen, p ∈ seen') (met : (e a).isSome = true → path a ∈ seen') :
        ∀ i b, as[i]? = some b → keep (k + 1 + i) = false → e b = none ∨ path b ∈ seen' ∨
          ∃ j < i, ∃ c, as[j]? = some c ∧ path c = path b ∧ (e c).isSome = true := by
      intro i b hb hkeep
      have hplace : k + (i + 1) = k + 1 + i := by omega
      rcases idle (i + 1) b hb (hplace ▸ hkeep) with hnone | hseen | ⟨j, hj, c, hc, hpath, hsome⟩
      · exact .inl hnone
      · exact .inr (.inl (sub _ hseen))
      · cases j with
        | zero =>
          obtain rfl : a = c := Option.some.inj hc
          exact .inr (.inl (hpath ▸ met hsome))
        | succ j => exact .inr (.inr ⟨j, by omega, c, hc, hpath, hsome⟩)
    rw [keeping_cons]
    cases he : e a with
    | none =>
      have hrest := ih (k + 1) seen (tail seen (fun _ hp => hp) (by simp [he]))
      rw [List.filterMap_cons_none he]
      cases keep k with
      | true => rw [if_pos rfl, List.filterMap_cons_none he, hrest]
      | false => rw [if_neg Bool.false_ne_true, hrest]
    | some b =>
      have hkey : key b = path a := keeps a b he
      rw [List.filterMap_cons_some he]
      by_cases hseen : key b ∈ seen
      · have hrest := ih (k + 1) seen (tail seen (fun _ hp => hp) (fun _ => hkey ▸ hseen))
        rw [firstByKey_cons_seen key hseen]
        cases keep k with
        | true => rw [if_pos rfl, List.filterMap_cons_some he, firstByKey_cons_seen key hseen, hrest]
        | false => rw [if_neg Bool.false_ne_true, hrest]
      · have hrest := ih (k + 1) (key b :: seen)
          (tail _ (fun _ hp => List.mem_cons_of_mem _ hp) (fun _ => hkey ▸ List.mem_cons_self))
        rw [firstByKey_cons_new key hseen]
        cases hkeep : keep k with
        | true => rw [if_pos rfl, List.filterMap_cons_some he, firstByKey_cons_new key hseen, hrest]
        | false =>
          -- a first extract of its path is not idle
          rcases idle 0 a rfl hkeep with hnone | hmet | ⟨j, hj, -⟩
          · rw [he] at hnone
            cases hnone
          · exact absurd (hkey ▸ hmet) hseen
          · omega

theorem KeepsPath.extracts_keeping {ε : Type} {parse : String → String → Except ε SourceFile} (keeps : KeepsPath parse)
    {contents : String → Option String} {budget : Int} {fs : List ChangedFile} {keep : Nat → Bool}
    (idle : ∀ i f, fs[i]? = some f → keep i = false → Idle parse contents budget fs i f) :
    (extract parse contents budget (keeping keep 0 fs)).extracts = (extract parse contents budget fs).extracts := by
  rw [keeps.extracts_eq_firstByKey, keeps.extracts_eq_firstByKey]
  refine firstByKey_filterMap_keeping (fun f x hx => keeps.path_eq hx) fs 0 [] ?_
  intro i f hf hkeep
  rw [Nat.zero_add] at hkeep
  exact (idle i f hf hkeep).cases.imp_right .inr

/-! ### Parsers that never fail -/

/-- A parser that never fails and does what `parse` does wherever `parse` succeeds. -/
structure Completes {ε : Type} (whole : String → String → SourceFile) (parse : String → String → Except ε SourceFile) :
    Prop where
  keepsPath : ∀ source path, (whole source path).path = path
  agrees : ∀ source path file, parse source path = .ok file → whole source path = file

/-- A parser as one that could fail. -/
def unfailing (whole : String → String → SourceFile) (source path : String) : Except Empty SourceFile :=
  .ok (whole source path)

theorem Completes.keeps {ε : Type} {whole : String → String → SourceFile}
    {parse : String → String → Except ε SourceFile} (h : Completes whole parse) : KeepsPath (unfailing whole) := by
  intro source path file he
  cases he
  exact h.keepsPath source path

theorem KeepsPath.exists_completes {ε : Type} {parse : String → String → Except ε SourceFile}
    (keeps : KeepsPath parse) : ∃ whole, Completes whole parse := by
  let whole (source path : String) : SourceFile :=
    match parse source path with
    | .ok file => file
    | .error _ => .ofTree path source (.mk { kind := "program", start := ⟨0, 0⟩, stop := ⟨0, 0⟩ } [])
  refine ⟨whole, ?_, ?_⟩
  · intro source path
    cases h : parse source path with
    | ok file => simpa [whole, h] using keeps source path file h
    | error e => simp [whole, h, SourceFile.ofTree]
  · intro source path file h
    simp [whole, h]

section Completes

variable {ε : Type} {whole : String → String → SourceFile} {parse : String → String → Except ε SourceFile}
  {contents : String → Option String} {budget : Int}

theorem Completes.extractOf?_eq (h : Completes whole parse) {f : ChangedFile} {x : Extract}
    (hx : extractOf? parse contents budget f = some x) :
    extractOf? (unfailing whole) contents budget f = some x := by
  unfold extractOf? at hx ⊢
  split at hx
  · next hp =>
    obtain ⟨source, hsource, hx⟩ := Option.bind_eq_some_iff.mp hx
    obtain ⟨file, hfile, hx⟩ := bind_eq_ok_iff.mp (toOption_eq_some_iff.mp hx)
    obtain ⟨symbols, hsymbols, hx⟩ := bind_eq_ok_iff.mp hx
    cases hx
    have hwhole := h.agrees source f.path file (mapError_eq_ok_iff.mp hfile)
    rw [if_pos hp, hsource, Option.bind_some, toOption_eq_some_iff]
    refine bind_eq_ok_iff.mpr ⟨file, mapError_eq_ok_iff.mpr (congrArg Except.ok hwhole), ?_⟩
    exact bind_eq_ok_iff.mpr ⟨symbols, mapError_eq_ok_iff.mpr (mapError_eq_ok_iff.mp hsymbols), rfl⟩
  · cases hx

/-- Files with different paths give the extracts that those among them give that can be parsed. -/
theorem Completes.extracts_eq (h : Completes whole parse) (keeps : KeepsPath parse) {fs : List ChangedFile}
    (paths : (fs.map (·.path)).Nodup) :
    (extract parse contents budget fs).extracts = (extract (unfailing whole) contents budget
      (fs.filter fun f => (extractOf? parse contents budget f).isSome)).extracts := by
  have hsub : ((fs.filter fun f => (extractOf? parse contents budget f).isSome).map (·.path)).Nodup :=
    paths.sublist (List.filter_sublist.map _)
  rw [keeps.extracts_eq paths, h.keeps.extracts_eq hsub, List.filterMap_filter]
  apply List.filterMap_congr
  intro f _
  cases hf : extractOf? parse contents budget f with
  | none => rfl
  | some x => exact (h.extractOf?_eq hf).symm

end Completes

theorem extracts_congr {ε : Type} {parse : String → String → Except ε SourceFile} (keeps : KeepsPath parse)
    {contents contents' : String → Option String} {budget : Int} {fs : List ChangedFile}
    (same : ∀ f ∈ fs, contents f.path = contents' f.path) :
    (extract parse contents budget fs).extracts = (extract parse contents' budget fs).extracts := by
  rw [keeps.extracts_eq_firstByKey, keeps.extracts_eq_firstByKey]
  congr 1
  apply List.filterMap_congr
  intro f hf
  simp only [extractOf?, same f hf]

/-! ### Reading -/

section Loaded

variable {ε : Type} {outcome : String → Except ε String} {fs : List ChangedFile}

theorem lookup_loaded {p : String} (hp : p ∈ fs.map (·.path)) :
    (fs.map fun f => (f.path, outcome f.path)).lookup p = some (outcome p) := by
  induction fs with
  | nil => cases hp
  | cons f fs ih =>
    rw [List.map_cons, List.lookup_cons]
    by_cases he : p = f.path
    · simp [he]
    · have hne : (p == f.path) = false := beq_eq_false_iff_ne.mpr he
      rw [hne]
      exact ih ((List.mem_cons.mp hp).resolve_left he)

theorem contentsOf_loaded {p : String} (hp : p ∈ fs.map (·.path)) :
    contentsOf (fs.map fun f => (f.path, outcome f.path)) p = (outcome p).toOption := by
  rw [contentsOf, lookup_loaded hp]
  cases outcome p with
  | ok s => rfl
  | error e => rfl

theorem skippedOf_loaded :
    skippedOf (fs.map fun f => (f.path, outcome f.path)) =
      (fs.map (·.path)).filter fun p => !(outcome p).isOk := by
  rw [skippedOf, List.filter_map, List.map_map, List.filter_map]
  rfl

end Loaded

namespace Analyzer

variable {σ ε δ : Type} (a : Analyzer (StateM σ) ε δ)

/-- Where each path is read once, its outcome is the outcome of that reading. -/
theorem exists_outcome (revision : Option String) {fs : List ChangedFile} (paths : (fs.map (·.path)).Nodup) (w : σ) :
    ∃ outcome : String → Except ε String,
      ((a.load revision fs).run w).1 = fs.map fun f => (f.path, outcome f.path) := by
  induction fs generalizing w with
  | nil => exact ⟨fun _ => .ok "", rfl⟩
  | cons f fs ih =>
    rw [List.map_cons, List.nodup_cons] at paths
    obtain ⟨outcome, hload⟩ := ih paths.2 ((a.read f.path revision).run w).2
    refine ⟨Function.update outcome f.path ((a.read f.path revision).run w).1, ?_⟩
    rw [load_cons, hload, List.map_cons, Function.update_self]
    congr 1
    apply List.map_congr_left
    intro g hg
    have hne : g.path ≠ f.path := fun he => paths.1 (he ▸ List.mem_map_of_mem hg)
    rw [Function.update_of_ne hne]

variable [ToString ε] [ToString δ]

/-- Failures stay with their files. Without a revision an analysis always gives a report: it lists the files that could
not be read, it counts all files, and its graph is that of the files that were read and parsed, built with any parser
that never fails and agrees with the one at hand. And entries that add nothing can be taken out of any list of changed
files without a change to the graph. -/
theorem analyze_isolates (keeps : KeepsPath a.parse) :
    (∀ (memo : Memo) (ds : List RawDiff) (w : σ),
      let fs := ChangedFile.ofDiffs (ds.map RawDiff.valid)
      let files := parseableFiles fs
      let report := ((a.analyze memo ds none).run w).1.report
      ∃ outcome : String → Except ε String,
        ((a.load none files).run w).1 = files.map (fun f => (f.path, outcome f.path)) ∧
        report.skipped = (files.map (·.path)).filter (fun p => !(outcome p).isOk) ∧
        report.changedFiles = fs.length ∧ report.parseableFiles = files.length ∧ report.error = none ∧
        ∀ whole, Completes whole a.parse →
          let contents := fun p => (outcome p).toOption
          let parsed := files.filter fun f => (extractOf? a.parse contents a.options.maxSnippetLines f).isSome
          report.graph = (buildGraph (unfailing whole) a.options parsed contents).1) ∧
    (∃ whole, Completes whole a.parse) ∧
    ∀ (o : GraphOptions) (fs : List ChangedFile) (contents : String → Option String) (keep : Nat → Bool),
      (∀ i f, fs[i]? = some f → keep i = false → Idle a.parse contents o.maxSnippetLines fs i f) →
      (buildGraph a.parse o (keeping keep 0 fs) contents).1 = (buildGraph a.parse o fs contents).1 := by
  refine ⟨?_, keeps.exists_completes, ?_⟩
  · intro memo ds w fs files report
    have paths : (files.map (·.path)).Nodup :=
      (ChangedFile.nodup_paths_ofDiffs _).sublist (List.filter_sublist.map _)
    obtain ⟨outcome, hload⟩ := a.exists_outcome none paths w
    have hskipped : report.skipped = skippedOf ((a.load none files).run w).1 := rfl
    have hgraph : report.graph =
        (buildGraph a.parse a.options files (contentsOf ((a.load none files).run w).1)).1 := rfl
    refine ⟨outcome, hload, ?_, rfl, rfl, rfl, ?_⟩
    · rw [hskipped, hload, skippedOf_loaded]
    · intro whole completes contents parsed
      have hcontents : ∀ f ∈ files, contentsOf ((a.load none files).run w).1 f.path = contents f.path := by
        intro f hf
        rw [hload]
        exact contentsOf_loaded (List.mem_map_of_mem hf)
      have hextracts :
          (extract a.parse (contentsOf ((a.load none files).run w).1) a.options.maxSnippetLines files).extracts =
            (extract (unfailing whole) contents a.options.maxSnippetLines parsed).extracts :=
        (extracts_congr keeps hcontents).trans (completes.extracts_eq keeps paths)
      rw [hgraph]
      exact congrArg (fun xs => (plan a.options xs).graph a.options) hextracts
  · intro o fs contents keep idle
    exact congrArg (fun xs => (plan o xs).graph o) (keeps.extracts_keeping idle)

end Analyzer

namespace Sample

open ChangeGraph.Syntax

/-- The file `c.js` cannot be parsed, and the only function of `d.js` ends before it starts. -/
def parseShaky (source path : String) : Except String SourceFile :=
  if path = "c.js" then .error "boom"
  else if path = "d.js" then
    .ok (.ofLines path [""]
      (.mk { kind := "function_declaration", start := ⟨1, 0⟩, stop := ⟨0, 0⟩ } [name 0 "name" "f"]))
  else (parse source path).mapError fun _ => ""

theorem keepsPath_parseShaky : KeepsPath parseShaky := by
  intro source path file h
  unfold parseShaky at h
  split at h
  · cases h
  · split at h
    · cases h
      rfl
    · cases h
      rfl

def shaky : Analyzer (StateM Unit) String String where
  options := {}
  read path _ := return if path = "b.js" then .error "gone" else .ok ""
  parse := parseShaky

def shakyDiffs : List RawDiff :=
  ["b/d.js", "b/notes.txt", "b/b.js", "b/a.js", "b/c.js"].map fun path =>
    ⟨some path, [Hunk.toValue ⟨1, 1, Nat.one_pos⟩]⟩

/-- The entry at place 2 is the first one of a file that can be read and parsed; the last one repeats its path. -/
def shakyFiles : List ChangedFile :=
  ["d.js", "c.js", "a.js", "notes.txt", "b.js", "a.js"].map fun path => ⟨path, [LineRange.single 1]⟩

def shakyContents (path : String) : Option String := if path = "b.js" then none else some ""

theorem idle_shakyFiles (i : Nat) (f : ChangedFile) (hf : shakyFiles[i]? = some f) (hi : (i == 2) = false) :
    Idle parseShaky shakyContents 20 shakyFiles i f := by
  have hd : extractFile parseShaky 20 ⟨"d.js", [LineRange.single 1]⟩ "" = .error (.backward ⟨2, 1⟩) := rfl
  have hc : extractFile parseShaky 20 ⟨"c.js", [LineRange.single 1]⟩ "" = .error (.unreadable "boom") := rfl
  match i with
  | 0 => cases hf; exact .unparsed rfl hd
  | 1 => cases hf; exact .unparsed rfl hc
  | 2 => cases hi
  | 3 => cases hf; exact .notParseable (by decide)
  | 4 => cases hf; exact .noContent rfl
  | 5 => cases hf; exact .repeated (by decide : 2 < 5) rfl rfl (by decide)
  | n + 6 => cases hf

end Sample

/-- Of five changed files one cannot be read, one is no source and two cannot be parsed. -/
theorem analyze_isolates_sample :
    KeepsPath Sample.shaky.parse ∧
    ((Sample.shaky.analyze [] Sample.shakyDiffs none).run ()).1.report.skipped = ["b.js"] ∧
    ((Sample.shaky.analyze [] Sample.shakyDiffs none).run ()).1.report.graph.nodes.map (·.id) =
      ["a.js:f:1", "a.js:g:2", "a.js:k:3", "external:h"] ∧
    keeping (· == 2) 0 Sample.shakyFiles = [⟨"a.js", [LineRange.single 1]⟩] ∧
    (buildGraph Sample.shaky.parse {} [⟨"a.js", [LineRange.single 1]⟩] Sample.shakyContents).1 =
      (buildGraph Sample.shaky.parse {} Sample.shakyFiles Sample.shakyContents).1 := by
  obtain ⟨-, -, removed⟩ := Sample.shaky.analyze_isolates Sample.keepsPath_parseShaky
  refine ⟨Sample.keepsPath_parseShaky, by decide +kernel, by decide +kernel, rfl, ?_⟩
  exact removed {} Sample.shakyFiles Sample.shakyContents (· == 2) Sample.idle_shakyFiles

end ChangeGraph
