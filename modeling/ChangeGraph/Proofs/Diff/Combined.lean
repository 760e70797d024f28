import Mathlib.Data.List.Induction
import ChangeGraph.Proofs.Diff.ChangedLines
import ChangeGraph.Proofs.LineRange.Separated
import ChangeGraph.Proofs.Outcome

/-!
# Diffs put together

Diffs come from outside: a path may be missing, and anything may stand in the place of a hunk. Each path that has a
changed line is listed once, where the first diff changes it, with the lines that all diffs add to it. What is no hunk
has no part in this.
-/

namespace ChangeGraph

open LineRange

/-! ### Hunks from outside -/

/-- Whether a value is a table that holds the first line and the number of lines of a hunk. -/
def Hunk.Describes (v : Value) (start count : Int) : Prop :=
  ∃ es, v = .table es ∧ es.lookup "start_line" = some (.int start) ∧ es.lookup "line_count" = some (.int count) ∧
    1 ≤ start ∧ 0 ≤ count

theorem Hunk.integer_eq_ok_iff {key : String} {v : Value} {n : Int} : Hunk.integer key v = .ok n ↔ v = .int n := by
  cases v <;> simp [Hunk.integer]

theorem Hunk.of_eq_ok_iff {start count : Int} {h : Hunk} :
    Hunk.of start count = .ok h ↔ 1 ≤ start ∧ 0 ≤ count ∧ (h.start : Int) = start ∧ (h.count : Int) = count := by
  obtain ⟨s, c, positive⟩ := h
  unfold Hunk.of
  split
  · split
    · simp only [Except.ok.injEq, Hunk.mk.injEq]
      omega
    · simp only [reduceCtorEq, false_iff]
      omega
  · simp only [reduceCtorEq, false_iff]
    omega

theorem Hunk.ofValue_eq_ok_iff {v : Value} {h : Hunk} : Hunk.ofValue v = .ok h ↔ Hunk.Describes v h.start h.count := by
  cases v with
  | table es =>
    have hkeys : Hunk.ofValue (.table es) = .ok h ↔ ∃ s c, es.lookup Hunk.startKey = some s ∧
        es.lookup Hunk.countKey = some c ∧ ∃ start, Hunk.integer Hunk.startKey s = .ok start ∧
          ∃ count, Hunk.integer Hunk.countKey c = .ok count ∧ Hunk.of start count = .ok h := by
      rw [Hunk.ofValue]
      split
      · next s c hs hc => simp only [hs, hc, Option.some.injEq, exists_and_left, exists_eq_left', bind_eq_ok_iff]
      · next hmissing =>
        simp only [reduceCtorEq, false_iff]
        rintro ⟨s, c, hs, hc, -⟩
        exact hmissing s c hs hc
    simp only [hkeys, Hunk.integer_eq_ok_iff, Hunk.of_eq_ok_iff, Hunk.Describes, Hunk.startKey, Hunk.countKey]
    constructor
    · rintro ⟨s, c, hs, hc, start, rfl, count, rfl, hstart, hcount, rfl, rfl⟩
      exact ⟨es, rfl, hs, hc, hstart, hcount⟩
    · rintro ⟨es', he, hs, hc, hstart, hcount⟩
      cases he
      exact ⟨_, _, hs, hc, _, rfl, _, rfl, hstart, hcount, rfl, rfl⟩
  | _ => simp [Hunk.ofValue, Hunk.Describes]

namespace RawDiff

/-- Whether a diff has a hunk of at least one line, under a path. -/
def Changes (d : RawDiff) (p : String) : Prop :=
  (∃ path, d.path = some path ∧ FileDiff.Names path p) ∧
    ∃ v ∈ d.hunks, ∃ start count, Hunk.Describes v start count ∧ 1 ≤ count

/-- Whether a line is one of those that the hunks of a diff have, under a path. -/
def AddsLine (d : RawDiff) (p : String) (line : Int) : Prop :=
  (∃ path, d.path = some path ∧ FileDiff.Names path p) ∧
    ∃ v ∈ d.hunks, ∃ start count, Hunk.Describes v start count ∧ start ≤ line ∧ line ≤ start + count - 1

/-- The first diff that changes a path has the number `i`. -/
def FirstAt (ds : List RawDiff) (p : String) (i : Nat) : Prop :=
  ∃ before d after, ds = before ++ d :: after ∧ before.length = i ∧ d.Changes p ∧ ∀ e ∈ before, ¬e.Changes p

theorem mem_hunks_valid {d : RawDiff} {h : Hunk} :
    h ∈ d.valid.hunks ↔ ∃ v ∈ d.hunks, Hunk.Describes v h.start h.count := by
  simp only [valid, List.mem_filterMap, toOption_eq_some_iff, Hunk.ofValue_eq_ok_iff]

theorem covers_ranges_valid {d : RawDiff} {line : Int} :
    Covers d.valid.ranges line ↔
      ∃ v ∈ d.hunks, ∃ start count, Hunk.Describes v start count ∧ start ≤ line ∧ line ≤ start + count - 1 := by
  rw [FileDiff.covers_ranges]
  constructor
  · rintro ⟨h, hmem, hstart, hend⟩
    obtain ⟨v, hv, hdescribes⟩ := mem_hunks_valid.mp hmem
    exact ⟨v, hv, h.start, h.count, hdescribes, hstart, by omega⟩
  · rintro ⟨v, hv, start, count, hdescribes, hstart, hend⟩
    obtain ⟨-, -, -, -, hone, hzero⟩ := id hdescribes
    have hs : (start.toNat : Int) = start := Int.toNat_of_nonneg (by omega)
    have hc : (count.toNat : Int) = count := Int.toNat_of_nonneg hzero
    refine ⟨⟨start.toNat, count.toNat, by omega⟩, mem_hunks_valid.mpr ⟨v, hv, ?_⟩, ?_⟩
    · rw [← hs, ← hc] at hdescribes
      exact hdescribes
    · simp only [hs, hc]
      omega

/-- Every range has a line, so there is a range exactly if a line is covered. -/
theorem ranges_valid_ne_nil_iff {d : RawDiff} :
    d.valid.ranges ≠ [] ↔ ∃ v ∈ d.hunks, ∃ start count, Hunk.Describes v start count ∧ 1 ≤ count := by
  constructor
  · intro hne
    obtain ⟨r, hr⟩ := List.exists_mem_of_ne_nil _ hne
    obtain ⟨v, hv, start, count, hdescribes, hstart, hend⟩ :=
      covers_ranges_valid.mp ⟨r, hr, mem_def.mpr ⟨Int.le_refl r.first, r.ordered⟩⟩
    exact ⟨v, hv, start, count, hdescribes, by omega⟩
  · rintro ⟨v, hv, start, count, hdescribes, hone⟩ hnil
    have hcovers : Covers d.valid.ranges start :=
      covers_ranges_valid.mpr ⟨v, hv, start, count, hdescribes, Int.le_refl start, by omega⟩
    rw [hnil] at hcovers
    exact not_covers_nil start hcovers

theorem plainPath_valid_iff {d : RawDiff} {p : String} (hp : p ≠ "") :
    FileDiff.plainPath d.valid.path = p ↔ ∃ path, d.path = some path ∧ FileDiff.Names path p := by
  rw [FileDiff.plainPath_eq_iff]
  cases hpath : d.path with
  | some path => simp [valid, hpath]
  | none =>
    have hempty : FileDiff.plainPath "" ≠ p := Ne.symm hp
    rw [Ne, FileDiff.plainPath_eq_iff] at hempty
    simp [valid, hpath, hempty]

theorem changes_iff {d : RawDiff} {p : String} (hp : p ≠ "") :
    d.Changes p ↔ FileDiff.plainPath d.valid.path = p ∧ d.valid.ranges ≠ [] := by
  rw [Changes, plainPath_valid_iff hp, ranges_valid_ne_nil_iff]

theorem addsLine_iff {d : RawDiff} {p : String} (hp : p ≠ "") {line : Int} :
    d.AddsLine p line ↔ FileDiff.plainPath d.valid.path = p ∧ Covers d.valid.ranges line := by
  rw [AddsLine, plainPath_valid_iff hp, covers_ranges_valid]

theorem firstAt_append {ds : List RawDiff} {p : String} {i : Nat} (h : FirstAt ds p i) (es : List RawDiff) :
    FirstAt (ds ++ es) p i := by
  obtain ⟨before, d, after, rfl, hi, hd, hbefore⟩ := h
  exact ⟨before, d, after ++ es, by rw [List.append_assoc, List.cons_append], hi, hd, hbefore⟩

theorem exists_firstAt {ds : List RawDiff} {p : String} (h : ∃ d ∈ ds, d.Changes p) :
    ∃ i, i < ds.length ∧ FirstAt ds p i := by
  induction ds with
  | nil =>
    obtain ⟨d, hd, -⟩ := h
    cases hd
  | cons d ds ih =>
    by_cases hd : d.Changes p
    · exact ⟨0, by simp, [], d, ds, rfl, rfl, hd, fun e he => absurd he List.not_mem_nil⟩
    · have hrest : ∃ e ∈ ds, e.Changes p := by
        obtain ⟨e, he, hc⟩ := h
        rcases List.mem_cons.mp he with rfl | he
        · exact absurd hc hd
        · exact ⟨e, he, hc⟩
      obtain ⟨i, hi, before, e, after, rfl, hlen, he, hbefore⟩ := ih hrest
      refine ⟨i + 1, by rw [List.length_cons]; omega, d :: before, e, after, rfl, ?_, he, ?_⟩
      · rw [List.length_cons, hlen]
      intro x hx
      rcases List.mem_cons.mp hx with rfl | hx
      · exact hd
      · exact hbefore x hx

end RawDiff

namespace ChangedFile

open RawDiff (FirstAt)

/-! ### One more diff -/

theorem addDiff_of_changes (fs : List ChangedFile) {d : RawDiff} {p : String} (hp : p ≠ "") (h : d.Changes p) :
    addDiff fs d.valid = add p d.valid.ranges fs := by
  obtain ⟨hpath, hranges⟩ := (RawDiff.changes_iff hp).mp h
  simp only [addDiff, hpath, String.isEmpty_iff, List.isEmpty_iff, hp, hranges, Bool.or_eq_true, or_self, if_false]

theorem addDiff_of_not_changes (fs : List ChangedFile) {d : RawDiff} (h : ∀ p ≠ "", ¬d.Changes p) :
    addDiff fs d.valid = fs := by
  simp only [addDiff, String.isEmpty_iff, List.isEmpty_iff, Bool.or_eq_true, ite_eq_left_iff]
  intro hboth
  obtain ⟨hpath, hranges⟩ := not_or.mp hboth
  exact absurd ((RawDiff.changes_iff hpath).mpr ⟨rfl, hranges⟩) (h _ hpath)

/-- The paths that diffs change, each once, by the first diff that changes them. -/
structure Lists (ds : List RawDiff) (ps : List String) : Prop where
  mem : ∀ p, p ∈ ps ↔ p ≠ "" ∧ ∃ d ∈ ds, d.Changes p
  order : ps.Pairwise fun p q => ∃ i j, FirstAt ds p i ∧ FirstAt ds q j ∧ i < j

theorem Lists.keep {ds : List RawDiff} {ps : List String} (h : Lists ds ps) {d : RawDiff}
    (old : ∀ p ≠ "", d.Changes p → p ∈ ps) : Lists (ds ++ [d]) ps where
  mem p := by
    simp only [h.mem p, List.mem_append, List.mem_singleton, or_and_right, exists_or, exists_eq_left]
    constructor
    · rintro ⟨hp, hc⟩
      exact ⟨hp, .inl hc⟩
    · rintro ⟨hp, hc | hc⟩
      · exact ⟨hp, hc⟩
      · exact (h.mem p).mp (old p hp hc)
  order := h.order.imp fun ⟨i, j, hi, hj, hlt⟩ => ⟨i, j, RawDiff.firstAt_append hi _, RawDiff.firstAt_append hj _, hlt⟩

theorem Lists.append {ds : List RawDiff} {ps : List String} (h : Lists ds ps) {d : RawDiff} {p : String} (hp : p ≠ "")
    (changes : d.Changes p) (new : p ∉ ps) : Lists (ds ++ [d]) (ps ++ [p]) where
  mem q := by
    have honly : q ≠ "" → (d.Changes q ↔ q = p) := by
      intro hq
      constructor
      · intro hc
        rw [RawDiff.changes_iff hq] at hc
        rw [RawDiff.changes_iff hp] at changes
        exact hc.1.symm.trans changes.1
      · rintro rfl
        exact changes
    simp only [List.mem_append, List.mem_singleton, h.mem q, or_and_right, exists_or, exists_eq_left]
    constructor
    · rintro (⟨hq, hc⟩ | rfl)
      · exact ⟨hq, .inl hc⟩
      · exact ⟨hp, .inr changes⟩
    · rintro ⟨hq, hc | hc⟩
      · exact .inl ⟨hq, hc⟩
      · exact .inr ((honly hq).mp hc)
  order := by
    have hfirst : FirstAt (ds ++ [d]) p ds.length := by
      refine ⟨ds, d, [], rfl, rfl, changes, fun e he hc => ?_⟩
      exact new ((h.mem p).mpr ⟨hp, e, he, hc⟩)
    refine List.pairwise_append.mpr ⟨?_, List.pairwise_singleton _ _, ?_⟩
    · exact h.order.imp fun ⟨i, j, hi, hj, hlt⟩ =>
        ⟨i, j, RawDiff.firstAt_append hi _, RawDiff.firstAt_append hj _, hlt⟩
    · intro q hq r hr
      obtain ⟨i, hi, hfirst'⟩ := RawDiff.exists_firstAt ((h.mem q).mp hq).2
      exact ⟨i, ds.length, RawDiff.firstAt_append hfirst' _, List.mem_singleton.mp hr ▸ hfirst, hi⟩

theorem Lists.addDiff {ds : List RawDiff} {fs : List ChangedFile} (h : Lists ds (fs.map (·.path))) (d : RawDiff) :
    Lists (ds ++ [d]) ((addDiff fs d.valid).map (·.path)) := by
  by_cases hnone : ∀ p ≠ "", ¬d.Changes p
  · rw [addDiff_of_not_changes fs hnone]
    exact h.keep fun p hp hc => absurd hc (hnone p hp)
  · push Not at hnone
    obtain ⟨p, hp, hchanges⟩ := hnone
    rw [addDiff_of_changes fs hp hchanges, paths_add]
    split
    · next old =>
      refine h.keep fun q hq hc => ?_
      rw [RawDiff.changes_iff hq] at hc
      rw [RawDiff.changes_iff hp] at hchanges
      rw [hc.1.symm.trans hchanges.1]
      exact old
    · next new => exact h.append hp hchanges new

/-! ### All diffs -/

theorem lists_foldl_addDiff (ds : List RawDiff) :
    Lists ds (((ds.map RawDiff.valid).foldl addDiff []).map (·.path)) := by
  induction ds using List.reverseRecOn with
  | nil => exact ⟨fun p => by simp, List.Pairwise.nil⟩
  | append_singleton ds d ih =>
    rw [List.map_append, List.foldl_append]
    exact ih.addDiff d

theorem lists_ofDiffs (ds : List RawDiff) : Lists ds ((ofDiffs (ds.map RawDiff.valid)).map (·.path)) := by
  rw [ofDiffs, List.map_map]
  exact lists_foldl_addDiff ds

theorem separated_of_mem_ofDiffs {ds : List FileDiff} {f : ChangedFile} (hf : f ∈ ofDiffs ds) : Separated f.ranges := by
  obtain ⟨g, -, rfl⟩ := List.mem_map.mp hf
  exact separated_merge g.ranges

theorem covers_of_mem_ofDiffs {ds : List RawDiff} {f : ChangedFile} (hf : f ∈ ofDiffs (ds.map RawDiff.valid))
    {line : Int} : Covers f.ranges line ↔ ∃ d ∈ ds, d.AddsLine f.path line := by
  have hp : f.path ≠ "" := (((lists_ofDiffs ds).mem f.path).mp (List.mem_map_of_mem hf)).1
  rw [← rangesFor_of_mem (nodup_paths_ofDiffs _) hf, covers_rangesFor_ofDiffs hp]
  simp only [List.mem_map, exists_exists_and_eq_and, RawDiff.addsLine_iff hp]

/-- Something that is no hunk is dropped wherever it stands. -/
theorem ofDiffs_of_not_describes (before after : List RawDiff) (path : Option String) (left right : List Value)
    {v : Value} (hv : ∀ start count, ¬Hunk.Describes v start count) :
    ofDiffs ((before ++ ⟨path, left ++ v :: right⟩ :: after).map RawDiff.valid) =
      ofDiffs ((before ++ ⟨path, left ++ right⟩ :: after).map RawDiff.valid) := by
  have hnone : (Hunk.ofValue v).toOption = none := by
    rw [Option.eq_none_iff_forall_ne_some]
    intro h hsome
    exact hv _ _ (Hunk.ofValue_eq_ok_iff.mp (toOption_eq_some_iff.mp hsome))
  simp only [List.map_append, List.map_cons, RawDiff.valid, List.filterMap_append, List.filterMap_cons, hnone]

/-- The changed lines of diffs from outside. The paths listed are those that are not empty and that some diff changes,
in the order of the first diffs that change them, each once. The ranges of a path are in order and apart, begin at line
one or later and cover the lines that all diffs add under that path. What is no hunk can be left out. -/
theorem ofDiffs_combines (ds : List RawDiff) :
    let fs := ofDiffs (ds.map RawDiff.valid)
    (∀ p, p ∈ fs.map (·.path) ↔ p ≠ "" ∧ ∃ d ∈ ds, d.Changes p) ∧
    (fs.map (·.path)).Nodup ∧
    (fs.map (·.path)).Pairwise (fun p q => ∃ i j, FirstAt ds p i ∧ FirstAt ds q j ∧ i < j) ∧
    (∀ f ∈ fs, Separated f.ranges ∧ (∀ r ∈ f.ranges, 1 ≤ r.first ∧ r.first ≤ r.last) ∧
      ∀ line, Covers f.ranges line ↔ ∃ d ∈ ds, d.AddsLine f.path line) ∧
    ∀ before after path left v right, ds = before ++ ⟨path, left ++ v :: right⟩ :: after →
      (∀ start count, ¬Hunk.Describes v start count) →
      ofDiffs ((before ++ ⟨path, left ++ right⟩ :: after).map RawDiff.valid) = fs := by
  intro fs
  have hlists : Lists ds (fs.map (·.path)) := lists_ofDiffs ds
  refine ⟨hlists.mem, nodup_paths_ofDiffs _, hlists.order, fun f hf => ?_, ?_⟩
  · refine ⟨separated_of_mem_ofDiffs hf, fun r hr => ⟨?_, r.ordered⟩, fun line => covers_of_mem_ofDiffs hf⟩
    obtain ⟨d, -, -, v, -, start, count, ⟨-, -, -, -, hone, -⟩, hstart, -⟩ :=
      (covers_of_mem_ofDiffs hf).mp ⟨r, hr, mem_def.mpr ⟨Int.le_refl r.first, r.ordered⟩⟩
    exact Int.le_trans hone hstart
  · rintro before after path left v right rfl hv
    exact (ofDiffs_of_not_describes before after path left right hv).symm

end ChangedFile

end ChangeGraph
