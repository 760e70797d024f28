import ChangeGraph.Proofs.FirstByKey
import ChangeGraph.Proofs.Outcome

/-! # Kinds of the symbols of a file

A function that is found in a file is never one that stands for a function outside. -/

namespace ChangeGraph

open ChangeGraph.Syntax

theorem kind_of_sighting? {cls parent : Option String} {n : Node} {s : Sighting}
    (h : sighting? cls parent n = some s) : s.kind ≠ .external := by
  unfold sighting? at h
  split at h
  · cases h; exact nofun
  · cases h; exact nofun
  · split at h
    · cases h; exact nofun
    · cases h
  · obtain ⟨v, -, rfl⟩ := Option.map_eq_some_iff.mp h
    exact nofun
  · cases h

mutual

theorem kind_of_mem_sightings (cls parent : Option String) :
    ∀ (n : Node), ∀ s ∈ sightings cls parent n, s.kind ≠ .external
  | .mk l cs => by
    intro s hs
    rw [sightings, List.mem_append, Option.mem_toList] at hs
    rcases hs with hs | hs
    · exact kind_of_sighting? hs
    · split at hs
      · exact kind_of_mem_sightingsInBody _ cs s hs
      · exact kind_of_mem_sightingsAmong cls _ cs s hs

theorem kind_of_mem_sightingsAmong (cls parent : Option String) :
    ∀ (ns : List Node), ∀ s ∈ sightingsAmong cls parent ns, s.kind ≠ .external
  | [] => by
    intro s hs
    rw [sightingsAmong] at hs
    cases hs
  | n :: ns => by
    intro s hs
    rw [sightingsAmong, List.mem_append] at hs
    rcases hs with hs | hs
    · exact kind_of_mem_sightings cls parent n s hs
    · exact kind_of_mem_sightingsAmong cls parent ns s hs

theorem kind_of_mem_sightingsInBody (cls : String) :
    ∀ (ns : List Node), ∀ s ∈ sightingsInBody cls ns, s.kind ≠ .external
  | [] => by
    intro s hs
    rw [sightingsInBody] at hs
    cases hs
  | .mk l cs :: ns => by
    intro s hs
    rw [sightingsInBody] at hs
    split at hs
    · exact kind_of_mem_sightingsAmongNamed _ _ cs s hs
    · exact kind_of_mem_sightingsInBody cls ns s hs

theorem kind_of_mem_sightingsAmongNamed (cls parent : Option String) :
    ∀ (ns : List Node), ∀ s ∈ sightingsAmongNamed cls parent ns, s.kind ≠ .external
  | [] => by
    intro s hs
    rw [sightingsAmongNamed] at hs
    cases hs
  | n :: ns => by
    intro s hs
    rw [sightingsAmongNamed, List.mem_append] at hs
    rcases hs with hs | hs
    · split at hs
      · exact kind_of_mem_sightings cls parent n s hs
      · cases hs
    · exact kind_of_mem_sightingsAmongNamed cls parent ns s hs

end

/-- Every symbol of a file is the symbol of a function that was met on the walk. -/
theorem exists_sighting_of_mem_symbolsOf {file : SourceFile} {changed : List LineRange} {budget : Int}
    {ss : List Symbol} (h : symbolsOf file changed budget = .ok ss) {s : Symbol} (hs : s ∈ ss) :
    ∃ g ∈ sightings none none file.root, ∃ r, nodeRange g.node = .ok r ∧ s = g.symbol file changed budget r := by
  obtain ⟨all, hall, h⟩ := bind_eq_ok_iff.mp h
  cases h
  obtain ⟨g, hg, he⟩ := exists_mem_of_mapM_eq_ok hall (mem_of_mem_firstByKey hs)
  obtain ⟨r, hr, he⟩ := bind_eq_ok_iff.mp he
  cases he
  exact ⟨g, hg, r, hr, rfl⟩

theorem kind_of_mem_symbolsOf {file : SourceFile} {changed : List LineRange} {budget : Int} {ss : List Symbol}
    (h : symbolsOf file changed budget = .ok ss) {s : Symbol} (hs : s ∈ ss) : s.kind ≠ .external := by
  obtain ⟨g, hg, r, -, rfl⟩ := exists_sighting_of_mem_symbolsOf h hs
  exact kind_of_mem_sightings none none file.root g hg

section Extraction

variable {ε : Type} {parse : String → String → Except ε SourceFile} {contents : String → Option String} {budget : Int}

theorem symbolsOf_of_extractFile {f : ChangedFile} {source : String} {x : Extract}
    (h : extractFile parse budget f source = .ok x) : symbolsOf x.file f.ranges budget = .ok x.symbols := by
  obtain ⟨file, -, h⟩ := bind_eq_ok_iff.mp h
  obtain ⟨symbols, hs, h⟩ := bind_eq_ok_iff.mp h
  cases h
  exact mapError_eq_ok_iff.mp hs

/-- A changed file adds one extract at most, and at the end. -/
theorem Extraction.add_extracts (x : Extraction ε) (f : ChangedFile) :
    (x.add parse contents budget f).extracts = x.extracts ∨
      ∃ source e, contents f.path = some source ∧ extractFile parse budget f source = .ok e ∧
        (x.add parse contents budget f).extracts = x.extracts ++ [e] := by
  unfold Extraction.add
  split
  · exact .inl rfl
  · split
    · exact .inl rfl
    · rename_i source hsource
      split
      · rename_i e he
        exact .inr ⟨source, e, hsource, he, rfl⟩
      · exact .inl rfl

/-- Every extract holds the symbols of its file for the ranges of one of the changed files. -/
theorem exists_symbolsOf_of_mem_extract {fs : List ChangedFile} {x : Extract}
    (hx : x ∈ (extract parse contents budget fs).extracts) :
    ∃ f ∈ fs, symbolsOf x.file f.ranges budget = .ok x.symbols := by
  suffices hs : ∀ (gs : List ChangedFile) (y : Extraction ε), (∀ g ∈ gs, g ∈ fs) →
      (∀ e ∈ y.extracts, ∃ f ∈ fs, symbolsOf e.file f.ranges budget = .ok e.symbols) →
      ∀ e ∈ (gs.foldl (Extraction.add parse contents budget) y).extracts,
        ∃ f ∈ fs, symbolsOf e.file f.ranges budget = .ok e.symbols from
    hs fs {} (fun _ hg => hg) (fun _ he => absurd he List.not_mem_nil) x hx
  intro gs
  induction gs with
  | nil => exact fun _ _ hy => hy
  | cons g gs ih =>
    intro y hg hy
    rw [List.foldl_cons]
    refine ih _ (fun f hf => hg f (List.mem_cons_of_mem _ hf)) ?_
    intro e he
    rcases y.add_extracts g with h | ⟨source, e', -, he', h⟩
    · rw [h] at he
      exact hy e he
    · rw [h, List.mem_append, List.mem_singleton] at he
      rcases he with he | rfl
      · exact hy e he
      · exact ⟨g, hg g List.mem_cons_self, symbolsOf_of_extractFile he'⟩

end Extraction

end ChangeGraph
