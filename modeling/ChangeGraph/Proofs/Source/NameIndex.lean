import Mathlib.Data.List.TakeWhile
import ChangeGraph.Source.NameIndex

/-! # What a name stands for

The bucket of a name holds exactly the symbols that answer to it, in order. So a call resolves to one of the symbols
that were filed, or to nothing if none of them answers to its name. -/

namespace ChangeGraph

/-- A symbol answers to its name and, as a member of a named class, to its bare name. -/
def Symbol.answersTo (s : Symbol) (name : String) : Bool := s.name == name || s.bareName? == some name

theorem Symbol.dot_notMem_bareName {s : Symbol} {bare : String} (h : s.bareName? = some bare) :
    '.' ∉ bare.toList := by
  unfold Symbol.bareName? at h
  split at h
  · cases h
    rw [String.toList_ofList, List.mem_reverse]
    intro hm
    have := List.mem_takeWhile_imp hm
    exact absurd this (by decide)
  · cases h

/-- A symbol is never filed twice under one name: its name has a dot if it has a bare name, which has none. -/
theorem Symbol.bareName_ne_name {s : Symbol} {bare : String} (h : s.bareName? = some bare) : bare ≠ s.name := by
  intro he
  have hd := Symbol.dot_notMem_bareName h
  unfold Symbol.bareName? at h
  split at h
  case isTrue hc =>
    rw [Bool.and_eq_true, List.contains_iff_mem] at hc
    exact hd (he ▸ hc.2)
  case isFalse => cases h

namespace NameIndex

theorem candidates_file (index : NameIndex) (n name : String) (s : Symbol) :
    (index.file n s).candidates name =
      if n = name then index.candidates name ++ [s] else index.candidates name := by
  induction index with
  | nil =>
    by_cases h : n = name
    · subst h
      simp [file, candidates]
    · have hn : (name == n) = false := beq_eq_false_iff_ne.mpr (Ne.symm h)
      simp [file, candidates, List.lookup_cons, hn, h]
  | cons entry rest ih =>
    obtain ⟨m, ss⟩ := entry
    simp only [candidates] at ih ⊢
    by_cases hm : m = n
    · subst hm
      by_cases h : m = name
      · subst h
        simp [file]
      · have hn : (name == m) = false := beq_eq_false_iff_ne.mpr (Ne.symm h)
        simp [file, List.lookup_cons, hn, h]
    · have hmn : (m == n) = false := beq_eq_false_iff_ne.mpr hm
      simp only [file, hmn, Bool.false_eq_true, ite_false, List.lookup_cons]
      by_cases h : name = m
      · subst h
        simp [Ne.symm hm]
      · have hn : (name == m) = false := beq_eq_false_iff_ne.mpr h
        rw [hn]
        exact ih

theorem candidates_add (index : NameIndex) (s : Symbol) (name : String) :
    (index.add s).candidates name = index.candidates name ++ if s.answersTo name then [s] else [] := by
  unfold add Symbol.answersTo
  cases hb : s.bareName? with
  | none =>
    simp only [candidates_file]
    by_cases h : s.name = name <;> simp [h]
  | some bare =>
    simp only [candidates_file]
    by_cases h : s.name = name
    · have hne : bare ≠ name := h ▸ Symbol.bareName_ne_name hb
      simp [h, hne]
    · by_cases hbare : bare = name <;> simp [h, hbare]

theorem candidates_ofSymbols (ss : List Symbol) (name : String) :
    (ofSymbols ss).candidates name = ss.filter (·.answersTo name) := by
  suffices h : ∀ index : NameIndex, (ss.foldl add index).candidates name =
      index.candidates name ++ ss.filter (·.answersTo name) from h []
  induction ss with
  | nil => intro index; rw [List.filter_nil, List.append_nil]; rfl
  | cons s ss ih =>
    intro index
    rw [List.foldl_cons, ih, candidates_add, List.append_assoc, List.filter_cons]
    by_cases h : s.answersTo name = true
    · simp only [h, ite_true, List.singleton_append]
    · simp only [h, Bool.false_eq_true, ite_false, List.nil_append]

end NameIndex

theorem earliest_mem {α : Type} {before : α → α → Bool} {l : List α} {a : α} (h : earliest before l = some a) :
    a ∈ l := by
  cases l with
  | nil => cases h
  | cons b bs =>
    -- the best so far is an element that was met
    suffices hs : ∀ (cs : List α) (best : α), best ∈ b :: bs → (∀ c ∈ cs, c ∈ b :: bs) →
        cs.foldl (fun best c => if before c best then c else best) best ∈ b :: bs by
      cases h
      exact hs bs b List.mem_cons_self (fun c hc => List.mem_cons_of_mem _ hc)
    intro cs
    induction cs with
    | nil => exact fun best hb _ => hb
    | cons c cs ih =>
      intro best hb hc
      rw [List.foldl_cons]
      refine ih _ ?_ (fun d hd => hc d (List.mem_cons_of_mem _ hd))
      split
      · exact hc c List.mem_cons_self
      · exact hb

/-- A name means one of the symbols at hand. -/
theorem mem_of_resolve? {ss : List Symbol} {callee caller : String} {t : Symbol}
    (h : (NameIndex.ofSymbols ss).resolve? callee caller = some t) : t ∈ ss := by
  have hm := earliest_mem h
  rw [NameIndex.candidates_ofSymbols] at hm
  split at hm
  · exact (List.mem_filter.mp hm).1
  · exact (List.mem_filter.mp (List.mem_filter.mp hm).1).1

end ChangeGraph
