import Mathlib.Data.List.Find
import Mathlib.Data.List.Induction
import Mathlib.Data.String.Basic
import ChangeGraph.Proofs.Source.NameIndex

/-!
# Names and the order of files

A name means the first of the earliest symbols that answer to it. The earliest ones are all in one file, so that how
the symbols of different files are mixed has no influence on what a name means.
-/

namespace ChangeGraph

/-! ### Earliest elements -/

section Earliest

variable {α : Type} {before : α → α → Bool}

/-- Whether no element of a list comes before the given one. -/
def isEarliest (before : α → α → Bool) (l : List α) (a : α) : Bool := l.all fun b => !before b a

theorem isEarliest_iff {l : List α} {a : α} :
    isEarliest before l a = true ↔ ∀ b ∈ l, before b a = false := by
  simp [isEarliest]

theorem isEarliest_congr {l l' : List α} (h : ∀ a, a ∈ l ↔ a ∈ l') : isEarliest before l = isEarliest before l' := by
  funext a
  rw [Bool.eq_iff_iff, isEarliest_iff, isEarliest_iff]
  simp only [h]

theorem earliest_concat (l : List α) (b : α) :
    earliest before (l ++ [b]) = some (match earliest before l with
      | some best => if before b best then b else best
      | none => b) := by
  cases l with
  | nil => rfl
  | cons a as =>
    rw [List.cons_append, earliest, List.foldl_append]
    rfl

theorem irrefl_of_asymm (asymm : ∀ a b, before a b = true → before b a = false) (a : α) : before a a = false := by
  by_contra h
  have ha : before a a = true := Bool.eq_true_of_not_eq_false h
  exact h (asymm a a ha)

variable (asymm : ∀ a b, before a b = true → before b a = false)
  (weak : ∀ a b c, before a c = true → before a b = true ∨ before b c = true)

include asymm weak

theorem earliest_eq_find? (l : List α) : earliest before l = l.find? (isEarliest before l) := by
  have irrefl := irrefl_of_asymm asymm
  induction l using List.reverseRecOn with
  | nil => rfl
  | append_singleton l b ih =>
    rw [earliest_concat]
    cases hl : earliest before l with
    | none =>
      cases l with
      | nil => simp [isEarliest, irrefl]
      | cons a as => cases hl
    | some best =>
      rw [hl] at ih
      obtain ⟨hbest, as, bs, hsplit, has⟩ := List.find?_eq_some_iff_append.mp ih.symm
      rw [isEarliest_iff] at hbest
      symm
      by_cases hb : before b best = true
      · -- the new element comes before the best so far, and so before every element so far
        simp only [hb, if_true]
        have hall (a : α) (ha : a ∈ l) : before b a = true := by
          rcases weak b a best hb with h | h
          · exact h
          · rw [hbest a ha] at h
            cases h
        refine List.find?_eq_some_iff_append.mpr ⟨?_, l, [], rfl, ?_⟩
        · rw [isEarliest_iff]
          intro a ha
          rcases List.mem_append.mp ha with ha | ha
          · exact asymm b a (hall a ha)
          · rw [List.mem_singleton.mp ha]
            exact irrefl b
        · intro a ha
          rw [Bool.not_eq_true', Bool.eq_false_iff, ne_eq, isEarliest_iff]
          intro hnone
          have hfalse := hnone b (List.mem_append_right l List.mem_cons_self)
          rw [hall a ha] at hfalse
          cases hfalse
      · simp only [hb, if_false, Bool.false_eq_true]
        refine List.find?_eq_some_iff_append.mpr ⟨?_, as, bs ++ [b], by rw [hsplit]; simp, ?_⟩
        · rw [isEarliest_iff]
          intro a ha
          rcases List.mem_append.mp ha with ha | ha
          · exact hbest a ha
          · rw [List.mem_singleton.mp ha]
            exact Bool.eq_false_iff.mpr hb
        · -- what was not earliest before is not so among more elements
          intro a ha
          have hnot := has a ha
          rw [Bool.not_eq_true', Bool.eq_false_iff, ne_eq, isEarliest_iff] at hnot ⊢
          exact fun hnone => hnot fun c hc => hnone c (List.mem_append_left _ hc)

/-- Where elements of different keys never tie, only the order among the elements of each key counts. -/
theorem earliest_congr {κ : Type} [DecidableEq κ] (key : α → κ)
    (untied : ∀ a b, key a ≠ key b → before a b = true ∨ before b a = true) {l l' : List α}
    (same : ∀ k, l.filter (key · = k) = l'.filter (key · = k)) : earliest before l = earliest before l' := by
  have mem (a : α) : a ∈ l ↔ a ∈ l' := by
    have h : a ∈ l.filter (key · = key a) ↔ a ∈ l'.filter (key · = key a) := by rw [same]
    simpa using h
  rw [earliest_eq_find? asymm weak, earliest_eq_find? asymm weak, isEarliest_congr mem]
  -- all earliest elements have one key
  have onekey {m : List α} (hm : ∀ a, a ∈ m ↔ a ∈ l') {a b : α} (ha : a ∈ m) (hb : b ∈ m)
      (hea : isEarliest before l' a = true) (heb : isEarliest before l' b = true) : key b = key a := by
    by_contra hne
    rcases untied b a hne with h | h
    · rw [isEarliest_iff.mp hea b ((hm b).mp hb)] at h
      cases h
    · rw [isEarliest_iff.mp heb a ((hm a).mp ha)] at h
      cases h
  have within {m : List α} (hm : ∀ a, a ∈ m ↔ a ∈ l') {a : α} (ha : a ∈ l')
      (hea : isEarliest before l' a = true) :
      m.find? (isEarliest before l') = (m.filter (key · = key a)).find? (isEarliest before l') := by
    rw [List.find?_filter]
    apply List.find?_congr
    intro b hb
    by_cases heb : isEarliest before l' b = true
    · simp [heb, onekey hm ((hm a).mpr ha) hb hea heb]
    · simp [heb]
  cases hl : l'.find? (isEarliest before l') with
  | none =>
    rw [List.find?_eq_none] at hl ⊢
    exact fun a ha => hl a ((mem a).mp ha)
  | some a =>
    have hea : isEarliest before l' a = true := List.find?_some hl
    have ha : a ∈ l' := List.mem_of_find?_eq_some hl
    rw [within mem ha hea, same, ← within (fun _ => Iff.rfl) ha hea, hl]

end Earliest

/-! ### Symbols -/

namespace Symbol

theorem before_iff {a b : Symbol} :
    a.before b = true ↔ a.path < b.path ∨ (a.path = b.path ∧ a.range.first < b.range.first) := by
  simp [before]

theorem before_asymm (a b : Symbol) (h : a.before b = true) : b.before a = false := by
  rw [Bool.eq_false_iff, ne_eq, before_iff]
  rcases before_iff.mp h with hp | ⟨hp, hf⟩
  · rintro (hp' | ⟨hp', -⟩)
    · exact lt_asymm hp hp'
    · exact absurd hp'.symm (ne_of_lt hp)
  · rintro (hp' | ⟨-, hf'⟩)
    · exact absurd hp.symm (ne_of_lt hp')
    · omega

theorem before_weak (a b c : Symbol) (h : a.before c = true) : a.before b = true ∨ b.before c = true := by
  simp only [before_iff] at h ⊢
  rcases lt_trichotomy a.path b.path with hab | hab | hab
  · exact .inl (.inl hab)
  · rcases h with hp | ⟨hp, hf⟩
    · exact .inr (.inl (hab ▸ hp))
    · by_cases hfb : a.range.first < b.range.first
      · exact .inl (.inr ⟨hab, hfb⟩)
      · exact .inr (.inr ⟨hab ▸ hp, by omega⟩)
  · rcases h with hp | ⟨hp, -⟩
    · exact .inr (.inl (lt_trans hab hp))
    · exact .inr (.inl (hp ▸ hab))

theorem before_untied (a b : Symbol) (h : a.path ≠ b.path) : a.before b = true ∨ b.before a = true := by
  simp only [before_iff]
  rcases lt_or_gt_of_ne h with hp | hp
  · exact .inl (.inl hp)
  · exact .inr (.inl hp)

end Symbol

/-- What a name means depends only on the symbols of each file, in their order. -/
theorem resolve?_congr {ss ss' : List Symbol} (same : ∀ p, ss.filter (·.path = p) = ss'.filter (·.path = p))
    (callee caller : String) :
    (NameIndex.ofSymbols ss).resolve? callee caller = (NameIndex.ofSymbols ss').resolve? callee caller := by
  have hcandidates (p : String) : (ss.filter (·.answersTo callee)).filter (·.path = p) =
      (ss'.filter (·.answersTo callee)).filter (·.path = p) := by
    rw [List.filter_filter, List.filter_filter]
    simp only [Bool.and_comm (decide _)]
    rw [← List.filter_filter, ← List.filter_filter, same]
  have hown : (ss.filter (·.answersTo callee)).filter (·.path == caller) =
      (ss'.filter (·.answersTo callee)).filter (·.path == caller) := by
    simpa only [beq_eq_decide] using hcandidates caller
  unfold NameIndex.resolve?
  simp only [NameIndex.candidates_ofSymbols, hown]
  split
  · exact earliest_congr Symbol.before_asymm Symbol.before_weak (·.path) Symbol.before_untied hcandidates
  · rfl

end ChangeGraph
