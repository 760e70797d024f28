import Mathlib.Data.List.Nodup
import ChangeGraph.Graph.Build

/-! # First elements of a key

`firstByKey` keeps an element unless its key was seen. The kept elements have distinct keys, every key of the list that
was not seen before is still there, and what is kept for a key is the first element of the list with it. -/

namespace ChangeGraph

section

variable {α : Type} (key : α → String) {seen : List String} {l : List α} {a : α}

theorem firstByKey_cons_seen (h : key a ∈ seen) : firstByKey key seen (a :: l) = firstByKey key seen l := by
  simp only [firstByKey, List.contains_iff_mem, h, ite_true]

theorem firstByKey_cons_new (h : key a ∉ seen) :
    firstByKey key seen (a :: l) = a :: firstByKey key (key a :: seen) l := by
  simp only [firstByKey, List.contains_iff_mem, h, ite_false]

theorem firstByKey_sublist : (firstByKey key seen l).Sublist l := by
  induction l generalizing seen with
  | nil => exact List.Sublist.refl []
  | cons a as ih =>
    by_cases h : key a ∈ seen
    · rw [firstByKey_cons_seen key h]
      exact ih.cons a
    · rw [firstByKey_cons_new key h]
      exact ih.cons_cons a

variable {key}

theorem mem_of_mem_firstByKey (h : a ∈ firstByKey key seen l) : a ∈ l :=
  (firstByKey_sublist key).subset h

theorem key_notMem_of_mem_firstByKey (h : a ∈ firstByKey key seen l) : key a ∉ seen := by
  induction l generalizing seen with
  | nil => cases h
  | cons b as ih =>
    by_cases hb : key b ∈ seen
    · rw [firstByKey_cons_seen key hb] at h
      exact ih h
    · rw [firstByKey_cons_new key hb] at h
      rcases List.mem_cons.mp h with rfl | h
      · exact hb
      · exact fun hs => ih h (List.mem_cons_of_mem _ hs)

variable (key)

theorem exists_mem_firstByKey (h : a ∈ l) (hs : key a ∉ seen) : ∃ b ∈ firstByKey key seen l, key b = key a := by
  induction l generalizing seen with
  | nil => cases h
  | cons c as ih =>
    by_cases hc : key c ∈ seen
    · rw [firstByKey_cons_seen key hc]
      rcases List.mem_cons.mp h with rfl | h
      · exact absurd hc hs
      · exact ih h hs
    · rw [firstByKey_cons_new key hc]
      by_cases hk : key a = key c
      · exact ⟨c, List.mem_cons_self, hk.symm⟩
      · rcases List.mem_cons.mp h with rfl | h
        · exact absurd rfl hk
        · have hs' : key a ∉ key c :: seen := by simp only [List.mem_cons, hk, hs, or_self, not_false_eq_true]
          obtain ⟨b, hb, he⟩ := ih h hs'
          exact ⟨b, List.mem_cons_of_mem _ hb, he⟩

theorem nodup_map_firstByKey : ((firstByKey key seen l).map key).Nodup := by
  induction l generalizing seen with
  | nil => exact List.nodup_nil
  | cons a as ih =>
    by_cases h : key a ∈ seen
    · rw [firstByKey_cons_seen key h]
      exact ih
    · rw [firstByKey_cons_new key h, List.map_cons, List.nodup_cons]
      refine ⟨?_, ih⟩
      intro hm
      obtain ⟨b, hb, he⟩ := List.mem_map.mp hm
      exact key_notMem_of_mem_firstByKey hb (he ▸ List.mem_cons_self)

variable {key}

/-- What is kept for a key is the first element with it. -/
theorem find?_of_mem_firstByKey (h : a ∈ firstByKey key seen l) : l.find? (fun b => key b == key a) = some a := by
  induction l generalizing seen with
  | nil => cases h
  | cons b as ih =>
    by_cases hb : key b ∈ seen
    · rw [firstByKey_cons_seen key hb] at h
      have hne : (key b == key a) = false := by
        rw [beq_eq_false_iff_ne]
        exact fun he => key_notMem_of_mem_firstByKey h (he ▸ hb)
      rw [List.find?_cons, hne]
      exact ih h
    · rw [firstByKey_cons_new key hb] at h
      rcases List.mem_cons.mp h with rfl | h
      · rw [List.find?_cons, beq_self_eq_true]
      · have hne : (key b == key a) = false := by
          rw [beq_eq_false_iff_ne]
          exact fun he => key_notMem_of_mem_firstByKey h (he ▸ List.mem_cons_self)
        rw [List.find?_cons, hne]
        exact ih h

/-- Where all keys are new and different, nothing is left out. -/
theorem firstByKey_eq_self (new : ∀ a ∈ l, key a ∉ seen) (nodup : (l.map key).Nodup) : firstByKey key seen l = l := by
  induction l generalizing seen with
  | nil => rfl
  | cons a as ih =>
    rw [List.map_cons, List.nodup_cons] at nodup
    rw [firstByKey_cons_new key (new a List.mem_cons_self), ih ?_ nodup.2]
    intro b hb hm
    rcases List.mem_cons.mp hm with he | hm
    · exact nodup.1 (he ▸ List.mem_map_of_mem hb)
    · exact new b (List.mem_cons_of_mem a hb) hm

/-- The keys seen so far count as a set. -/
theorem firstByKey_congr {seen' : List String} (h : ∀ s, s ∈ seen ↔ s ∈ seen') :
    firstByKey key seen l = firstByKey key seen' l := by
  induction l generalizing seen seen' with
  | nil => rfl
  | cons a as ih =>
    by_cases ha : key a ∈ seen
    · rw [firstByKey_cons_seen key ha, firstByKey_cons_seen key ((h _).mp ha), ih h]
    · have h' : ∀ s, s ∈ key a :: seen ↔ s ∈ key a :: seen' := fun s => by rw [List.mem_cons, List.mem_cons, h s]
      rw [firstByKey_cons_new key ha, firstByKey_cons_new key (mt (h _).mpr ha), ih h']

theorem firstByKey_append {l' : List α} :
    firstByKey key seen (l ++ l') = firstByKey key seen l ++ firstByKey key (l.map key ++ seen) l' := by
  induction l generalizing seen with
  | nil => rfl
  | cons a as ih =>
    rw [List.cons_append, List.map_cons]
    by_cases ha : key a ∈ seen
    · have h : ∀ s, s ∈ as.map key ++ seen ↔ s ∈ key a :: as.map key ++ seen := by
        intro s
        simp only [List.cons_append, List.mem_cons, List.mem_append]
        constructor
        · exact .inr
        · rintro (rfl | hs)
          · exact .inr ha
          · exact hs
      rw [firstByKey_cons_seen key ha, firstByKey_cons_seen key ha, ih, firstByKey_congr h]
    · have h : ∀ s, s ∈ as.map key ++ key a :: seen ↔ s ∈ key a :: as.map key ++ seen := by
        intro s
        simp only [List.cons_append, List.mem_cons, List.mem_append, or_left_comm]
      rw [firstByKey_cons_new key ha, firstByKey_cons_new key ha, ih, firstByKey_congr h]
      rfl

/-- A test on which elements with one key agree may be made before the choice or after it. -/
theorem filter_firstByKey {p : α → Bool} (h : ∀ a ∈ l, ∀ b ∈ l, key a = key b → p a = p b) :
    (firstByKey key [] l).filter p = firstByKey key [] (l.filter p) := by
  -- seen keys of elements that fail the test may be forgotten
  suffices hs : ∀ seen seen', (∀ a ∈ l, p a = true → (key a ∈ seen ↔ key a ∈ seen')) →
      (firstByKey key seen l).filter p = firstByKey key seen' (l.filter p) from hs [] [] (fun _ _ _ => Iff.rfl)
  induction l with
  | nil => intro seen seen' _; rfl
  | cons a as ih =>
    intro seen seen' hseen
    have has : ∀ b ∈ as, ∀ c ∈ as, key b = key c → p b = p c := fun b hb c hc =>
      h b (List.mem_cons_of_mem a hb) c (List.mem_cons_of_mem a hc)
    have hrest : ∀ b ∈ as, p b = true → (key b ∈ seen ↔ key b ∈ seen') := fun b hb =>
      hseen b (List.mem_cons_of_mem a hb)
    by_cases hp : p a = true
    · have hiff := hseen a List.mem_cons_self hp
      rw [List.filter_cons_of_pos hp]
      by_cases ha : key a ∈ seen
      · rw [firstByKey_cons_seen key ha, firstByKey_cons_seen key (hiff.mp ha), ih has seen seen' hrest]
      · rw [firstByKey_cons_new key ha, firstByKey_cons_new key (mt hiff.mpr ha), List.filter_cons_of_pos hp]
        congr 1
        apply ih has
        intro b hb hpb
        rw [List.mem_cons, List.mem_cons, hrest b hb hpb]
    · rw [List.filter_cons_of_neg hp]
      by_cases ha : key a ∈ seen
      · rw [firstByKey_cons_seen key ha, ih has seen seen' hrest]
      · rw [firstByKey_cons_new key ha, List.filter_cons_of_neg hp]
        apply ih has
        intro b hb hpb
        have hne : key b ≠ key a := by
          intro he
          have heq := h b (List.mem_cons_of_mem a hb) a List.mem_cons_self he
          exact hp (heq ▸ hpb)
        rw [List.mem_cons, ← hrest b hb hpb]
        simp only [hne, false_or]

/-- Elements are told apart by their keys only, so a map that keeps the keys goes past the choice. -/
theorem map_firstByKey {β : Type} (f : α → β) (key : β → String) (seen : List String) (l : List α) :
    (firstByKey (fun a => key (f a)) seen l).map f = firstByKey key seen (l.map f) := by
  induction l generalizing seen with
  | nil => rfl
  | cons a as ih =>
    rw [List.map_cons]
    by_cases h : key (f a) ∈ seen
    · rw [firstByKey_cons_seen key h, firstByKey_cons_seen (fun a => key (f a)) h, ih]
    · rw [firstByKey_cons_new key h, firstByKey_cons_new (fun a => key (f a)) h, List.map_cons, ih]

end

/-! ### Distinct texts -/

theorem mem_distinct {s : String} {l : List String} : s ∈ distinct l ↔ s ∈ l := by
  constructor
  · exact mem_of_mem_firstByKey
  · intro h
    obtain ⟨t, ht, he⟩ := exists_mem_firstByKey (fun s => s) h List.not_mem_nil
    exact he ▸ ht

theorem nodup_distinct (l : List String) : (distinct l).Nodup := by
  have h : ((distinct l).map fun s => s).Nodup := nodup_map_firstByKey (fun s => s)
  rwa [List.map_id'] at h

/-- An injective map goes past the choice of first elements. -/
theorem distinct_map {f : String → String} (hf : Function.Injective f) (l : List String) :
    distinct (l.map f) = (distinct l).map f := by
  suffices h : ∀ seen, firstByKey (fun s => s) (seen.map f) (l.map f) = (firstByKey (fun s => s) seen l).map f from h []
  intro seen
  induction l generalizing seen with
  | nil => rfl
  | cons a as ih =>
    rw [List.map_cons]
    by_cases h : a ∈ seen
    · rw [firstByKey_cons_seen (fun s => s) (List.mem_map_of_mem h), firstByKey_cons_seen (fun s => s) h, ih]
    · have h' : f a ∉ seen.map f := by
        rw [List.mem_map_of_injective hf]
        exact h
      rw [firstByKey_cons_new (fun s => s) h', firstByKey_cons_new (fun s => s) h, List.map_cons, ← ih (a :: seen),
        List.map_cons]

/-- Dropping later elements of a key loses no first text, if elements with one key have one text and pass one test. -/
theorem distinct_filter_firstByKey {α : Type} (key : α → String) (p : α → Bool) (t : α → String) (l : List α)
    (h : ∀ a ∈ l, ∀ b ∈ l, key a = key b → p a = p b ∧ t a = t b) :
    distinct (((firstByKey key [] l).filter p).map t) = distinct ((l.filter p).map t) := by
  -- `gone` holds the texts of all seen keys that pass the test
  suffices hs : ∀ seen gone, (∀ a ∈ l, key a ∈ seen → p a = true → t a ∈ gone) →
      firstByKey (fun s => s) gone (((firstByKey key seen l).filter p).map t) =
        firstByKey (fun s => s) gone ((l.filter p).map t) from
    hs [] [] (fun _ _ hm => absurd hm List.not_mem_nil)
  induction l with
  | nil => intro seen gone _; rfl
  | cons a as ih =>
    intro seen gone hg
    have has : ∀ b ∈ as, ∀ c ∈ as, key b = key c → p b = p c ∧ t b = t c := fun b hb c hc =>
      h b (List.mem_cons_of_mem _ hb) c (List.mem_cons_of_mem _ hc)
    have hgs : ∀ b ∈ as, key b ∈ seen → p b = true → t b ∈ gone := fun b hb => hg b (List.mem_cons_of_mem _ hb)
    by_cases hk : key a ∈ seen
    · rw [firstByKey_cons_seen key hk, ih has seen gone hgs]
      by_cases hp : p a = true
      · have hgone : t a ∈ gone := hg a List.mem_cons_self hk hp
        rw [List.filter_cons_of_pos hp, List.map_cons, firstByKey_cons_seen (fun s => s) hgone]
      · rw [List.filter_cons_of_neg hp]
    · rw [firstByKey_cons_new key hk]
      have hext : ∀ gone' : List String, (p a = true → t a ∈ gone') → (∀ s ∈ gone, s ∈ gone') →
          ∀ b ∈ as, key b ∈ key a :: seen → p b = true → t b ∈ gone' := by
        intro gone' ha hsub b hb hm hpb
        rcases List.mem_cons.mp hm with he | hm
        · obtain ⟨hpe, hte⟩ := h b (List.mem_cons_of_mem _ hb) a List.mem_cons_self he
          rw [hte]
          exact ha (hpe ▸ hpb)
        · exact hsub _ (hgs b hb hm hpb)
      by_cases hp : p a = true
      · rw [List.filter_cons_of_pos hp, List.filter_cons_of_pos hp, List.map_cons, List.map_cons]
        by_cases ht : t a ∈ gone
        · rw [firstByKey_cons_seen (fun s => s) ht, firstByKey_cons_seen (fun s => s) ht]
          exact ih has _ _ (hext gone (fun _ => ht) (fun _ hs => hs))
        · rw [firstByKey_cons_new (fun s => s) ht, firstByKey_cons_new (fun s => s) ht]
          congr 1
          exact ih has _ _ (hext _ (fun _ => List.mem_cons_self) (fun _ hs => List.mem_cons_of_mem _ hs))
      · rw [List.filter_cons_of_neg hp, List.filter_cons_of_neg hp]
        exact ih has _ _ (hext gone (fun hc => absurd hc hp) (fun _ hs => hs))

end ChangeGraph
