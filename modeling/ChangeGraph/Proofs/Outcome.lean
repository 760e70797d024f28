import Mathlib.Data.List.Forall2

/-! # Computations that succeed

A computation that can fail gives a value only if each of its parts does. -/

namespace ChangeGraph

variable {ε δ α β : Type}

theorem bind_eq_ok_iff {x : Except ε α} {f : α → Except ε β} {b : β} :
    x >>= f = .ok b ↔ ∃ a, x = .ok a ∧ f a = .ok b := by
  cases x with
  | error e =>
    constructor
    · intro h; cases h
    · rintro ⟨a, ha, -⟩; cases ha
  | ok a =>
    constructor
    · intro h; exact ⟨a, rfl, h⟩
    · rintro ⟨a', ha, h⟩
      cases ha
      exact h

theorem bind_eq_error_iff {x : Except ε α} {f : α → Except ε β} {e : ε} :
    x >>= f = .error e ↔ x = .error e ∨ ∃ a, x = .ok a ∧ f a = .error e := by
  cases x with
  | error e' =>
    constructor
    · intro h
      cases h
      exact .inl rfl
    · rintro (h | ⟨a, ha, -⟩)
      · cases h
        rfl
      · cases ha
  | ok a =>
    constructor
    · intro h
      exact .inr ⟨a, rfl, h⟩
    · rintro (h | ⟨a', ha, h⟩)
      · cases h
      · cases ha
        exact h

theorem mapError_eq_ok_iff {x : Except ε α} {f : ε → δ} {a : α} : x.mapError f = .ok a ↔ x = .ok a := by
  cases x with
  | error e => constructor <;> (intro h; cases h)
  | ok b => constructor <;> (intro h; cases h; rfl)

theorem mapError_eq_error_iff {x : Except ε α} {f : ε → δ} {e : δ} :
    x.mapError f = .error e ↔ ∃ e', x = .error e' ∧ f e' = e := by
  cases x with
  | error e' => simp [Except.mapError]
  | ok b => simp [Except.mapError]

theorem map_eq_ok_iff {x : Except ε α} {f : α → β} {b : β} : x.map f = .ok b ↔ ∃ a, x = .ok a ∧ f a = b := by
  cases x with
  | error e => simp [Except.map]
  | ok a => simp [Except.map]

theorem map_eq_error_iff {x : Except ε α} {f : α → β} {e : ε} : x.map f = .error e ↔ x = .error e := by
  cases x with
  | error e' => simp [Except.map]
  | ok a => simp [Except.map]

theorem toOption_eq_some_iff {x : Except ε α} {a : α} : x.toOption = some a ↔ x = .ok a := by
  cases x with
  | error e => constructor <;> (intro h; cases h)
  | ok b => constructor <;> (intro h; cases h; rfl)

/-- A list is worked through only if each element is, and the values stand in the order of the elements. -/
theorem forall₂_of_mapM_eq_ok {f : α → Except ε β} {l : List α} {ys : List β} (h : l.mapM f = .ok ys) :
    List.Forall₂ (fun a b => f a = .ok b) l ys := by
  induction l generalizing ys with
  | nil =>
    rw [List.mapM_nil] at h
    cases h
    exact List.Forall₂.nil
  | cons a as ih =>
    rw [List.mapM_cons] at h
    obtain ⟨b, hb, h⟩ := bind_eq_ok_iff.mp h
    obtain ⟨bs, hbs, h⟩ := bind_eq_ok_iff.mp h
    cases h
    exact List.Forall₂.cons hb (ih hbs)

theorem exists_mem_of_mapM_eq_ok {f : α → Except ε β} {l : List α} {ys : List β} (h : l.mapM f = .ok ys) {b : β}
    (hb : b ∈ ys) : ∃ a ∈ l, f a = .ok b := by
  have hf := forall₂_of_mapM_eq_ok h
  clear h
  induction hf with
  | nil => cases hb
  | cons hab _ ih =>
    rcases List.mem_cons.mp hb with rfl | hb
    · exact ⟨_, List.mem_cons_self, hab⟩
    · obtain ⟨a, ha, he⟩ := ih hb
      exact ⟨a, List.mem_cons_of_mem _ ha, he⟩

theorem filterMap_of_mapM_eq_ok {f : α → Except ε β} {l : List α} {ys : List β} (h : l.mapM f = .ok ys) :
    ys = l.filterMap fun a => (f a).toOption := by
  have hf := forall₂_of_mapM_eq_ok h
  clear h
  induction hf with
  | nil => rfl
  | @cons a b as bs hab _ ih =>
    have hb : (f a).toOption = some b := toOption_eq_some_iff.mpr hab
    simp only [List.filterMap_cons, hb, ← ih]

theorem exists_ok_of_mapM_eq_ok {f : α → Except ε β} {l : List α} {ys : List β} (h : l.mapM f = .ok ys) {a : α}
    (ha : a ∈ l) : ∃ b, f a = .ok b := by
  have hf := forall₂_of_mapM_eq_ok h
  clear h
  induction hf with
  | nil => cases ha
  | cons hab _ ih =>
    rcases List.mem_cons.mp ha with rfl | ha
    · exact ⟨_, hab⟩
    · exact ih ha

/-- A list that is not worked through fails at its first element that does. -/
theorem split_of_mapM_eq_error {f : α → Except ε β} {l : List α} {e : ε} (h : l.mapM f = .error e) :
    ∃ before a after, l = before ++ a :: after ∧ f a = .error e ∧ ∀ b ∈ before, ∃ c, f b = .ok c := by
  induction l with
  | nil =>
    rw [List.mapM_nil] at h
    cases h
  | cons a as ih =>
    rw [List.mapM_cons] at h
    rcases bind_eq_error_iff.mp h with ha | ⟨b, ha, h⟩
    · exact ⟨[], a, as, rfl, ha, fun b hb => absurd hb List.not_mem_nil⟩
    · rcases bind_eq_error_iff.mp h with hs | ⟨bs, -, h⟩
      · obtain ⟨before, a', after, rfl, ha', hbefore⟩ := ih hs
        refine ⟨a :: before, a', after, rfl, ha', ?_⟩
        intro c hc
        rcases List.mem_cons.mp hc with rfl | hc
        · exact ⟨b, ha⟩
        · exact hbefore c hc
      · cases h

/-- Where there is one way to fail only, a list is not worked through exactly if one of its elements fails. -/
theorem mapM_eq_error_iff {f : α → Except ε β} {l : List α} {e₀ : ε} (one : ∀ a e, f a = .error e → e = e₀) {e : ε} :
    l.mapM f = .error e ↔ (∃ a ∈ l, f a = .error e₀) ∧ e = e₀ := by
  constructor
  · intro h
    obtain ⟨before, a, after, rfl, ha, -⟩ := split_of_mapM_eq_error h
    have he : e = e₀ := one a e ha
    exact ⟨⟨a, List.mem_append_right _ List.mem_cons_self, he ▸ ha⟩, he⟩
  · rintro ⟨⟨a, ha, hfail⟩, rfl⟩
    cases hm : l.mapM f with
    | ok bs =>
      obtain ⟨b, hb⟩ := exists_ok_of_mapM_eq_ok hm ha
      rw [hfail] at hb
      cases hb
    | error e' =>
      obtain ⟨_, a', _, _, ha', -⟩ := split_of_mapM_eq_error hm
      rw [one a' e' ha']

/-- A fold that fails does so at one element, after the elements before it were worked through. -/
theorem foldlM_eq_error_iff {f : β → α → Except ε β} {l : List α} {b : β} {e : ε} :
    l.foldlM f b = .error e ↔
      ∃ before a after c, l = before ++ a :: after ∧ before.foldlM f b = .ok c ∧ f c a = .error e := by
  constructor
  · intro h
    induction l generalizing b with
    | nil => cases h
    | cons a as ih =>
      rw [List.foldlM_cons] at h
      rcases bind_eq_error_iff.mp h with ha | ⟨c, hc, h⟩
      · exact ⟨[], a, as, b, rfl, rfl, ha⟩
      · obtain ⟨before, a', after, d, rfl, hd, he⟩ := ih h
        refine ⟨a :: before, a', after, d, rfl, ?_, he⟩
        rw [List.foldlM_cons]
        exact bind_eq_ok_iff.mpr ⟨c, hc, hd⟩
  · rintro ⟨before, a, after, c, rfl, hc, he⟩
    rw [List.foldlM_append]
    refine bind_eq_error_iff.mpr (.inr ⟨c, hc, ?_⟩)
    rw [List.foldlM_cons]
    exact bind_eq_error_iff.mpr (.inl he)

end ChangeGraph
