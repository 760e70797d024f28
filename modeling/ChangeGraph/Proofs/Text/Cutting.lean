import ChangeGraph.Text.Cut
import Mathlib.Data.List.Basic
import Mathlib.Data.List.TakeWhile
import Mathlib.Tactic.Common

/-!
# Cutting texts

A text that is cut at one character falls into the pieces between its occurrences, and a text is the same as its pieces
with the separator put back between them.
-/

namespace ChangeGraph.Text

/-! ### At one character -/

theorem splitAtEach_of_notMem {α : Type} [BEq α] [LawfulBEq α] {c : α} {cs : List α} (h : c ∉ cs) :
    splitAtEach c cs = [cs] := by
  induction cs with
  | nil => rfl
  | cons d cs ih =>
    rw [List.mem_cons, not_or] at h
    have hd : (d == c) = false := beq_eq_false_iff_ne.mpr (Ne.symm h.1)
    simp only [splitAtEach, hd, ih h.2, Bool.false_eq_true, if_false]

theorem splitAtEach_append_cons {α : Type} [BEq α] [LawfulBEq α] {c : α} {front : List α} (h : c ∉ front)
    (back : List α) : splitAtEach c (front ++ c :: back) = front :: splitAtEach c back := by
  induction front with
  | nil => simp [splitAtEach]
  | cons d front ih =>
    rw [List.mem_cons, not_or] at h
    have hd : (d == c) = false := beq_eq_false_iff_ne.mpr (Ne.symm h.1)
    simp only [List.cons_append, splitAtEach, hd, ih h.2, Bool.false_eq_true, if_false]

theorem splitAtEach_flatMap {α : Type} [BEq α] [LawfulBEq α] {c : α} {ps : List (List α)} (h : ∀ p ∈ ps, c ∉ p) :
    splitAtEach c (ps.flatMap (· ++ [c])) = ps ++ [[]] := by
  induction ps with
  | nil => rfl
  | cons p ps ih =>
    rw [List.flatMap_cons, List.append_assoc, List.singleton_append, splitAtEach_append_cons (h p List.mem_cons_self),
      ih fun q hq => h q (List.mem_cons_of_mem p hq)]
    rfl

theorem splitAtEach_ne_nil {α : Type} [BEq α] (c : α) (cs : List α) : splitAtEach c cs ≠ [] := by
  cases cs with
  | nil => exact List.cons_ne_nil _ _
  | cons d cs =>
    rw [splitAtEach]
    split
    · exact List.cons_ne_nil _ _
    · split <;> exact List.cons_ne_nil _ _

theorem splitAtEach_eq_cons {α : Type} [BEq α] [LawfulBEq α] (c : α) (cs : List α) :
    ∃ pieces, splitAtEach c cs = cs.takeWhile (· != c) :: pieces := by
  induction cs with
  | nil => exact ⟨[], rfl⟩
  | cons d cs ih =>
    obtain ⟨pieces, hpieces⟩ := ih
    by_cases hd : d = c
    · exact ⟨splitAtEach c cs, by simp [splitAtEach, hd]⟩
    · exact ⟨pieces, by simp [splitAtEach, hd, hpieces]⟩

theorem exists_append_flatMap {α : Type} [DecidableEq α] (c : α) (cs : List α) :
    ∃ front pieces, cs = front ++ pieces.flatMap (c :: ·) ∧ ∀ p ∈ front :: pieces, c ∉ p := by
  induction cs with
  | nil => exact ⟨[], [], rfl, by simp⟩
  | cons d cs ih =>
    obtain ⟨front, pieces, rfl, hpieces⟩ := ih
    by_cases hd : d = c
    · subst hd
      exact ⟨[], front :: pieces, rfl, List.forall_mem_cons.mpr ⟨List.not_mem_nil, hpieces⟩⟩
    · obtain ⟨hfront, hrest⟩ := List.forall_mem_cons.mp hpieces
      refine ⟨d :: front, pieces, rfl, List.forall_mem_cons.mpr ⟨?_, hrest⟩⟩
      simp [Ne.symm hd, hfront]

theorem splitAtEach_append_flatMap {α : Type} [BEq α] [LawfulBEq α] {c : α} {front : List α} {pieces : List (List α)}
    (h : ∀ p ∈ front :: pieces, c ∉ p) : splitAtEach c (front ++ pieces.flatMap (c :: ·)) = front :: pieces := by
  induction pieces generalizing front with
  | nil => simpa using splitAtEach_of_notMem (h front List.mem_cons_self)
  | cons p pieces ih =>
    rw [List.flatMap_cons, List.cons_append, splitAtEach_append_cons (h front List.mem_cons_self),
      ih fun q hq => h q (List.mem_cons_of_mem front hq)]

theorem cutAt?_singleton_of_notMem {c : Char} {cs : List Char} (h : c ∉ cs) : cutAt? [c] cs = none := by
  induction cs with
  | nil => rfl
  | cons d cs ih =>
    rw [List.mem_cons, not_or] at h
    simp [cutAt?, h.1, ih h.2]

theorem cutAt?_singleton_append {c : Char} {front : List Char} (h : c ∉ front) (back : List Char) :
    cutAt? [c] (front ++ c :: back) = some (front, back) := by
  induction front with
  | nil => simp [cutAt?]
  | cons d front ih =>
    rw [List.mem_cons, not_or] at h
    simp [cutAt?, h.1, ih h.2]

theorem cutUpTo_singleton {c : Char} {n : Nat} {cs : List Char} (h : cs.count c ≤ n) :
    cutUpTo [c] n cs = splitAtEach c cs := by
  induction n generalizing cs with
  | zero =>
    have absent : c ∉ cs := List.count_eq_zero.mp (Nat.le_zero.mp h)
    rw [splitAtEach_of_notMem absent, cutUpTo]
  | succ n ih =>
    by_cases hc : c ∈ cs
    · obtain ⟨front, back, rfl, absent⟩ := List.eq_append_cons_of_mem hc
      have hback : back.count c ≤ n := by
        rw [List.count_append, List.count_cons_self] at h
        omega
      simp only [cutUpTo, cutAt?_singleton_append absent, splitAtEach_append_cons absent, ih hback]
    · simp only [cutUpTo, cutAt?_singleton_of_notMem hc, splitAtEach_of_notMem hc]

theorem cutAll_singleton (c : Char) (cs : List Char) : cutAll [c] cs = splitAtEach c cs :=
  cutUpTo_singleton (List.count_le_length)

theorem occurrences_ne_zero {c : Char} {cs : List Char} (h : c ∈ cs) : (occurrences [c] cs != 0) = true := by
  obtain ⟨front, back, rfl, absent⟩ := List.eq_append_cons_of_mem h
  have hback : 0 < (splitAtEach c back).length := List.length_pos_of_ne_nil (splitAtEach_ne_nil c back)
  rw [occurrences, cutAll_singleton, splitAtEach_append_cons absent, List.length_cons, bne_iff_ne]
  omega

/-! ### At any separator -/

theorem append_of_cutAt? {sep cs front back : List Char} (h : cutAt? sep cs = some (front, back)) :
    cs = front ++ sep ++ back := by
  induction cs generalizing front with
  | nil =>
    rw [cutAt?] at h
    split at h
    next hsep =>
      cases h
      rw [List.isEmpty_iff.mp hsep]
      rfl
    next => cases h
  | cons c cs ih =>
    rw [cutAt?] at h
    split at h
    next hsep =>
      cases h
      obtain ⟨rest, hrest⟩ := List.isPrefixOf_iff_prefix.mp hsep
      rw [← hrest, List.drop_left, List.nil_append]
    next =>
      obtain ⟨⟨front', back'⟩, hcut, heq⟩ := Option.map_eq_some_iff.mp h
      cases heq
      rw [ih hcut]
      rfl

/-- A separator of two characters that does not stand in front. -/
theorem cutAt?_pair_cons {a b c : Char} {cs : List Char} (h : c = a → cs.head? ≠ some b) :
    cutAt? [a, b] (c :: cs) = (cutAt? [a, b] cs).map fun x => (c :: x.1, x.2) := by
  have hnot : ¬ [a, b].isPrefixOf (c :: cs) = true := by
    rw [List.isPrefixOf_iff_prefix]
    rintro ⟨rest, hrest⟩
    cases hrest
    exact h rfl rfl
  rw [cutAt?, if_neg hnot]

theorem cutAll_of_cutAt?_eq_none {sep cs : List Char} (h : cutAt? sep cs = none) : cutAll sep cs = [cs] := by
  unfold cutAll
  cases cs.length with
  | zero => rfl
  | succ n => rw [cutUpTo, h]

theorem occurrences_eq_zero {sep cs : List Char} {c : Char} (hsep : c ∈ sep) (hcs : c ∉ cs) : occurrences sep cs = 0 := by
  have hcut : cutAt? sep cs = none := by
    cases h : cutAt? sep cs with
    | none => rfl
    | some x =>
      obtain ⟨front, back⟩ := x
      rw [append_of_cutAt? h, List.append_assoc] at hcs
      exact absurd (List.mem_append_right front (List.mem_append_left back hsep)) hcs
  rw [occurrences, cutAll_of_cutAt?_eq_none hcut]
  rfl

theorem cutUpTo_ne_nil (sep : List Char) (n : Nat) (cs : List Char) : cutUpTo sep n cs ≠ [] := by
  cases n with
  | zero => exact List.cons_ne_nil _ _
  | succ n =>
    rw [cutUpTo]
    split <;> exact List.cons_ne_nil _ _

theorem joinWith_cons {sep p : List Char} {ps : List (List Char)} (h : ps ≠ []) :
    joinWith sep (p :: ps) = p ++ sep ++ joinWith sep ps := by
  cases ps with
  | nil => exact absurd rfl h
  | cons q ps => rfl

theorem joinWith_concat {sep p : List Char} {ps : List (List Char)} (h : ps ≠ []) :
    joinWith sep (ps ++ [p]) = joinWith sep ps ++ sep ++ p := by
  induction ps with
  | nil => exact absurd rfl h
  | cons q ps ih =>
    by_cases hps : ps = []
    · simp [hps, joinWith]
    · rw [List.cons_append, joinWith_cons (by simp), joinWith_cons hps, ih hps]
      simp

theorem splitAtEach_joinWith {c : Char} {ps : List (List Char)} (hne : ps ≠ []) (h : ∀ p ∈ ps, c ∉ p) :
    splitAtEach c (joinWith [c] ps) = ps := by
  induction ps with
  | nil => exact absurd rfl hne
  | cons p ps ih =>
    have hp : c ∉ p := h p List.mem_cons_self
    by_cases hps : ps = []
    · subst hps
      exact splitAtEach_of_notMem hp
    · rw [joinWith_cons hps, List.append_assoc, List.singleton_append, splitAtEach_append_cons hp,
        ih hps fun q hq => h q (List.mem_cons_of_mem p hq)]

theorem mem_joinWith {sep : List Char} {ps : List (List Char)} {c : Char} (h : c ∈ joinWith sep ps) :
    c ∈ sep ∨ ∃ p ∈ ps, c ∈ p := by
  induction ps with
  | nil => cases h
  | cons p ps ih =>
    by_cases hps : ps = []
    · subst hps
      exact .inr ⟨p, List.mem_cons_self, h⟩
    · rw [joinWith_cons hps, List.mem_append, List.mem_append] at h
      rcases h with (h | h) | h
      · exact .inr ⟨p, List.mem_cons_self, h⟩
      · exact .inl h
      · rcases ih h with h | ⟨q, hq, hc⟩
        · exact .inl h
        · exact .inr ⟨q, List.mem_cons_of_mem p hq, hc⟩

/-! ### At the ends -/

theorem trimBoth_of_ends {p : Char → Bool} {cs : List Char} (hhead : ∀ c, cs.head? = some c → p c = false)
    (hlast : ∀ c, cs.getLast? = some c → p c = false) : trimBoth p cs = cs := by
  have hfront : cs.dropWhile p = cs := by
    cases cs with
    | nil => rfl
    | cons c cs => simp [hhead c rfl]
  have hback : cs.reverse.dropWhile p = cs.reverse := by
    cases hr : cs.reverse with
    | nil => rfl
    | cons c rest =>
      have hc : cs.getLast? = some c := by rw [← List.head?_reverse, hr, List.head?_cons]
      simp [hlast c hc]
  rw [trimBoth, hfront, hback, List.reverse_reverse]

theorem trimBoth_append {p : Char → Bool} {front core back : List Char} (hfront : ∀ c ∈ front, p c = true)
    (hcore : ∀ c ∈ core, p c = false) (hback : ∀ c ∈ back, p c = true) : trimBoth p (front ++ core ++ back) = core := by
  have hkeep {cs : List Char} (h : ∀ c ∈ cs, p c = false) (hne : cs ≠ []) (ds : List Char) :
      (cs ++ ds).dropWhile p = cs ++ ds := by
    obtain ⟨c, cs, rfl⟩ := List.exists_cons_of_ne_nil hne
    exact List.dropWhile_cons_of_neg (by simp [h c List.mem_cons_self])
  have hback' : ∀ c ∈ back.reverse, p c = true := fun c hc => hback c (List.mem_reverse.mp hc)
  rw [trimBoth, List.append_assoc, List.dropWhile_append_of_pos hfront]
  by_cases hne : core = []
  · subst hne
    rw [List.nil_append, List.dropWhile_eq_nil_iff.mpr hback]
    rfl
  · have hreverse := hkeep (fun c hc => hcore c (List.mem_reverse.mp hc)) (mt List.reverse_eq_nil_iff.mp hne) []
    rw [List.append_nil] at hreverse
    rw [hkeep hcore hne, List.reverse_append, List.dropWhile_append_of_pos hback', hreverse, List.reverse_reverse]

theorem exists_of_trimBoth (p : Char → Bool) (cs : List Char) :
    ∃ front back, cs = front ++ trimBoth p cs ++ back ∧ (∀ c ∈ front, p c = true) ∧ ∀ c ∈ back, p c = true := by
  refine ⟨cs.takeWhile p, ((cs.dropWhile p).reverse.takeWhile p).reverse, ?_, fun c => List.mem_takeWhile_imp, ?_⟩
  · rw [trimBoth, List.append_assoc, ← List.reverse_append, List.takeWhile_append_dropWhile, List.reverse_reverse,
      List.takeWhile_append_dropWhile]
  · intro c hc
    exact List.mem_takeWhile_imp (List.mem_reverse.mp hc)

/-- No blank stands at either end. -/
structure Stripped (cs : List Char) : Prop where
  head : ∀ c, cs.head? = some c → isBlank c = false
  last : ∀ c, cs.getLast? = some c → isBlank c = false

theorem Stripped.stripChars_eq {cs : List Char} (h : Stripped cs) : stripChars cs = cs :=
  trimBoth_of_ends h.head h.last

theorem Stripped.stripChars_cons {cs : List Char} (h : Stripped cs) : stripChars (' ' :: cs) = cs := by
  have hfront : (' ' :: cs).dropWhile isBlank = cs.dropWhile isBlank :=
    List.dropWhile_cons_of_pos (by decide)
  rw [stripChars, trimBoth, hfront]
  exact h.stripChars_eq

theorem Stripped.stripChars_concat {cs : List Char} (h : Stripped cs) : stripChars (cs ++ [' ']) = cs := by
  cases hcs : cs with
  | nil => decide
  | cons c rest =>
    have hc : isBlank c = false := h.head c (by rw [hcs, List.head?_cons])
    have hfront : (c :: rest ++ [' ']).dropWhile isBlank = c :: rest ++ [' '] := by
      rw [List.cons_append]
      exact List.dropWhile_cons_of_neg (by simp [hc])
    have hback : (c :: rest ++ [' ']).reverse.dropWhile isBlank = (c :: rest).reverse.dropWhile isBlank := by
      rw [List.reverse_append]
      exact List.dropWhile_cons_of_pos (by decide)
    have hself := h.stripChars_eq
    rw [hcs, stripChars, trimBoth, List.dropWhile_cons_of_neg (by simp [hc])] at hself
    rw [stripChars, trimBoth, hfront, hback, hself]

theorem stripped_of_ends {a b : Char} (ha : isBlank a = false) (hb : isBlank b = false) (cs : List Char) :
    Stripped (a :: (cs ++ [b])) where
  head c hc := by
    cases hc
    exact ha
  last c hc := by
    rw [← List.cons_append, List.getLast?_concat] at hc
    cases hc
    exact hb

theorem stripped_of_forall {cs : List Char} (h : ∀ c ∈ cs, isBlank c = false) : Stripped cs where
  head c hc := h c (List.mem_of_head? hc)
  last c hc := h c (List.mem_of_getLast? hc)

end ChangeGraph.Text
