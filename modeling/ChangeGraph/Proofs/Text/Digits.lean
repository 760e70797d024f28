import ChangeGraph.Text.Integer
import Mathlib.Data.Nat.Digits.Defs
import Mathlib.Tactic.Common

/-!
# Numbers from their digits

The decimal digits of a number are read back as the number, unless there are too many of them.
-/

namespace ChangeGraph.Text

/-- The digits of a number by their values. -/
def valuesOf (n : Nat) : List Nat := (Nat.toDigits 10 n).map fun c => c.toNat - '0'.toNat

theorem digit?_of_isDigit {c : Char} (h : c.isDigit = true) : digit? c = some (c.toNat - '0'.toNat) := by
  have hbounds : 48 ≤ c.toNat ∧ c.toNat ≤ 57 := by
    simpa [Char.isDigit, UInt32.le_iff_toNat_le] using h
  have hfirst : zeros.find? (fun z => z ≤ c.toNat && c.toNat < z + 10) = some '0'.toNat := by
    apply List.find?_cons_of_pos
    simp
    omega
  rw [digit?, hfirst, Option.map_some]

theorem isDigit_of_mem {n : Nat} {c : Char} (h : c ∈ Nat.toDigits 10 n) : c.isDigit = true :=
  Nat.isDigit_of_mem_toDigits (by decide) (by decide) h

theorem ofDigits_valuesOf (n : Nat) : ofDigits (valuesOf n) = n := by
  rw [ofDigits, valuesOf, List.foldl_map]
  exact Nat.ofDigitChars_ten_toDigits

theorem length_valuesOf (n : Nat) : (valuesOf n).length = (Nat.toDigits 10 n).length := by
  rw [valuesOf, List.length_map]

theorem ne_of_isDigit {c d : Char} (hc : c.isDigit = true) (hd : d.isDigit = false) : c ≠ d := by
  rintro rfl
  rw [hc] at hd
  cases hd

theorem digitsOf?_of_isDigit {cs : List Char} (hne : cs ≠ []) (h : ∀ c ∈ cs, c.isDigit = true) :
    digitsOf? cs = some (cs.map fun c => c.toNat - '0'.toNat) := by
  induction cs with
  | nil => exact absurd rfl hne
  | cons c cs ih =>
    have hc : digit? c = some (c.toNat - '0'.toNat) := digit?_of_isDigit (h c List.mem_cons_self)
    cases cs with
    | nil => simp [digitsOf?, hc]
    | cons d ds =>
      have hd : d ≠ '_' := ne_of_isDigit (h d (by simp)) (by decide)
      have hrest := ih (List.cons_ne_nil d ds) fun e he => h e (List.mem_cons_of_mem c he)
      rw [digitsOf?, hc, hrest]
      · rfl
      · simp
      · simp [hd]

theorem readNatural?_toDigits {n : Nat} (short : (Nat.toDigits 10 n).length ≤ digitLimit) :
    readNatural? (Nat.toDigits 10 n) = some n := by
  have hdigits : digitsOf? (Nat.toDigits 10 n) = some (valuesOf n) :=
    digitsOf?_of_isDigit Nat.toDigits_ne_nil fun c hc => isDigit_of_mem hc
  simp only [readNatural?, hdigits, Option.bind_eq_bind, Option.bind_some, length_valuesOf, short, if_true,
    ofDigits_valuesOf]

/-- No number but zero is written with a zero in front. -/
theorem eq_zero_of_toDigits {n : Nat} {rest : List Char} (h : Nat.toDigits 10 n = '0' :: rest) : n = 0 := by
  induction n using Nat.strong_induction_on generalizing rest with
  | _ n ih =>
    rw [Nat.toDigits_eq_if (by decide)] at h
    split at h
    next hlt =>
      have hzero : ∀ m < 10, Nat.digitChar m = '0' → m = 0 := by decide
      exact hzero n hlt (List.cons.inj h).1
    next hge =>
      obtain ⟨c, cs, hcs⟩ := List.exists_cons_of_ne_nil (Nat.toDigits_ne_nil (n := n / 10) (b := 10))
      rw [hcs] at h
      obtain ⟨rfl, -⟩ := List.cons.inj h
      have hquotient : n / 10 = 0 := ih (n / 10) (by omega) hcs
      omega

theorem natAbs_cases (n : Int) : (toString n).toList = Nat.toDigits 10 n.natAbs ∧ n = n.natAbs ∨
    (toString n).toList = '-' :: Nat.toDigits 10 n.natAbs ∧ n = -n.natAbs := by
  cases n with
  | ofNat n =>
    refine .inl ⟨?_, rfl⟩
    exact Nat.toList_repr
  | negSucc n =>
    refine .inr ⟨?_, rfl⟩
    have hrepr : (toString (Int.negSucc n)) = "-" ++ (n + 1).repr := rfl
    rw [hrepr, String.toList_append, Nat.toList_repr]
    rfl

theorem notMem_toDigits {c : Char} (h : c.isDigit = false) (n : Nat) : c ∉ Nat.toDigits 10 n :=
  fun hmem => ne_of_isDigit (isDigit_of_mem hmem) h rfl

theorem notMem_toString {c : Char} (h : c.isDigit = false) (hminus : c ≠ '-') (n : Int) : c ∉ (toString n).toList := by
  rcases natAbs_cases n with ⟨hn, -⟩ | ⟨hn, -⟩
  · rw [hn]
    exact notMem_toDigits h _
  · rw [hn, List.mem_cons, not_or]
    exact ⟨hminus, notMem_toDigits h _⟩

/-- An integer is known by its text. -/
theorem eq_of_toString_eq {a b : Int} (h : (toString a).toList = (toString b).toList) : a = b := by
  have hdigits {m n : Nat} (hmn : Nat.toDigits 10 m = Nat.toDigits 10 n) : m = n := by
    rw [← ofDigits_valuesOf m, ← ofDigits_valuesOf n, valuesOf, valuesOf, hmn]
  have hminus {n : Nat} {cs : List Char} (hn : Nat.toDigits 10 n = '-' :: cs) : False :=
    notMem_toDigits (by decide) n (hn ▸ List.mem_cons_self)
  rcases natAbs_cases a with ⟨ha, hvalue⟩ | ⟨ha, hvalue⟩
  · rcases natAbs_cases b with ⟨hb, hvalue'⟩ | ⟨hb, -⟩
    · rw [ha, hb] at h
      rw [hvalue, hvalue', hdigits h]
    · rw [ha, hb] at h
      exact (hminus h).elim
  · rcases natAbs_cases b with ⟨hb, -⟩ | ⟨hb, hvalue'⟩
    · rw [ha, hb] at h
      exact (hminus h.symm).elim
    · rw [ha, hb] at h
      rw [hvalue, hvalue', hdigits (List.cons.inj h).2]

def powerOfTen (k : Nat) : Nat := Nat.pow 10 k

theorem length_toDigits_powerOfTen {k : Nat} (hk : 0 < k) : (Nat.toDigits 10 (powerOfTen k)).length = k + 1 := by
  have hle : (Nat.toDigits 10 (powerOfTen k)).length ≤ k + 1 :=
    (Nat.length_toDigits_le_iff (by decide) (Nat.succ_pos k)).mpr (Nat.pow_lt_pow_succ (by decide))
  have hlt : ¬(Nat.toDigits 10 (powerOfTen k)).length ≤ k :=
    mt (Nat.length_toDigits_le_iff (by decide) hk).mp (Nat.lt_irrefl _)
  omega

/-- One with as many zeros as there may be digits is too long. -/
theorem isShort_powerOfTen : isShort (powerOfTen digitLimit) = false := by
  have hlength := length_toDigits_powerOfTen (k := digitLimit) (by decide)
  rw [← Nat.toList_repr, String.length_toList] at hlength
  rw [isShort, decide_eq_false_iff_not, Int.natAbs_natCast]
  intro h
  have hle : (powerOfTen digitLimit).repr.length ≤ digitLimit := h
  omega

end ChangeGraph.Text
