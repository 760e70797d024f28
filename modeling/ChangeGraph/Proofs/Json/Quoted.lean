import ChangeGraph.Json.Reader
import ChangeGraph.Json.Writer
import Mathlib.Data.List.Basic
import Mathlib.Tactic.FinCases

/-! # Texts in JSON

A text in quotes is read back, whatever its characters, and is written in ASCII. A character beyond sixteen bits is
written as two units, and a unit on its own is never taken for a half of one. -/

namespace ChangeGraph.Json

theorem hexDigit?_digitChar {n : Nat} (h : n < 16) : hexDigit? (Nat.digitChar n) = some n := by
  have hall : ∀ m < 16, hexDigit? (Nat.digitChar m) = some m := by decide
  exact hall n h

theorem hex_four (n : Nat) : Text.hex 4 n =
    [Nat.digitChar (n / 4096 % 16), Nat.digitChar (n / 256 % 16), Nat.digitChar (n / 16 % 16),
      Nat.digitChar (n / 1 % 16)] := rfl

theorem unit?_hex {n : Nat} (h : n < 0x10000) :
    unit? (Nat.digitChar (n / 4096 % 16)) (Nat.digitChar (n / 256 % 16)) (Nat.digitChar (n / 16 % 16))
      (Nat.digitChar (n / 1 % 16)) = some n := by
  have hsum : (((n / 4096 % 16) * 16 + n / 256 % 16) * 16 + n / 16 % 16) * 16 + n / 1 % 16 = n := by omega
  simp only [unit?, hexDigit?_digitChar (Nat.mod_lt _ (by decide : 0 < 16)), Option.pure_def, Option.bind_eq_bind,
    Option.bind_some, hsum]

theorem joined?_eq_none {n : Nat} (h : n < 0xD800 ∨ 0xDC00 ≤ n) (m : Nat) : joined? n m = none := by
  rw [joined?, if_neg]
  simp only [Bool.and_eq_true, decide_eq_true_eq]
  omega

theorem joined?_halves {c : Char} (h : 0x10000 ≤ c.toNat) :
    joined? (0xD800 + (c.toNat - 0x10000) / 0x400) (0xDC00 + (c.toNat - 0x10000) % 0x400) = some c := by
  have hlt : c.toNat < 0x110000 := by
    have := c.valid
    rcases this with h | h
    · have : c.toNat < 0xD800 := h
      omega
    · exact h.2
  have hsum : 0x10000 + (0xD800 + (c.toNat - 0x10000) / 0x400 - 0xD800) * 0x400 +
      (0xDC00 + (c.toNat - 0x10000) % 0x400 - 0xDC00) = c.toNat := by omega
  rw [joined?, if_pos, hsum, Char.ofNat_toNat]
  simp only [Bool.and_eq_true, decide_eq_true_eq]
  omega

/-- The ways in which a character is written between quotes. -/
inductive EscapedAs : Char → List Char → Prop where
  | letter {e ch : Char} : e.toNat < 0x80 → letterEscape? e = some ch → EscapedAs ch ['\\', e]
  | plain {c : Char} : 0x20 ≤ c.toNat → c.toNat < 0x7F → c ≠ '"' → c ≠ '\\' → EscapedAs c [c]
  | unit {c : Char} : c.toNat < 0x10000 → (c.toNat < 0xD800 ∨ 0xDC00 ≤ c.toNat) → EscapedAs c (unitEscape c.toNat)
  | pair {high low : Nat} {ch : Char} : high < 0x10000 → low < 0x10000 → joined? high low = some ch →
      EscapedAs ch (unitEscape high ++ unitEscape low)

theorem escapedAs_escape (c : Char) : EscapedAs c (escape c) := by
  -- no character lies among the halves, nor past the last plane
  have hvalid : c.toNat < 0xD800 ∨ 0xDC00 ≤ c.toNat ∧ c.toNat < 0x110000 := by
    rcases c.valid with h | ⟨h, hlt⟩
    · exact .inl h
    · have hhigh : 0xDFFF < c.toNat := h
      exact .inr ⟨by omega, hlt⟩
  have hof {n : Nat} (h : c.toNat = n) : Char.ofNat n = c := by rw [← h, Char.ofNat_toNat]
  rw [escape]
  split_ifs with h1 h2 h3 h4 h5 h6 h7 h8 h9
  · rw [eq_of_beq h1]
    exact .letter (by decide) rfl
  · rw [eq_of_beq h2]
    exact .letter (by decide) rfl
  · rw [eq_of_beq h3]
    exact .letter (by decide) rfl
  · rw [eq_of_beq h4]
    exact .letter (by decide) rfl
  · rw [eq_of_beq h5]
    exact .letter (by decide) rfl
  · rw [← hof (eq_of_beq h6)]
    exact .letter (by decide) rfl
  · rw [← hof (eq_of_beq h7)]
    exact .letter (by decide) rfl
  · simp only [Bool.and_eq_true, decide_eq_true_eq] at h8
    exact .plain h8.1 h8.2 (by simpa using h1) (by simpa using h2)
  · exact .unit h9 (by omega)
  · exact .pair (by omega) (by omega) (joined?_halves (by omega))

/-- The rest of a text after a character is put before it. -/
def consChar (c : Char) (r : List Char × List Char) : List Char × List Char := (c :: r.1, r.2)

theorem readText_letter {e ch : Char} (he : letterEscape? e = some ch) (fuel : Nat) (cs : List Char) :
    readText (fuel + 1) ('\\' :: e :: cs) = (readText fuel cs).map (consChar ch) := by
  have hu : e ≠ 'u' := by
    rintro rfl
    cases he
  rw [readText]
  · simp only [he]
    cases readText fuel cs <;> rfl
  · simp [hu]

theorem readText_plain {c : Char} (hlow : 0x20 ≤ c.toNat) (hquote : c ≠ '"') (hback : c ≠ '\\') (fuel : Nat)
    (cs : List Char) : readText (fuel + 1) (c :: cs) = (readText fuel cs).map (consChar c) := by
  rw [readText]
  · have hplain : (decide (c.toNat < 0x20) || c == '\\') = false := by simp [hback, hlow]
    rw [hplain]
    cases readText fuel cs <;> rfl
  · exact hquote
  · simp [hback]
  · simp [hback]

/-- An escaped unit at the front of a text is well formed. -/
def GoodFront (cs : List Char) : Prop :=
  ∀ a b c d rest, cs = '\\' :: 'u' :: a :: b :: c :: d :: rest → (unit? a b c d).isSome

theorem goodFront_of_ne {c : Char} (hc : c ≠ '\\') (cs : List Char) : GoodFront (c :: cs) := by
  intro _ _ _ _ _ heq
  exact absurd (List.cons.inj heq).1 hc

theorem goodFront_unit {n : Nat} (h : n < 0x10000) (cs : List Char) : GoodFront (unitEscape n ++ cs) := by
  intro a b c d rest heq
  rw [unitEscape, hex_four] at heq
  simp only [List.cons_append, List.nil_append, List.cons.injEq, true_and] at heq
  obtain ⟨rfl, rfl, rfl, rfl, -⟩ := heq
  rw [unit?_hex h]
  rfl

theorem EscapedAs.goodFront {c : Char} {w : List Char} (h : EscapedAs c w) (cs : List Char) : GoodFront (w ++ cs) := by
  cases h with
  | letter _ he =>
    intro _ _ _ _ _ heq
    obtain ⟨rfl, -⟩ := List.cons.inj (List.cons.inj heq).2
    cases he
  | plain _ _ _ hback => exact goodFront_of_ne hback cs
  | unit h => exact goodFront_unit h cs
  | pair hhigh hlow _ =>
    rw [List.append_assoc]
    exact goodFront_unit hhigh _

theorem readText_unit {n : Nat} (h : n < 0x10000) (hsingle : n < 0xD800 ∨ 0xDC00 ≤ n) {cs : List Char}
    (hcs : GoodFront cs) (fuel : Nat) :
    readText (fuel + 1) (unitEscape n ++ cs) = (readText fuel cs).map (consChar (Char.ofNat n)) := by
  rw [unitEscape, hex_four]
  simp only [List.cons_append, List.nil_append]
  rw [readText, unit?_hex h]
  simp only [Option.bind_eq_bind, Option.bind_some, Option.pure_def]
  split
  next a b c d rest =>
    obtain ⟨m, hm⟩ := Option.isSome_iff_exists.mp (hcs a b c d rest rfl)
    simp only [hm, Option.bind_some, joined?_eq_none hsingle]
    cases readText fuel ('\\' :: 'u' :: a :: b :: c :: d :: rest) <;> rfl
  next => cases readText fuel cs <;> rfl

theorem readText_pair {high low : Nat} {ch : Char} (hhigh : high < 0x10000) (hlow : low < 0x10000)
    (h : joined? high low = some ch) (cs : List Char) (fuel : Nat) :
    readText (fuel + 1) (unitEscape high ++ unitEscape low ++ cs) = (readText fuel cs).map (consChar ch) := by
  rw [unitEscape, unitEscape, hex_four, hex_four]
  simp only [List.cons_append, List.nil_append]
  rw [readText, unit?_hex hhigh]
  simp only [Option.bind_eq_bind, Option.bind_some, Option.pure_def, unit?_hex hlow, h]
  cases readText fuel cs <;> rfl

theorem EscapedAs.readText {c : Char} {w cs : List Char} (h : EscapedAs c w) (hcs : GoodFront cs) (fuel : Nat) :
    readText (fuel + 1) (w ++ cs) = (readText fuel cs).map (consChar c) := by
  cases h with
  | letter _ he => exact readText_letter he fuel cs
  | plain hlow _ hquote hback => exact readText_plain hlow hquote hback fuel cs
  | unit h hsingle =>
    have hread := readText_unit h hsingle hcs fuel
    rwa [Char.ofNat_toNat] at hread
  | pair hhigh hlow h => exact readText_pair hhigh hlow h cs fuel

theorem goodFront_flatMap (s rest : List Char) : GoodFront (s.flatMap escape ++ '"' :: rest) := by
  cases s with
  | nil => exact goodFront_of_ne (by decide) rest
  | cons c s =>
    rw [List.flatMap_cons, List.append_assoc]
    exact (escapedAs_escape c).goodFront _

theorem readText_flatMap (s rest : List Char) {fuel : Nat} (hfuel : s.length < fuel) :
    readText fuel (s.flatMap escape ++ '"' :: rest) = some (s, rest) := by
  induction s generalizing fuel with
  | nil =>
    obtain ⟨fuel, rfl⟩ : ∃ m, fuel = m + 1 := ⟨fuel - 1, by omega⟩
    rfl
  | cons c s ih =>
    obtain ⟨fuel, rfl⟩ : ∃ m, fuel = m + 1 := ⟨fuel - 1, by omega⟩
    rw [List.length_cons] at hfuel
    rw [List.flatMap_cons, List.append_assoc, (escapedAs_escape c).readText (goodFront_flatMap s rest), ih (by omega)]
    rfl

theorem EscapedAs.length_pos {c : Char} {w : List Char} (h : EscapedAs c w) : 0 < w.length := by
  cases h <;> simp [unitEscape]

theorem length_le_flatMap (s : List Char) : s.length ≤ (s.flatMap escape).length := by
  induction s with
  | nil => simp
  | cons c s ih =>
    have hpos := (escapedAs_escape c).length_pos
    simp only [List.flatMap_cons, List.length_append, List.length_cons]
    omega

theorem quote_append (s : String) (rest : List Char) :
    quote s ++ rest = '"' :: (s.toList.flatMap escape ++ '"' :: rest) := by
  simp [quote]

/-- A text in quotes is read back, and no more is read than that. -/
theorem readText_quote (s : String) (rest : List Char) :
    readText ((s.toList.flatMap escape ++ '"' :: rest).length + 1) (s.toList.flatMap escape ++ '"' :: rest) =
      some (s.toList, rest) := by
  have hlen := length_le_flatMap s.toList
  apply readText_flatMap
  rw [List.length_append]
  omega

/-! ### ASCII -/

def Ascii (cs : List Char) : Prop := ∀ c ∈ cs, c.toNat < 0x80

@[simp] theorem ascii_nil : Ascii [] := by simp [Ascii]

@[simp] theorem ascii_cons {c : Char} {cs : List Char} : Ascii (c :: cs) ↔ c.toNat < 0x80 ∧ Ascii cs :=
  List.forall_mem_cons

@[simp] theorem ascii_append {cs ds : List Char} : Ascii (cs ++ ds) ↔ Ascii cs ∧ Ascii ds := List.forall_mem_append

theorem ascii_unitEscape (n : Nat) : Ascii (unitEscape n) := by
  have hdigit : ∀ m < 16, (Nat.digitChar m).toNat < 0x80 := by decide
  intro c hc
  rw [unitEscape, hex_four] at hc
  have hlt (m : Nat) : m % 16 < 16 := Nat.mod_lt _ (by decide)
  fin_cases hc
  · decide
  · decide
  all_goals exact hdigit _ (hlt _)

theorem EscapedAs.ascii {c : Char} {w : List Char} (h : EscapedAs c w) : Ascii w := by
  cases h with
  | letter hascii _ => simp [hascii]
  | plain _ h _ _ =>
    simp only [ascii_cons, ascii_nil, and_true]
    omega
  | unit => exact ascii_unitEscape _
  | pair => exact ascii_append.mpr ⟨ascii_unitEscape _, ascii_unitEscape _⟩

@[simp] theorem ascii_quote (s : String) : Ascii (quote s) := by
  have hbody : Ascii (s.toList.flatMap escape) := by
    intro c hc
    obtain ⟨d, -, hc⟩ := List.mem_flatMap.mp hc
    exact (escapedAs_escape d).ascii c hc
  simp [quote, hbody]

end ChangeGraph.Json
