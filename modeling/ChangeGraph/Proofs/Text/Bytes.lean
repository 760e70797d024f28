import ChangeGraph.Proofs.Outcome
import ChangeGraph.Proofs.Text.Utf8

/-!
# Bytes that are a text

The reader takes the bytes of texts and no others: what it takes for a character are the bytes of that character. The
bounds of the second byte see to it that no character has two spellings and that there is none in the gap of the
surrogates or beyond the last.
-/

namespace ChangeGraph.Text.Utf8

theorem toNat_ofNat_of_valid {n : Nat} (h : n < 0xD800 ∨ 0xDFFF < n ∧ n < 0x110000) :
    (Char.ofNat n).val.toNat = n := by
  have hvalid : n.isValidChar := h
  rw [Char.ofNat, dif_pos hvalid]
  rfl

/-! ### The bytes of a character -/

theorem utf8EncodeChar_one {n : Nat} (hn : n < 0x80) : String.utf8EncodeChar (Char.ofNat n) = [UInt8.ofNat n] := by
  have hval : (Char.ofNat n).val.toNat = n := toNat_ofNat_of_valid (by omega)
  simp only [String.utf8EncodeChar, hval]
  rw [if_pos (by omega)]

theorem utf8EncodeChar_two {a n : Nat} (hlow : 2 ≤ a) (hhigh : a < 32) (hn : n < 64) :
    String.utf8EncodeChar (Char.ofNat (a * 64 + n)) = [UInt8.ofNat (a + 0xC0), UInt8.ofNat (n + 0x80)] := by
  have hval : (Char.ofNat (a * 64 + n)).val.toNat = a * 64 + n := toNat_ofNat_of_valid (by omega)
  have hlead : (a * 64 + n) / 64 % 32 = a := by omega
  have hlast : (a * 64 + n) % 64 = n := by omega
  simp only [String.utf8EncodeChar, hval]
  rw [if_neg (by omega), if_pos (by omega), hlead, hlast]

theorem utf8EncodeChar_three {a m n : Nat} (ha : a < 16) (hm : m < 64) (hn : n < 64) (hshort : a = 0 → 32 ≤ m)
    (hgap : a = 13 → m < 32) :
    String.utf8EncodeChar (Char.ofNat ((a * 64 + m) * 64 + n)) =
      [UInt8.ofNat (a + 0xE0), UInt8.ofNat (m + 0x80), UInt8.ofNat (n + 0x80)] := by
  have hval : (Char.ofNat ((a * 64 + m) * 64 + n)).val.toNat = (a * 64 + m) * 64 + n :=
    toNat_ofNat_of_valid (by omega)
  have hlead : ((a * 64 + m) * 64 + n) / 4096 % 16 = a := by omega
  have hmiddle : ((a * 64 + m) * 64 + n) / 64 % 64 = m := by omega
  have hlast : ((a * 64 + m) * 64 + n) % 64 = n := by omega
  simp only [String.utf8EncodeChar, hval]
  rw [if_neg (by omega), if_neg (by omega), if_pos (by omega), hlead, hmiddle, hlast]

theorem utf8EncodeChar_four {a l m n : Nat} (ha : a < 5) (hl : l < 64) (hm : m < 64) (hn : n < 64)
    (hshort : a = 0 → 16 ≤ l) (hbeyond : a = 4 → l < 16) :
    String.utf8EncodeChar (Char.ofNat (((a * 64 + l) * 64 + m) * 64 + n)) =
      [UInt8.ofNat (a + 0xF0), UInt8.ofNat (l + 0x80), UInt8.ofNat (m + 0x80), UInt8.ofNat (n + 0x80)] := by
  have hval : (Char.ofNat (((a * 64 + l) * 64 + m) * 64 + n)).val.toNat = ((a * 64 + l) * 64 + m) * 64 + n :=
    toNat_ofNat_of_valid (by omega)
  have hlead : (((a * 64 + l) * 64 + m) * 64 + n) / 262144 % 8 = a := by omega
  have hsecond : (((a * 64 + l) * 64 + m) * 64 + n) / 4096 % 64 = l := by omega
  have hthird : (((a * 64 + l) * 64 + m) * 64 + n) / 64 % 64 = m := by omega
  have hlast : (((a * 64 + l) * 64 + m) * 64 + n) % 64 = n := by omega
  simp only [String.utf8EncodeChar, hval]
  rw [if_neg (by omega), if_neg (by omega), if_neg (by omega), hlead, hsecond, hthird, hlast]

/-! ### What the reader has taken -/

section Taken

variable {out cs : List Char} {i first : Nat} {b : UInt8} {bs : List UInt8}

/-- While bytes are missing the next one is there and within its bounds. -/
theorem exists_next {p : Pending} (hlow : 0x80 ≤ p.low) (hhigh : p.high < 0xC0)
    (h : readFrom out i (some (first, b, p)) bs = .ok cs) :
    ∃ n rest, bs = UInt8.ofNat (n + 0x80) :: rest ∧ n < 64 ∧ p.low ≤ n + 0x80 ∧ n + 0x80 ≤ p.high := by
  cases bs with
  | nil => cases h
  | cons next rest =>
    rw [readFrom] at h
    split at h
    · next fits =>
      rw [Pending.fits, Bool.and_eq_true, decide_eq_true_eq, decide_eq_true_eq] at fits
      have hsum : next.toNat - 0x80 + 0x80 = next.toNat := by omega
      refine ⟨next.toNat - 0x80, rest, ?_, by omega, by omega, by omega⟩
      rw [hsum, UInt8.ofNat_toNat]
    · cases h

theorem exists_last {bits low high : Nat} (hlow : 0x80 ≤ low) (hhigh : high < 0xC0)
    (h : readFrom out i (some (first, b, ⟨bits, 1, low, high⟩)) bs = .ok cs) :
    ∃ n rest, bs = UInt8.ofNat (n + 0x80) :: rest ∧ n < 64 ∧ low ≤ n + 0x80 ∧ n + 0x80 ≤ high ∧
      readFrom (Char.ofNat (bits * 64 + n) :: out) (i + 1) none rest = .ok cs := by
  obtain ⟨n, rest, rfl, hn, hnlow, hnhigh⟩ := exists_next hlow hhigh h
  rw [readFrom_last hnlow hnhigh hn] at h
  exact ⟨n, rest, rfl, hn, hnlow, hnhigh, h⟩

theorem exists_more {bits missing low high : Nat} (hlow : 0x80 ≤ low) (hhigh : high < 0xC0)
    (h : readFrom out i (some (first, b, ⟨bits, missing + 2, low, high⟩)) bs = .ok cs) :
    ∃ n rest, bs = UInt8.ofNat (n + 0x80) :: rest ∧ n < 64 ∧ low ≤ n + 0x80 ∧ n + 0x80 ≤ high ∧
      readFrom out (i + 1) (some (first, b, ⟨bits * 64 + n, missing + 1, 0x80, 0xBF⟩)) rest = .ok cs := by
  obtain ⟨n, rest, rfl, hn, hnlow, hnhigh⟩ := exists_next hlow hhigh h
  rw [readFrom_more hnlow hnhigh hn] at h
  exact ⟨n, rest, rfl, hn, hnlow, hnhigh, h⟩

/-- Between characters the reader takes the bytes of one character and is between characters again. -/
theorem exists_char (h : readFrom out i none (b :: bs) = .ok cs) :
    ∃ c j rest, b :: bs = String.utf8EncodeChar c ++ rest ∧ rest.length < (b :: bs).length ∧
      readFrom (c :: out) j none rest = .ok cs := by
  have hbyte : UInt8.ofNat b.toNat = b := UInt8.ofNat_toNat
  have hlt : b.toNat < 256 := b.toNat_lt
  -- The lead byte says how many bytes there are. A byte below 0xC2 or above 0xF4 that is no character leads nothing.
  by_cases hone : b.toNat < 0x80
  · rw [readFrom, lead, if_pos hone] at h
    refine ⟨Char.ofNat b.toNat, i + 1, bs, ?_, by simp, h⟩
    rw [utf8EncodeChar_one hone, hbyte]
    rfl
  by_cases hstray : b.toNat < 0xC2 ∨ 0xF5 ≤ b.toNat
  · have hlead : lead b = .stray := by
      rcases hstray with hlow | hhigh
      · rw [lead, if_neg hone, if_pos hlow]
      · rw [lead, if_neg hone, if_neg (by omega), if_neg (by omega), if_neg (by omega), if_neg (by omega)]
    rw [readFrom, hlead] at h
    cases h
  by_cases htwo : b.toNat < 0xE0
  · obtain ⟨a, ha⟩ : ∃ a, b.toNat = a + 0xC0 := ⟨b.toNat - 0xC0, by omega⟩
    rw [← hbyte, ha, readFrom_opens (lead_two (by omega) (by omega))] at h
    obtain ⟨n, rest, rfl, hn, -, -, hread⟩ := exists_last (by omega) (by omega) h
    refine ⟨_, _, rest, ?_, by simp only [List.length_cons]; omega, hread⟩
    rw [utf8EncodeChar_two (by omega) (by omega) hn, ← hbyte, ha]
    rfl
  by_cases hthree : b.toNat < 0xF0
  · obtain ⟨a, ha⟩ : ∃ a, b.toNat = a + 0xE0 := ⟨b.toNat - 0xE0, by omega⟩
    rw [← hbyte, ha, readFrom_opens (lead_three (by omega))] at h
    obtain ⟨m, rest, rfl, hm, hlow, hhigh, h⟩ := exists_more (by split <;> omega) (by split <;> omega) h
    obtain ⟨n, rest, rfl, hn, -, -, hread⟩ := exists_last (by omega) (by omega) h
    refine ⟨_, _, rest, ?_, by simp only [List.length_cons]; omega, hread⟩
    rw [utf8EncodeChar_three (by omega) hm hn ?_ ?_, ← hbyte, ha]
    · rfl
    · rintro rfl
      rw [if_pos rfl] at hlow
      omega
    · rintro rfl
      rw [if_pos rfl] at hhigh
      omega
  · obtain ⟨a, ha⟩ : ∃ a, b.toNat = a + 0xF0 := ⟨b.toNat - 0xF0, by omega⟩
    rw [← hbyte, ha, readFrom_opens (lead_four (by omega))] at h
    obtain ⟨l, rest, rfl, hl, hlow, hhigh, h⟩ := exists_more (by split <;> omega) (by split <;> omega) h
    obtain ⟨m, rest, rfl, hm, -, -, h⟩ := exists_more (by omega) (by omega) h
    obtain ⟨n, rest, rfl, hn, -, -, hread⟩ := exists_last (by omega) (by omega) h
    refine ⟨_, _, rest, ?_, by simp only [List.length_cons]; omega, hread⟩
    rw [utf8EncodeChar_four (by omega) hl hm hn ?_ ?_, ← hbyte, ha]
    · rfl
    · rintro rfl
      rw [if_pos rfl] at hlow
      omega
    · rintro rfl
      rw [if_pos rfl] at hhigh
      omega

end Taken

theorem encode_of_readFrom {out cs : List Char} {i : Nat} {bs : List UInt8} (h : readFrom out i none bs = .ok cs) :
    ∃ ds, cs = out.reverse ++ ds ∧ bs = ds.flatMap String.utf8EncodeChar := by
  induction hlen : bs.length using Nat.strongRecOn generalizing out i bs with
  | ind k ih =>
    cases bs with
    | nil =>
      cases h
      exact ⟨[], by simp, rfl⟩
    | cons b bs =>
      obtain ⟨c, j, rest, hbytes, hshorter, hread⟩ := exists_char h
      obtain ⟨ds, rfl, rfl⟩ := ih rest.length (by omega) hread rfl
      exact ⟨c :: ds, by simp, hbytes⟩

/-- Bytes are read as a text if and only if they are the bytes of that text. -/
theorem read_eq_ok_iff {bs : List UInt8} {s : String} : read bs = .ok s ↔ bs = encode s := by
  constructor
  · intro h
    obtain ⟨cs, hcs, rfl⟩ := map_eq_ok_iff.mp h
    obtain ⟨ds, rfl, rfl⟩ := encode_of_readFrom hcs
    simp [encode]
  · rintro rfl
    exact read_encode s

end ChangeGraph.Text.Utf8
