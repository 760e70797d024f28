import Mathlib.Data.List.Basic
import ChangeGraph.Text.Lines
import ChangeGraph.Text.Utf8

/-!
# Texts as bytes

A text is read as it was put into bytes: the reader takes the bytes of each character, one lead byte and those that are
missing after it, and is between characters again.
-/

namespace ChangeGraph.Text.Utf8

theorem toNat_byte {n : Nat} (h : n < 256) : (UInt8.ofNat n).toNat = n := UInt8.toNat_ofNat_of_lt' h

/-! ### Bytes behind a lead byte -/

theorem fits_byte {p : Pending} {n : Nat} (hlow : p.low ≤ n + 0x80) (hhigh : n + 0x80 ≤ p.high) (hn : n < 64) :
    p.fits (UInt8.ofNat (n + 0x80)) = true := by
  rw [Pending.fits, toNat_byte (by omega), Bool.and_eq_true, decide_eq_true_eq, decide_eq_true_eq]
  exact ⟨hlow, hhigh⟩

theorem add_byte (p : Pending) {n : Nat} (hn : n < 64) :
    p.add (UInt8.ofNat (n + 0x80)) = ⟨p.bits * 64 + n, p.missing - 1, 0x80, 0xBF⟩ := by
  have hbyte : (UInt8.ofNat (n + 0x80)).toNat = n + 0x80 := toNat_byte (by omega)
  have hsub : (UInt8.ofNat (n + 0x80)).toNat - 0x80 = n := by omega
  unfold Pending.add
  rw [hsub]

theorem readFrom_more {out : List Char} {i first bits missing low high n : Nat} {b : UInt8} {bs : List UInt8}
    (hlow : low ≤ n + 0x80) (hhigh : n + 0x80 ≤ high) (hn : n < 64) :
    readFrom out i (some (first, b, ⟨bits, missing + 2, low, high⟩)) (UInt8.ofNat (n + 0x80) :: bs) =
      readFrom out (i + 1) (some (first, b, ⟨bits * 64 + n, missing + 1, 0x80, 0xBF⟩)) bs := by
  rw [readFrom, fits_byte hlow hhigh hn, add_byte _ hn]
  rfl

theorem readFrom_last {out : List Char} {i first bits low high n : Nat} {b : UInt8} {bs : List UInt8}
    (hlow : low ≤ n + 0x80) (hhigh : n + 0x80 ≤ high) (hn : n < 64) :
    readFrom out i (some (first, b, ⟨bits, 1, low, high⟩)) (UInt8.ofNat (n + 0x80) :: bs) =
      readFrom (Char.ofNat (bits * 64 + n) :: out) (i + 1) none bs := by
  rw [readFrom, fits_byte hlow hhigh hn, add_byte _ hn]
  rfl

theorem readFrom_opens {out : List Char} {i n : Nat} {p : Pending} {bs : List UInt8} (h : lead (UInt8.ofNat n) = .opens p) :
    readFrom out i none (UInt8.ofNat n :: bs) = readFrom out (i + 1) (some (i, UInt8.ofNat n, p)) bs := by
  rw [readFrom, h]

/-! ### Lead bytes -/

theorem lead_two {n : Nat} (hlow : 2 ≤ n) (hhigh : n < 32) :
    lead (UInt8.ofNat (n + 0xC0)) = .opens ⟨n, 1, 0x80, 0xBF⟩ := by
  have hbyte : (UInt8.ofNat (n + 0xC0)).toNat = n + 0xC0 := toNat_byte (by omega)
  rw [lead, hbyte, if_neg (by omega), if_neg (by omega), if_pos (by omega), Nat.add_sub_cancel]

theorem lead_three {n : Nat} (hn : n < 16) :
    lead (UInt8.ofNat (n + 0xE0)) =
      .opens ⟨n, 2, if n = 0 then 0xA0 else 0x80, if n = 0xD then 0x9F else 0xBF⟩ := by
  have hbyte : (UInt8.ofNat (n + 0xE0)).toNat = n + 0xE0 := toNat_byte (by omega)
  have hfirst : n + 0xE0 = 0xE0 ↔ n = 0 := by omega
  have hgap : n + 0xE0 = 0xED ↔ n = 0xD := by omega
  rw [lead, hbyte, if_neg (by omega), if_neg (by omega), if_neg (by omega), if_pos (by omega), Nat.add_sub_cancel]
  simp only [hfirst, hgap]

theorem lead_four {n : Nat} (hn : n < 5) :
    lead (UInt8.ofNat (n + 0xF0)) =
      .opens ⟨n, 3, if n = 0 then 0x90 else 0x80, if n = 4 then 0x8F else 0xBF⟩ := by
  have hbyte : (UInt8.ofNat (n + 0xF0)).toNat = n + 0xF0 := toNat_byte (by omega)
  have hfirst : n + 0xF0 = 0xF0 ↔ n = 0 := by omega
  have hlast : n + 0xF0 = 0xF4 ↔ n = 4 := by omega
  rw [lead, hbyte, if_neg (by omega), if_neg (by omega), if_neg (by omega), if_neg (by omega), if_pos (by omega),
    Nat.add_sub_cancel]
  simp only [hfirst, hlast]

/-! ### Characters and texts -/

theorem readFrom_utf8EncodeChar (c : Char) (out : List Char) (i : Nat) (bs : List UInt8) :
    ∃ j, readFrom out i none (String.utf8EncodeChar c ++ bs) = readFrom (c :: out) j none bs := by
  have hchar : ∀ n, n = c.toNat → Char.ofNat n = c := fun n hn => hn ▸ Char.ofNat_toNat c
  have hvalid : c.toNat < 0xD800 ∨ 0xDFFF < c.toNat ∧ c.toNat < 0x110000 := c.valid
  have hval : c.val.toNat = c.toNat := rfl
  simp only [String.utf8EncodeChar, hval]
  -- The bounds of the second byte leave out what fewer bytes can stand for, the gap of the surrogates and what is
  -- beyond the last character.
  split_ifs with hone htwo hthree
  · have hbyte : (UInt8.ofNat c.toNat).toNat = c.toNat := toNat_byte (by omega)
    refine ⟨i + 1, ?_⟩
    rw [List.cons_append, List.nil_append, readFrom, lead, hbyte, if_pos (by omega), hchar _ rfl]
  · have hlead : c.toNat / 64 % 32 = c.toNat / 64 := Nat.mod_eq_of_lt (by omega)
    refine ⟨i + 1 + 1, ?_⟩
    rw [List.cons_append, List.cons_append, List.nil_append, readFrom_opens (lead_two (by omega) (by omega)),
      readFrom_last (by omega) (by omega) (by omega), hchar _ (by omega)]
  · have hlead : c.toNat / 4096 % 16 = c.toNat / 4096 := Nat.mod_eq_of_lt (by omega)
    refine ⟨i + 1 + 1 + 1, ?_⟩
    rw [List.cons_append, List.cons_append, List.cons_append, List.nil_append, readFrom_opens (lead_three (by omega)),
      readFrom_more (by split <;> omega) (by split <;> omega) (by omega),
      readFrom_last (by omega) (by omega) (by omega), hchar _ (by omega)]
  · have hlead : c.toNat / 262144 % 8 = c.toNat / 262144 := Nat.mod_eq_of_lt (by omega)
    refine ⟨i + 1 + 1 + 1 + 1, ?_⟩
    rw [List.cons_append, List.cons_append, List.cons_append, List.cons_append, List.nil_append,
      readFrom_opens (lead_four (by omega)), readFrom_more (by split <;> omega) (by split <;> omega) (by omega),
      readFrom_more (by omega) (by omega) (by omega), readFrom_last (by omega) (by omega) (by omega),
      hchar _ (by omega)]

theorem readFrom_encode (cs out : List Char) (i : Nat) :
    readFrom out i none (cs.flatMap String.utf8EncodeChar) = .ok (out.reverse ++ cs) := by
  induction cs generalizing out i with
  | nil => simp [readFrom]
  | cons c cs ih =>
    obtain ⟨j, hread⟩ := readFrom_utf8EncodeChar c out i (cs.flatMap String.utf8EncodeChar)
    rw [List.flatMap_cons, hread, ih (c :: out) j, List.reverse_cons, List.append_assoc]
    rfl

/-- A text is read as it was put into bytes. -/
theorem read_encode (s : String) : read (encode s) = .ok s := by
  rw [read, encode, readFrom_encode]
  exact congrArg Except.ok (String.ofList_toList (s := s))

end Utf8

theorem plainLineEnds_of_notMem {cs : List Char} (h : '\r' ∉ cs) : plainLineEnds cs = cs := by
  fun_induction plainLineEnds cs with
  | case1 => rfl
  | case2 cs ih => exact absurd List.mem_cons_self h
  | case3 c cs hnot ih =>
    rw [List.mem_cons, not_or] at h
    obtain ⟨hc, hcs⟩ := h
    rw [ih hcs]
    have hne : (c == '\r') = false := by simpa using Ne.symm hc
    rw [hne, if_neg Bool.false_ne_true]

theorem withPlainLineEnds_of_notMem {s : String} (h : '\r' ∉ s.toList) : withPlainLineEnds s = s := by
  rw [withPlainLineEnds, plainLineEnds_of_notMem h, String.ofList_toList]

end ChangeGraph.Text
