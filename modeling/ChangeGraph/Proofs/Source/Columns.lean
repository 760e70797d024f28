import ChangeGraph.Proofs.Text.Cutting
import ChangeGraph.Proofs.Text.Utf8
import ChangeGraph.Source.File
import Mathlib.Algebra.GroupWithZero.Nat

/-!
# Columns count characters

A file is cut into lines as bytes and a column is a number of bytes, but what is shown is a number of characters. Only a
line feed has the byte of a line feed, so the lines of the bytes are the bytes of the lines. The bytes up to the end of a
character are whole characters, which are read as they were put into bytes.
-/

namespace ChangeGraph

namespace Text.Utf8

/-! ### Bytes without fault -/

/-- Where the strict reader finds no fault, nothing is replaced. -/
theorem append_decodeFrom {out cs : List Char} {i : Nat} {pending : Option (Nat × UInt8 × Pending)} {bs : List UInt8}
    (h : readFrom out i pending bs = .ok cs) : out.reverse ++ decodeFrom (pending.map (·.2.2)) bs = cs := by
  fun_induction readFrom out i pending bs with
  | case1 out i =>
    cases h
    simp [decodeFrom]
  | case2 => cases h
  | case3 out i b bs c hlead ih =>
    rw [← ih h]
    simp [decodeFrom, begin, hlead]
  | case4 out i b bs p hlead ih =>
    rw [← ih h]
    simp [decodeFrom, begin, hlead]
  | case5 => cases h
  | case6 out i first b₀ p b bs fits q hlast ih =>
    rw [← ih h]
    simp [decodeFrom, fits, q, hlast]
  | case7 out i first b₀ p b bs fits q hmore ih =>
    rw [← ih h]
    simp [decodeFrom, fits, q, hmore]
  | case8 => cases h

theorem decodeFrom_encode (cs : List Char) : decodeFrom none (cs.flatMap String.utf8EncodeChar) = cs :=
  append_decodeFrom (readFrom_encode cs [] 0)

/-! ### Line feeds among bytes -/

theorem le_of_mem_utf8EncodeChar {c : Char} (hc : 0x80 ≤ c.toNat) {b : UInt8} (hb : b ∈ String.utf8EncodeChar c) :
    0x80 ≤ b.toNat := by
  have hval : c.val.toNat = c.toNat := rfl
  have hbyte : ∀ n low, 0x80 ≤ low → n + low < 256 → 0x80 ≤ (UInt8.ofNat (n + low)).toNat := by
    intro n low hlow hlt
    rw [toNat_byte hlt]
    omega
  simp only [String.utf8EncodeChar, hval] at hb
  rw [if_neg (by omega)] at hb
  split_ifs at hb
  all_goals
    simp only [List.mem_cons, List.not_mem_nil, or_false] at hb
    rcases hb with rfl | rfl | rfl | rfl <;> exact hbyte _ _ (by omega) (by omega)

theorem newline_notMem_utf8EncodeChar {c : Char} (h : c ≠ '\n') : (10 : UInt8) ∉ String.utf8EncodeChar c := by
  intro hmem
  by_cases hc : 0x80 ≤ c.toNat
  · have hle := le_of_mem_utf8EncodeChar hc hmem
    exact absurd hle (by decide)
  · -- a character of one byte is that byte
    have hval : c.val.toNat = c.toNat := rfl
    simp only [String.utf8EncodeChar, hval] at hmem
    rw [if_pos (by omega), List.mem_singleton] at hmem
    have hcode : c.toNat = 10 := by
      rw [← toNat_byte (n := c.toNat) (by omega), ← hmem]
      rfl
    exact h (by rw [← Char.ofNat_toNat c, hcode])

theorem newline_notMem_encode {cs : List Char} (h : '\n' ∉ cs) : (10 : UInt8) ∉ cs.flatMap String.utf8EncodeChar := by
  intro hmem
  obtain ⟨c, hc, hbyte⟩ := List.mem_flatMap.mp hmem
  exact newline_notMem_utf8EncodeChar (fun heq => h (heq ▸ hc)) hbyte

/-- The lines of the bytes are the bytes of the lines. -/
theorem splitAtEach_encode (cs : List Char) :
    splitAtEach 10 (cs.flatMap String.utf8EncodeChar) =
      (splitAtEach '\n' cs).map (·.flatMap String.utf8EncodeChar) := by
  obtain ⟨front, pieces, rfl, hpieces⟩ := exists_append_flatMap '\n' cs
  have hnewline : String.utf8EncodeChar '\n' = [10] := by decide
  have hbytes : (front ++ pieces.flatMap ('\n' :: ·)).flatMap String.utf8EncodeChar =
      front.flatMap String.utf8EncodeChar ++
        (pieces.map (·.flatMap String.utf8EncodeChar)).flatMap ((10 : UInt8) :: ·) := by
    simp only [List.flatMap_append, List.flatMap_assoc, List.flatMap_map, List.flatMap_cons, hnewline,
      List.singleton_append]
  have habsent : ∀ p ∈ (front :: pieces).map (·.flatMap String.utf8EncodeChar), (10 : UInt8) ∉ p := by
    intro p hp
    obtain ⟨piece, hpiece, rfl⟩ := List.mem_map.mp hp
    exact newline_notMem_encode (hpieces piece hpiece)
  rw [splitAtEach_append_flatMap hpieces, hbytes, List.map_cons]
  exact splitAtEach_append_flatMap habsent

/-! ### Bytes in front of a character -/

theorem length_encode (cs : List Char) : (cs.flatMap String.utf8EncodeChar).length = (cs.map Char.utf8Size).sum := by
  simp only [List.length_flatMap, String.length_utf8EncodeChar]

theorem take_encode (cs : List Char) (k : Nat) :
    (cs.flatMap String.utf8EncodeChar).take ((cs.take k).map Char.utf8Size).sum =
      (cs.take k).flatMap String.utf8EncodeChar := by
  have happend : cs.flatMap String.utf8EncodeChar =
      (cs.take k).flatMap String.utf8EncodeChar ++ (cs.drop k).flatMap String.utf8EncodeChar := by
    rw [← List.flatMap_append, List.take_append_drop]
  rw [happend, ← length_encode, List.take_left]

end Text.Utf8

namespace SourceFile

open ChangeGraph.Syntax

theorem byteLines_ofTree (path source : String) (root : Node) :
    (ofTree path source root).byteLines = (Text.splitLines source).map Text.Utf8.encode := by
  have hencode : Text.Utf8.encode ∘ String.ofList = (·.flatMap String.utf8EncodeChar) := by
    funext cs
    simp only [Function.comp_apply, Text.Utf8.encode, String.toList_ofList]
  rw [Text.splitLines, List.map_map, hencode, ← Text.Utf8.splitAtEach_encode]
  rfl

theorem columnOf_of_line {f : SourceFile} {p : Point} {line : String} {k : Nat}
    (hline : f.byteLines[p.row]? = some (Text.Utf8.encode line)) (hk : k ≤ line.length)
    (hcolumn : p.column = ((line.toList.take k).map Char.utf8Size).sum) : f.columnOf p = k + 1 := by
  have hbytes : f.byteLines.getD p.row [] = line.toList.flatMap String.utf8EncodeChar := by
    rw [List.getD_eq_getElem?_getD, hline]
    rfl
  have hlength : (line.toList.take k).length = k := by
    rw [List.length_take, String.length_toList]
    omega
  rw [columnOf, hbytes, hcolumn, Text.Utf8.take_encode, Text.Utf8.decode, Text.Utf8.decodeFrom_encode,
    String.length_ofList, hlength]

@[simp] theorem root_ofTree (path source : String) (root : Node) : (ofTree path source root).root = root := rfl

theorem eq_ofTree_of_parse {source path : String} {f : SourceFile} (h : parse source path = .ok f) :
    f = ofTree path source f.root := by
  cases hk : SourceKind.ofPath? path with
  | none => simp only [parse, hk, reduceCtorEq] at h
  | some k =>
    simp only [parse, hk, Except.ok.injEq] at h
    rw [← h, root_ofTree]

/-- The bytes of a file, line by line, are those of the lines of its text. A node that starts in a line where its `k`-th
character ends, counted in bytes, has the column `k + 1`. Both hold for a text with any tree, and a file that is read is
a text with a tree. -/
theorem columnOf_boundary (path source : String) (root : Node) :
    (ofTree path source root).byteLines = (Text.splitLines source).map Text.Utf8.encode ∧
    (∀ (row k : Nat) (line : String) (n : Node), (Text.splitLines source)[row]? = some line → k ≤ line.length →
      n.start = ⟨row, ((line.toList.take k).map Char.utf8Size).sum⟩ →
      (ofTree path source root).columnOf n.start = k + 1) ∧
    ∀ f, parse source path = .ok f → f = ofTree path source f.root := by
  have hlines := byteLines_ofTree path source root
  refine ⟨hlines, fun row k line n hline hk hstart => ?_, fun f => eq_ofTree_of_parse⟩
  have hbytes : (ofTree path source root).byteLines[n.start.row]? = some (Text.Utf8.encode line) := by
    rw [hlines, hstart, List.getElem?_map, hline, Option.map_some]
  exact columnOf_of_line hbytes hk (by rw [hstart])

/-- Seven bytes of the second line are two characters. -/
theorem columnOf_boundary_wide :
    (Text.splitLines "é\n€😀x")[1]? = some "€😀x" ∧
    ∃ f, parse "é\n€😀x" "m.js" = .ok f ∧ f.byteLines = [[195, 169], [226, 130, 172, 240, 159, 152, 128, 120]] ∧
      f.columnOf ⟨1, 7⟩ = 3 := by
  have hline : (Text.splitLines "é\n€😀x")[1]? = some "€😀x" := by decide
  have hkind : SourceKind.ofPath? "m.js" = some .javaScript := by decide
  obtain ⟨f, hread⟩ : ∃ f, parse "é\n€😀x" "m.js" = .ok f := by
    simp only [parse, hkind, Except.ok.injEq, exists_eq']
  obtain ⟨hlines, hcolumn, hfile⟩ := columnOf_boundary "m.js" "é\n€😀x" f.root
  rw [← hfile f hread] at hlines hcolumn
  refine ⟨hline, f, hread, hlines.trans (by decide), ?_⟩
  exact hcolumn 1 2 "€😀x" (.mk { kind := "identifier", start := ⟨1, 7⟩, stop := ⟨1, 8⟩ } []) hline (by decide) rfl

end SourceFile

end ChangeGraph
