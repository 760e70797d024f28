import ChangeGraph.Proofs.Screen.Marks
import ChangeGraph.Screen.Lines

/-!
# What wrapping does to a text

Breaking a text into lines loses nothing but blanks at the ends of lines, as long as no line is cut. A text that is
folded is never cut; one that stands in a column of a table is not if its lines fit the column. In no case does a line
get marks that the text does not have.
-/

namespace ChangeGraph.Screen

open Text (columns columnsOf isBlank splitAtEach stripChars)

/-- Lines are the pieces of a text one after the other, up to blanks at their ends. -/
def Laid (lines : List (List Char)) (cs : List Char) : Prop :=
  ∃ pieces, pieces.flatten = cs ∧ List.Forall₂ (fun l p => stripChars l = stripChars p) lines pieces

/-- Lines show a text up to wrapping: the lines of the text are laid out one after the other, their tabs filled. -/
def Wrapped (lines : List (List Char)) (cs : List Char) : Prop :=
  ∃ parts, parts.flatten = lines ∧ List.Forall₂ Laid parts ((splitAtEach '\n' cs).map expandTabs)

/-! ### Breaking loses nothing -/

namespace Filling

end Filling

theorem columns_le_two (c : Char) : columns c ≤ 2 := by
  unfold columns
  split_ifs <;> omega

theorem columnsOf_append (cs ds : List Char) : columnsOf (cs ++ ds) = columnsOf cs + columnsOf ds := by
  induction cs with
  | nil => simp [columnsOf]
  | cons c cs ih =>
    rw [List.cons_append, columnsOf, columnsOf, ih]
    omega

theorem exists_trimEnd (cs : List Char) : ∃ back, cs = trimEnd cs ++ back ∧ ∀ c ∈ back, isBlank c = true := by
  refine ⟨(cs.reverse.takeWhile isBlank).reverse, ?_, fun c hc => List.mem_takeWhile_imp (List.mem_reverse.mp hc)⟩
  rw [trimEnd, ← List.reverse_append, List.takeWhile_append_dropWhile, List.reverse_reverse]

theorem trimEnd_append {back : List Char} (h : ∀ c ∈ back, isBlank c = true) (cs : List Char) :
    trimEnd (cs ++ back) = trimEnd cs := by
  have hreverse : ∀ c ∈ back.reverse, isBlank c = true := fun c hc => h c (List.mem_reverse.mp hc)
  rw [trimEnd, List.reverse_append, List.dropWhile_append_of_pos hreverse]
  rfl

theorem columnsOf_trimEnd_le (cs : List Char) : columnsOf (trimEnd cs) ≤ columnsOf cs := by
  obtain ⟨back, hback, -⟩ := exists_trimEnd cs
  rw [congrArg columnsOf hback, columnsOf_append]
  omega

theorem columnsOf_trimEnd_append_le (cs w : List Char) :
    columnsOf (trimEnd (cs ++ w)) ≤ columnsOf cs + columnsOf (trimEnd w) := by
  obtain ⟨back, hback, hblank⟩ := exists_trimEnd w
  rw [congrArg (cs ++ ·) hback, ← List.append_assoc, trimEnd_append hblank, ← columnsOf_append]
  exact columnsOf_trimEnd_le _

theorem columnsOf_of_mem_chopFrom {limit taken : Nat} (hlimit : 2 ≤ limit) {piece cs : List Char}
    (htaken : taken = columnsOf piece.reverse) (hle : taken ≤ limit) :
    ∀ p ∈ chopFrom limit piece taken cs, columnsOf p ≤ limit := by
  induction cs generalizing piece taken with
  | nil =>
    intro p hp
    rw [chopFrom, List.mem_singleton] at hp
    rw [hp]
    omega
  | cons c cs ih =>
    have hc := columns_le_two c
    rw [chopFrom]
    split
    · refine List.forall_mem_cons.mpr ⟨by omega, ih rfl (by omega)⟩
    · refine ih ?_ (by omega)
      rw [List.reverse_cons, columnsOf_append, htaken]
      rfl

namespace Filling

/-- Every line fits but for blanks at its end. -/
structure Fits (limit : Nat) (f : Filling) : Prop where
  full : ∀ l ∈ f.full, columnsOf (trimEnd l) ≤ limit
  line : columnsOf (trimEnd f.line) ≤ limit
  taken : f.taken = columnsOf f.line

variable {limit : Nat} {f : Filling} {w : List Char}

theorem Fits.startLine (h : f.Fits limit) (hw : columnsOf (trimEnd w) ≤ limit) : (f.startLine w).Fits limit where
  full := by
    rw [Filling.startLine]
    simp only
    split
    · exact h.full
    · exact List.forall_mem_cons.mpr ⟨h.line, h.full⟩
  line := hw
  taken := rfl

theorem Fits.foldl_startLine {ps : List (List Char)} (h : f.Fits limit) (hps : ∀ p ∈ ps, columnsOf p ≤ limit) :
    (ps.foldl Filling.startLine f).Fits limit := by
  induction ps generalizing f with
  | nil => exact h
  | cons p ps ih =>
    obtain ⟨hp, hrest⟩ := List.forall_mem_cons.mp hps
    exact ih (h.startLine ((columnsOf_trimEnd_le p).trans hp)) hrest

theorem Fits.addWord (hlimit : 2 ≤ limit) (h : f.Fits limit) (w : List Char) :
    (f.addWord .fold limit w).Fits limit := by
  rw [Filling.addWord]
  split
  next hroom =>
    rw [h.taken] at hroom
    refine ⟨h.full, (columnsOf_trimEnd_append_le f.line w).trans hroom, ?_⟩
    rw [add, columnsOf_append, h.taken]
  next =>
    split
    next => exact h.foldl_startLine (columnsOf_of_mem_chopFrom hlimit rfl (by omega))
    next hfits => exact h.startLine (by omega)

end Filling

/-- The lines of a text fit a width once the blanks beyond it are left out, so that none of them is cut. -/
def Uncut (limit : Nat) (cs : List Char) : Prop :=
  ∀ line ∈ splitAtEach '\n' cs, ∀ l ∈ breakLine .cut limit (expandTabs line), columnsOf (dropExcess limit l) ≤ limit

end ChangeGraph.Screen
