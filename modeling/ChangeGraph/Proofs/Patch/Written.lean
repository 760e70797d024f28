import ChangeGraph.Proofs.Patch.AddedLines
import ChangeGraph.Proofs.Text.Digits

/-!
# Patches as they are written

A patch is written from its files, their hunks and the lines of these. Its lines are told apart by how they start, and
a written number is read back from its digits.
-/

namespace ChangeGraph.Patch

open ChangeGraph.Text (valuesOf digit?_of_isDigit isDigit_of_mem ofDigits_valuesOf length_valuesOf)

/-! ### The written form -/

/-- What a patch does with a line. -/
inductive Edit where
  | keep
  | add
  | remove
deriving DecidableEq, Repr

def Edit.sign : Edit → Char
  | .keep => ' '
  | .add => '+'
  | .remove => '-'

def Edit.mark : Edit → Mark
  | .keep => .context
  | .add => .added
  | .remove => .removed

/-- A line of a hunk. Its text is not restricted otherwise: it may look like a header. -/
structure EditLine where
  edit : Edit
  text : String
  oneLine : '\n' ∉ text.toList

structure HunkText where
  oldStart : Nat
  newStart : Nat
  lines : List EditLine
  newStart_pos : 1 ≤ newStart
  lines_ne_nil : lines ≠ []

/-- A file of a patch. The path goes to the end of its line. -/
structure FileText where
  path : String
  hunks : List HunkText
  path_plain : path.toList.any isNameEnd = false

def HunkText.oldCount (h : HunkText) : Nat := h.lines.countP (·.edit ≠ .add)

def HunkText.newCount (h : HunkText) : Nat := h.lines.countP (·.edit ≠ .remove)

def EditLine.written (l : EditLine) : String := String.singleton l.edit.sign ++ l.text

def HunkText.header (h : HunkText) : String :=
  s!"@@ -{h.oldStart},{h.oldCount} +{h.newStart},{h.newCount} @@"

def HunkText.written (h : HunkText) : List String := h.header :: h.lines.map EditLine.written

def FileText.written (f : FileText) : List String :=
  ("--- a/" ++ f.path) :: ("+++ b/" ++ f.path) :: f.hunks.flatMap HunkText.written

/-- Lines one under the other, the last with or without a line end. -/
def textOf (ended : Bool) : List String → String
  | [] => ""
  | [l] => if ended then l ++ "\n" else l
  | l :: ls => l ++ "\n" ++ textOf ended ls

/-- The text of a patch from its files. -/
def writePatch (ended : Bool) (fs : List FileText) : String := textOf ended (fs.flatMap FileText.written)

/-- The body of a hunk as the reader sees it. -/
def HunkText.body (h : HunkText) : Body := ⟨h.newStart, h.lines.map (·.edit.mark)⟩

def FileText.section (f : FileText) : Section :=
  { old := "a/" ++ f.path, new := "b/" ++ f.path, bodies := f.hunks.map HunkText.body }

def HunkText.numbers (h : HunkText) : List Nat := [h.oldStart, h.oldCount, h.newStart, h.newCount]

/-- Whether no number of the header of a hunk has too many digits. -/
def HunkText.Short (h : HunkText) : Prop := ∀ n ∈ h.numbers, (Nat.toDigits 10 n).length ≤ Text.digitLimit

/-! ### Numbers -/

theorem filterMap_digit? (n : Nat) : (Nat.toDigits 10 n).filterMap Text.digit? = valuesOf n := by
  rw [valuesOf, ← List.filterMap_eq_map]
  apply List.filterMap_congr
  intro c hc
  exact digit?_of_isDigit (isDigit_of_mem hc)

/-- A written number is read up to a character that is no digit. -/
theorem number?_toDigits (n : Nat) {c : Char} (hc : Text.digit? c = none) (rest : List Char) :
    number? (Nat.toDigits 10 n ++ c :: rest) = some (valuesOf n, c :: rest) := by
  have hall : ∀ c ∈ Nat.toDigits 10 n, (Text.digit? c).isSome = true := by
    intro c hc
    rw [digit?_of_isDigit (isDigit_of_mem hc)]
    rfl
  have htake : (Nat.toDigits 10 n ++ c :: rest).takeWhile (fun c => (Text.digit? c).isSome) = Nat.toDigits 10 n := by
    rw [List.takeWhile_append_of_pos hall, List.takeWhile_cons_of_neg (by simp [hc]), List.append_nil]
  have hne : (Nat.toDigits 10 n).isEmpty = false := by
    simp [Nat.toDigits_ne_nil]
  simp only [number?, htake, hne, Bool.false_eq_true, if_false, filterMap_digit?, List.drop_left]

/-- A number that is written out is read, unless it has too many digits. -/
theorem readNumber_valuesOf {n : Nat} (short : (Nat.toDigits 10 n).length ≤ Text.digitLimit) :
    readNumber (valuesOf n) = .ok n := by
  rw [readNumber, length_valuesOf, if_pos short, ofDigits_valuesOf]

theorem readNumber_valuesOf_long {n : Nat} (long : Text.digitLimit < (Nat.toDigits 10 n).length) :
    readNumber (valuesOf n) = .error (.longNumber (Nat.toDigits 10 n).length) := by
  rw [readNumber, length_valuesOf, if_neg (by omega)]

/-! ### Written lines -/

theorem rest?_append (as cs : List Char) : rest? as (as ++ cs) = some cs := by
  induction as with
  | nil => rfl
  | cons a as ih => simp [rest?, ih]

theorem after?_append (start : String) (cs : List Char) : after? start (start.toList ++ cs) = some cs :=
  rest?_append start.toList cs

theorem after?_cons {start : String} {c : Char} (cs : List Char) (h : start.toList.head?.any (· != c) = true) :
    after? start (c :: cs) = none := by
  rw [after?]
  cases hl : start.toList with
  | nil => simp [hl] at h
  | cons a as =>
    have hac : a ≠ c := by simpa [hl] using h
    simp [rest?, hac]

/-- The header of a hunk with the digits of its numbers. -/
def HunkText.head (h : HunkText) : Header :=
  ⟨valuesOf h.oldStart, valuesOf h.oldCount, valuesOf h.newStart, valuesOf h.newCount⟩

theorem HunkText.toList_header (h : HunkText) (tail : List Char) :
    h.header.toList ++ tail = "@@ -".toList ++ (Nat.toDigits 10 h.oldStart ++ ',' :: (Nat.toDigits 10 h.oldCount ++
      ' ' :: '+' :: (Nat.toDigits 10 h.newStart ++ ',' :: (Nat.toDigits 10 h.newCount ++
        ' ' :: '@' :: '@' :: tail)))) := by
  have hheader : h.header = "@@ -" ++ h.oldStart.repr ++ "," ++ h.oldCount.repr ++ " +" ++ h.newStart.repr ++ "," ++
      h.newCount.repr ++ " @@" := rfl
  have hcomma : ",".toList = [','] := rfl
  have hplus : " +".toList = [' ', '+'] := rfl
  have hend : " @@".toList = [' ', '@', '@'] := rfl
  simp only [hheader, String.toList_append, Nat.repr, String.toList_ofList, hcomma, hplus, hend, List.append_assoc,
    List.cons_append, List.nil_append]

theorem HunkText.header?_header (h : HunkText) (tail : List Char) :
    header? (h.header.toList ++ tail) = some h.head := by
  have hnumber (n : Nat) (rest : List Char) := number?_toDigits n (c := ',') (by decide) rest
  have hcount (n : Nat) (rest : List Char) : count? (',' :: (Nat.toDigits 10 n ++ ' ' :: rest)) = _ :=
    number?_toDigits n (c := ' ') (by decide) rest
  have hplus (rest : List Char) : after? " +" (' ' :: '+' :: rest) = some rest := after?_append " +" rest
  have hend (rest : List Char) : after? " @@" (' ' :: '@' :: '@' :: rest) = some rest := after?_append " @@" rest
  rw [h.toList_header, header?, after?_append]
  simp only [Option.bind_eq_bind, Option.bind_some, hnumber, hcount, hplus, hend]
  rfl

/-- A line that starts neither with `d` nor with `n` is neither the start of a section nor about a mode. -/
theorem not_section {line cs : List Char} {c : Char} (hline : line = c :: cs) (hd : c ≠ 'd') (hn : c ≠ 'n') :
    sectionNames? line = none ∧ after? "new file mode " line = none ∧ after? "deleted file mode " line = none := by
  subst hline
  have hgit : after? "diff --git " (c :: cs) = none := after?_cons cs (by simpa using hd.symm)
  refine ⟨?_, after?_cons cs (by simpa using hn.symm), after?_cons cs (by simpa using hd.symm)⟩
  rw [sectionNames?, hgit]
  rfl

theorem Line.of_oldName (cs : List Char) : Line.of ("--- ".toList ++ cs) = .oldName (String.ofList (nameOf cs)) := by
  have hline : "--- ".toList ++ cs = '-' :: ("-- ".toList ++ cs) := rfl
  obtain ⟨hnames, hnew, hdeleted⟩ := not_section hline (by decide) (by decide)
  simp only [Line.of, hnames, hnew, hdeleted, after?_append, Option.map_none, Option.getD_none, Bool.false_eq_true,
    if_false]

theorem Line.of_newName (cs : List Char) : Line.of ("+++ ".toList ++ cs) = .newName (String.ofList (nameOf cs)) := by
  have hline : "+++ ".toList ++ cs = '+' :: ("++ ".toList ++ cs) := rfl
  obtain ⟨hnames, hnew, hdeleted⟩ := not_section hline (by decide) (by decide)
  have hold : after? "--- " ("+++ ".toList ++ cs) = none := after?_cons ("++ ".toList ++ cs) (by decide)
  simp only [Line.of, hnames, hnew, hdeleted, hold, after?_append, Option.map_none, Option.getD_none,
    Bool.false_eq_true, if_false]

theorem Line.of_header (h : HunkText) (tail : List Char) : Line.of (h.header.toList ++ tail) = .hunk h.head := by
  obtain ⟨cs, hline⟩ : ∃ cs, h.header.toList ++ tail = '@' :: cs := ⟨_, h.toList_header tail⟩
  obtain ⟨hnames, hnew, hdeleted⟩ := not_section hline (by decide) (by decide)
  have hold : after? "--- " (h.header.toList ++ tail) = none := hline ▸ after?_cons cs (by decide)
  have hname : after? "+++ " (h.header.toList ++ tail) = none := hline ▸ after?_cons cs (by decide)
  simp only [Line.of, hnames, hnew, hdeleted, hold, hname, h.header?_header, Option.map_none, Option.getD_none,
    Bool.false_eq_true, if_false]

theorem nameOf_append {cs tail : List Char} (plain : cs.any isNameEnd = false) (ends : tail = [] ∨ tail = ['\n']) :
    nameOf (cs ++ tail) = cs := by
  have hplain : ∀ c ∈ cs, (!isNameEnd c) = true := by
    simpa using plain
  have htail : tail.takeWhile (!isNameEnd ·) = [] := by
    rcases ends with rfl | rfl <;> rfl
  rw [nameOf, List.takeWhile_append_of_pos hplain, htail, List.append_nil]

/-! ### The lines of a written text -/

/-- A line as it stands in a text, with or without its line end. -/
def Stands (cs : List Char) (l : String) : Prop := ∃ tail, (tail = [] ∨ tail = ['\n']) ∧ cs = l.toList ++ tail

theorem linesOf_cons {c : Char} (hc : c ≠ '\n') (cs : List Char) :
    linesOf (c :: cs) = (c :: (linesOf cs).headD []) :: (linesOf cs).tail := by
  rw [linesOf]
  · cases linesOf cs with
    | nil => rfl
    | cons l ls => simp [hc]
  · exact hc

theorem linesOf_append (cs rest : List Char) :
    linesOf (cs ++ '\n' :: rest) = linesOf (cs ++ ['\n']) ++ linesOf rest := by
  induction cs with
  | nil => rfl
  | cons c cs ih =>
    by_cases hc : c = '\n'
    · subst hc
      simp [linesOf, ih]
    · have hne : linesOf (cs ++ ['\n']) ≠ [] := by
        intro hnil
        have hflat := flatten_linesOf (cs ++ ['\n'])
        simp [hnil] at hflat
      obtain ⟨l, ls, hl⟩ := List.exists_cons_of_ne_nil hne
      rw [List.cons_append, List.cons_append, linesOf_cons hc, linesOf_cons hc, ih, hl]
      rfl

theorem headD_linesOf {cs tail : List Char} (oneLine : '\n' ∉ cs) (ends : tail = [] ∨ tail = ['\n']) :
    (linesOf (cs ++ tail)).headD [] = cs ++ tail ∧ (linesOf (cs ++ tail)).tail = [] := by
  induction cs with
  | nil => rcases ends with rfl | rfl <;> exact ⟨rfl, rfl⟩
  | cons c cs ih =>
    obtain ⟨hc, hcs⟩ : c ≠ '\n' ∧ '\n' ∉ cs := by simpa [eq_comm] using oneLine
    obtain ⟨hhead, htail⟩ := ih hcs
    rw [List.cons_append, linesOf_cons hc, hhead, htail]
    exact ⟨rfl, rfl⟩

/-- Whether a string is one line that is not empty. -/
def IsLine (l : String) : Prop := l.toList ≠ [] ∧ '\n' ∉ l.toList

theorem linesOf_stands {l : String} (line : IsLine l) {cs : List Char} (hcs : Stands cs l) : linesOf cs = [cs] := by
  obtain ⟨tail, ends, rfl⟩ := hcs
  obtain ⟨hne, oneLine⟩ := line
  obtain ⟨hhead, htail⟩ := headD_linesOf oneLine ends
  obtain ⟨c, cs, hl⟩ := List.exists_cons_of_ne_nil hne
  have hc : c ≠ '\n' := by
    rintro rfl
    simp [hl] at oneLine
  rw [hl, List.cons_append] at hhead htail ⊢
  rw [linesOf_cons hc] at hhead htail ⊢
  rw [List.headD_cons] at hhead
  rw [List.tail_cons] at htail
  rw [hhead, htail]

theorem stands_textOf (ended : Bool) {ls : List String} (lines : ∀ l ∈ ls, IsLine l) :
    List.Forall₂ Stands (linesOf (textOf ended ls).toList) ls := by
  fun_induction textOf ended ls with
  | case1 => exact List.Forall₂.nil
  | case2 l hended =>
    have hl : Stands (l ++ "\n").toList l := ⟨['\n'], .inr rfl, String.toList_append⟩
    rw [linesOf_stands (lines l List.mem_cons_self) hl]
    exact List.Forall₂.cons hl List.Forall₂.nil
  | case3 l hended =>
    have hl : Stands l.toList l := ⟨[], .inl rfl, (List.append_nil _).symm⟩
    rw [linesOf_stands (lines l List.mem_cons_self) hl]
    exact List.Forall₂.cons hl List.Forall₂.nil
  | case4 l ls hls ih =>
    have hl : Stands (l.toList ++ ['\n']) l := ⟨['\n'], .inr rfl, rfl⟩
    have htext : (l ++ "\n" ++ textOf ended ls).toList = l.toList ++ '\n' :: (textOf ended ls).toList := by
      simp
    rw [htext, linesOf_append, linesOf_stands (lines l List.mem_cons_self) hl]
    exact List.Forall₂.cons hl (ih fun l' hl' => lines l' (List.mem_cons_of_mem _ hl'))

theorem isLine_append {start text : String} (hstart : IsLine start) (htext : '\n' ∉ text.toList) :
    IsLine (start ++ text) := by
  obtain ⟨hne, hnew⟩ := hstart
  constructor <;> simp [hne, hnew, htext]

theorem HunkText.isLine_header (h : HunkText) : IsLine h.header := by
  have hdigits (n : Nat) : '\n' ∉ Nat.toDigits 10 n := fun hn => absurd (isDigit_of_mem hn) (by decide)
  have hheader := h.toList_header []
  rw [List.append_nil] at hheader
  constructor
  · rw [hheader]
    simp
  · rw [hheader]
    simp [hdigits]

theorem EditLine.isLine_written (l : EditLine) : IsLine l.written := by
  refine isLine_append ?_ l.oneLine
  cases l.edit <;> (constructor <;> decide)

theorem FileText.isLine_of_mem_written {f : FileText} {l : String} (hl : l ∈ f.written) : IsLine l := by
  have hpath : '\n' ∉ f.path.toList := fun hn => List.any_eq_false.mp f.path_plain _ hn (by decide)
  simp only [FileText.written, List.mem_cons, List.mem_flatMap, HunkText.written, List.mem_map] at hl
  rcases hl with rfl | rfl | ⟨h, -, rfl | ⟨e, -, rfl⟩⟩
  · exact isLine_append ⟨by decide, by decide⟩ hpath
  · exact isLine_append ⟨by decide, by decide⟩ hpath
  · exact h.isLine_header
  · exact e.isLine_written

theorem stands_writePatch (ended : Bool) (fs : List FileText) :
    List.Forall₂ Stands (linesOf (writePatch ended fs).toList) (fs.flatMap FileText.written) := by
  refine stands_textOf ended ?_
  intro l hl
  obtain ⟨f, -, hl⟩ := List.mem_flatMap.mp hl
  exact FileText.isLine_of_mem_written hl

end ChangeGraph.Patch
