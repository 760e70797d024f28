import ChangeGraph.Toml.Layout
import ChangeGraph.Toml.Writer
import Mathlib.Data.List.Basic
import Mathlib.Tactic.Common

/-!
# Lines that pass the layout as they are

The pass over the characters of a settings text leaves a line alone that is blank, a header of bare names, or a bare key
with a value that itself passes. A text of such lines passes as a whole.
-/

namespace ChangeGraph.Toml

theorem ne_of_isBareChar {c d : Char} (hc : isBareChar c = true) (hd : isBareChar d = false) : c ≠ d := by
  rintro rfl
  rw [hc] at hd
  cases hd

theorem toNat_of_isBareChar {c : Char} (h : isBareChar c = true) : 0x2D ≤ c.toNat ∧ c.toNat ≤ 0x7A := by
  have val : c.toNat = c.val.toNat := rfl
  have letter : c.isAlpha =
      (decide ('A'.val ≤ c.val ∧ c.val ≤ 'Z'.val) || decide ('a'.val ≤ c.val) && decide (c.val ≤ 'z'.val)) := rfl
  simp only [isBareChar, Char.isAlphanum, letter, Char.isDigit, Bool.or_eq_true, Bool.and_eq_true, decide_eq_true_eq,
    beq_iff_eq, ge_iff_le, UInt32.le_iff_toNat_le] at h
  rcases h with (((h | h) | h) | rfl) | rfl
  · simp at h
    omega
  · simp at h
    omega
  · simp at h
    omega
  · decide
  · decide

theorem isBlank_of_isBareChar {c : Char} (h : isBareChar c = true) : Text.isBlank c = false := by
  have bounds := toNat_of_isBareChar h
  simp only [Text.isBlank, Text.isNumberBlank, Text.isSeparator, Bool.or_eq_false_iff, Bool.and_eq_false_iff,
    decide_eq_false_iff_not, beq_eq_false_iff_ne]
  omega

namespace Layout

theorem run_of_step {l l' : Layout} {c : Char} {cs : List Char} (h : l.step c cs.head? = .ok l') :
    run l (c :: cs) = run l' cs := by
  rw [run, h]
  rfl

/-- Characters that only add themselves to what is passed do so in a row. -/
theorem run_of_steps {state : List Char → Layout} {p : Char → Bool}
    (hstep : ∀ c done next, p c = true → (state done).step c next = .ok (state (c :: done))) {cs : List Char}
    (h : ∀ c ∈ cs, p c = true) (done rest : List Char) :
    run (state done) (cs ++ rest) = run (state (cs.reverse ++ done)) rest := by
  induction cs generalizing done with
  | nil => rfl
  | cons c cs ih =>
    have hc : p c = true := h c List.mem_cons_self
    have hcs : ∀ d ∈ cs, p d = true := fun d hd => h d (List.mem_cons_of_mem c hd)
    rw [List.cons_append, run_of_step (hstep c done _ hc), ih hcs, List.reverse_cons, List.append_assoc]
    rfl

def between (done : List Char) : Layout := { done }

def inKey (done : List Char) : Layout := { done, key := .inside, lineStart := false }

def inHeader (done : List Char) : Layout := { done, header := .table, lineStart := false }

-- Outside of texts, with the number of brackets that are open.
def inValue (done : List Char) (lists : Int) : Layout := { done, lists, lineStart := false }

/-! ### Values -/

/-- Characters that neither open nor close anything. -/
def isInert (c : Char) : Bool := !(['\'', '"', '[', ']', '#', '\n'].contains c)

theorem step_inValue {c : Char} (h : isInert c = true) (done : List Char) (lists : Int) (next : Option Char) :
    (inValue done lists).step c next = .ok (inValue (c :: done) lists) := by
  simp only [isInert, List.contains_eq_mem, List.mem_cons, List.not_mem_nil, or_false, not_or, Bool.not_eq_true',
    decide_eq_false_iff_not] at h
  obtain ⟨h1, h2, h3, h4, h5, h6⟩ := h
  simp [step, inValue, stepValue, stepQuotes, stepBrackets, stepLineStart, put, h1, h2, h3, h4, h5, h6]

/-- A value that comes out as it went in, after a blank. -/
def Passes (cs : List Char) : Prop :=
  ∀ done lists rest, run (inValue (' ' :: done) lists) (cs ++ rest) =
    run (inValue (cs.reverse ++ ' ' :: done) lists) rest

theorem passes_of_isInert {cs : List Char} (h : ∀ c ∈ cs, isInert c = true) : Passes cs := by
  intro done lists rest
  exact run_of_steps (fun _ done next hc => step_inValue hc done lists next) h (' ' :: done) rest

theorem step_lineEnd (done : List Char) (next : Option Char) :
    (inValue done 0).step '\n' next = .ok (between ('\n' :: done)) := rfl

/-! ### Keys and headers -/

theorem isInert_of_isBareChar {c : Char} (h : isBareChar c = true) : isInert c = true := by
  simp only [isInert, List.contains_eq_mem, List.mem_cons, List.not_mem_nil, or_false, not_or, Bool.not_eq_true',
    decide_eq_false_iff_not]
  refine ⟨?_, ?_, ?_, ?_, ?_, ?_⟩ <;> exact ne_of_isBareChar h (by decide)

theorem step_between_key {c : Char} (h : isBareChar c = true) (done : List Char) (next : Option Char) :
    (between done).step c next = .ok (inKey (c :: done)) := by
  have h1 : c ≠ '\'' := ne_of_isBareChar h (by decide)
  have h2 : c ≠ '"' := ne_of_isBareChar h (by decide)
  have h3 : c ≠ '[' := ne_of_isBareChar h (by decide)
  have h4 : c ≠ ']' := ne_of_isBareChar h (by decide)
  have h5 : c ≠ '#' := ne_of_isBareChar h (by decide)
  have h6 : c ≠ '\n' := ne_of_isBareChar h (by decide)
  have h7 : c ≠ ' ' := ne_of_isBareChar h (by decide)
  have h8 : c ≠ '\t' := ne_of_isBareChar h (by decide)
  have h9 : c ≠ '=' := ne_of_isBareChar h (by decide)
  simp [step, between, inKey, stepValue, stepQuotes, stepBrackets, stepLineStart, put, h1, h2, h3, h4, h5, h6, h7, h8,
    h9]

theorem step_inKey {c : Char} (h : isBareChar c = true) (done : List Char) (next : Option Char) :
    (inKey done).step c next = .ok (inKey (c :: done)) := by
  have h1 : c ≠ '\n' := ne_of_isBareChar h (by decide)
  have h2 : c ≠ '.' := ne_of_isBareChar h (by decide)
  have hblank : Text.isBlank c = false := isBlank_of_isBareChar h
  have hkey : isKeyChar c = true := by
    unfold isBareChar at h
    simp [isKeyChar, Text.isAlphanumeric]
    simp only [Bool.or_eq_true, beq_iff_eq] at h
    exact Or.imp_left (Or.imp_left Or.inl) h
  simp [step, inKey, stepKey, put, h1, h2, hblank, hkey]
  rfl

theorem run_equals (done rest : List Char) :
    run (inKey done) (" = ".toList ++ rest) = run (inValue (' ' :: '=' :: ' ' :: done) 0) rest := rfl

theorem step_between_header {next : Option Char} (h : next ≠ some '[') (done : List Char) :
    (between done).step '[' next = .ok (inHeader ('[' :: done)) := by
  simp [step, between, inHeader, stepValue, stepQuotes, stepBrackets, stepLineStart, put, h]

theorem step_inHeader {c : Char} (h : isInert c = true) (done : List Char) (next : Option Char) :
    (inHeader done).step c next = .ok (inHeader (c :: done)) := by
  simp only [isInert, List.contains_eq_mem, List.mem_cons, List.not_mem_nil, or_false, not_or, Bool.not_eq_true',
    decide_eq_false_iff_not] at h
  obtain ⟨h1, h2, h3, h4, h5, h6⟩ := h
  simp [step, inHeader, stepValue, stepQuotes, stepBrackets, stepLineStart, put, h1, h2, h3, h4, h5, h6]

theorem run_headerEnd (done rest : List Char) :
    run (inHeader done) (']' :: '\n' :: rest) = run (between ('\n' :: ']' :: done)) rest := rfl

/-! ### Lines -/

/-- A line that comes out as it went in. -/
def LinePasses (line : List Char) : Prop :=
  ∀ done rest, run (between done) (line ++ '\n' :: rest) = run (between ('\n' :: line.reverse ++ done)) rest

theorem linePasses_nil : LinePasses [] := fun _ _ => rfl

theorem linePasses_entry {key value : List Char} (hkey : isBare key = true) (hvalue : Passes value) :
    LinePasses (key ++ " = ".toList ++ value) := by
  intro done rest
  cases key with
  | nil => cases hkey
  | cons c cs =>
    simp only [isBare, List.isEmpty_cons, Bool.not_false, Bool.true_and, List.all_cons, Bool.and_eq_true,
      List.all_eq_true] at hkey
    rw [List.append_assoc, List.append_assoc, List.cons_append, run_of_step (step_between_key hkey.1 done _),
      run_of_steps (fun _ done next hc => step_inKey hc done next) hkey.2, run_equals, hvalue, run_of_step (step_lineEnd _ _)]
    simp

theorem linePasses_header {name : List Char} (h : ∀ c ∈ name, isInert c = true) : LinePasses ('[' :: name ++ [']']) := by
  intro done rest
  have hnext : (name ++ ']' :: '\n' :: rest).head? ≠ some '[' := by
    cases name with
    | nil => simp
    | cons c cs =>
      have hc := h c List.mem_cons_self
      rintro heq
      cases heq
      cases hc
  have hsplit : '[' :: name ++ [']'] ++ '\n' :: rest = '[' :: (name ++ ']' :: '\n' :: rest) := by simp
  rw [hsplit, run_of_step (step_between_header hnext done), run_of_steps (fun _ done next hc => step_inHeader hc done next) h,
    run_headerEnd]
  simp

theorem run_lines {ls : List (List Char)} (h : ∀ l ∈ ls, LinePasses l) (done : List Char) :
    run (between done) (ls.flatMap (· ++ ['\n'])) = .ok (between ((ls.flatMap (· ++ ['\n'])).reverse ++ done)) := by
  induction ls generalizing done with
  | nil => rfl
  | cons l ls ih =>
    have hl : LinePasses l := h l List.mem_cons_self
    have hls : ∀ l ∈ ls, LinePasses l := fun k hk => h k (List.mem_cons_of_mem l hk)
    rw [List.flatMap_cons, List.append_assoc]
    refine (hl done (ls.flatMap (· ++ ['\n']))).trans ?_
    rw [ih hls]
    simp

end Layout

theorem layOut_lines {ls : List (List Char)} (h : ∀ l ∈ ls, Layout.LinePasses l) :
    layOut (ls.flatMap (· ++ ['\n'])) = .ok (ls.flatMap (· ++ ['\n'])) := by
  have hrun : Layout.run {} (ls.flatMap (· ++ ['\n'])) = _ := Layout.run_lines h []
  rw [layOut, hrun]
  simp [Layout.finish, Layout.between, bind, Except.bind]

end ChangeGraph.Toml
