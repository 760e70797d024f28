import ChangeGraph.Graph.Dot
import Mathlib.Algebra.Ring.Parity
import Mathlib.Data.List.Induction
import Mathlib.Tactic.Common

/-!
# Quoted texts

A quoted text ends at the first quote that no backslash takes. Writing puts a backslash before each quote and leaves
backslashes alone, so a backslash of the text may take the one that was put there, or the closing quote. That happens
unless the backslashes before each quote and at the end are even in number.
-/

namespace ChangeGraph.Dot

/-- What stands in front of the closing quote, and what follows it. A backslash takes the next character with it. -/
def readQuoted : List Char → Option (List Char × List Char)
  | [] => none
  | '"' :: cs => some ([], cs)
  | '\\' :: c :: cs => (readQuoted cs).map fun r => ('\\' :: c :: r.1, r.2)
  | c :: cs => (readQuoted cs).map fun r => (c :: r.1, r.2)

/-- The text with a quote in place of each backslash and quote. -/
def unescape : List Char → List Char
  | '\\' :: '"' :: cs => '"' :: unescape cs
  | c :: cs => c :: unescape cs
  | [] => []

def escaped (cs : List Char) : List Char := cs.flatMap fun c => if c == '"' then ['\\', '"'] else [c]

theorem toList_escape (s : String) : (escape s).toList = escaped s.toList := by simp [escape, escaped]

@[simp] theorem escaped_nil : escaped [] = [] := rfl

@[simp] theorem escaped_quote (cs : List Char) : escaped ('"' :: cs) = '\\' :: '"' :: escaped cs := rfl

theorem escaped_cons {c : Char} (hc : c ≠ '"') (cs : List Char) : escaped (c :: cs) = c :: escaped cs := by
  simp [escaped, hc]

theorem escaped_append (cs ds : List Char) : escaped (cs ++ ds) = escaped cs ++ escaped ds := by simp [escaped]

theorem head?_escaped (cs : List Char) : (escaped cs).head? ≠ some '"' := by
  cases cs with
  | nil => simp
  | cons c cs =>
    by_cases hc : c = '"'
    · simp [hc]
    · simp [escaped_cons hc, hc]

theorem unescape_cons {c : Char} {cs : List Char} (h : c ≠ '\\' ∨ cs.head? ≠ some '"') :
    unescape (c :: cs) = c :: unescape cs := by
  rw [unescape.eq_def]
  split
  · simp_all
  · simp_all
  · simp_all

theorem unescape_escaped (cs : List Char) : unescape (escaped cs) = cs := by
  induction cs with
  | nil => rfl
  | cons c cs ih =>
    by_cases hc : c = '"'
    · rw [hc, escaped_quote, unescape, ih]
    · rw [escaped_cons hc, unescape_cons (.inr (head?_escaped cs)), ih]

/-! ### Runs of backslashes -/

/-- How many backslashes a text ends with. -/
def backslashes (cs : List Char) : Nat := (cs.reverse.takeWhile (· == '\\')).length

/-- The backslashes right before each quote and at the end are even in number. -/
def EvenRuns (cs : List Char) : Prop :=
  ∀ front back, cs = front ++ back → (back = [] ∨ back.head? = some '"') → Even (backslashes front)

theorem backslashes_concat (cs : List Char) (c : Char) :
    backslashes (cs ++ [c]) = if c = '\\' then backslashes cs + 1 else 0 := by
  by_cases hc : c = '\\' <;> simp [backslashes, hc]

/-- What stands before a text changes its last run by an even number, if it ends with an even run itself. -/
theorem even_backslashes_append {front : List Char} (h : Even (backslashes front)) (cs : List Char) :
    Even (backslashes (front ++ cs)) ↔ Even (backslashes cs) := by
  induction cs using List.reverseRecOn with
  | nil =>
    have hnil : Even (backslashes []) := Even.zero
    simp only [List.append_nil, h, hnil]
  | append_singleton cs c ih =>
    rw [← List.append_assoc, backslashes_concat, backslashes_concat]
    by_cases hc : c = '\\'
    · rw [if_pos hc, if_pos hc, Nat.even_add_one, Nat.even_add_one, ih]
    · rw [if_neg hc, if_neg hc]

theorem evenRuns_nil : EvenRuns [] := by
  intro front back h _
  obtain ⟨rfl, -⟩ := List.append_eq_nil_iff.mp h.symm
  exact Even.zero

/-- A front that ends with an even run and has an even run before each of its own quotes has no part. -/
theorem evenRuns_append (pre : List Char) (hpre : Even (backslashes pre))
    (hinner : ∀ front back, pre = front ++ '"' :: back → Even (backslashes front)) (cs : List Char) :
    EvenRuns (pre ++ cs) ↔ EvenRuns cs := by
  constructor
  · intro h front back heq hback
    exact (even_backslashes_append hpre front).mp (h (pre ++ front) back (by rw [heq, List.append_assoc]) hback)
  · intro h front back heq hback
    rcases List.append_eq_append_iff.mp heq with ⟨as, rfl, rfl⟩ | ⟨bs, rfl, hbs⟩
    · exact (even_backslashes_append hpre as).mpr (h as back rfl hback)
    · cases bs with
      | nil =>
        rw [List.append_nil] at hpre
        exact hpre
      | cons b bs =>
        rw [hbs] at hback
        simp only [List.cons_append, List.head?_cons, Option.some.injEq, reduceCtorEq, false_or] at hback
        exact hinner front bs (by rw [hback])

theorem evenRuns_cons {c : Char} (hc : c ≠ '\\') (cs : List Char) : EvenRuns (c :: cs) ↔ EvenRuns cs := by
  refine evenRuns_append [c] ?_ ?_ cs
  · simp [backslashes, hc]
  · intro front back h
    cases front with
    | nil => exact Even.zero
    | cons d front => simp at h

theorem evenRuns_pair {c : Char} (hc : c ≠ '"') (cs : List Char) : EvenRuns ('\\' :: c :: cs) ↔ EvenRuns cs := by
  refine evenRuns_append ['\\', c] ?_ ?_ cs
  · by_cases hslash : c = '\\' <;> simp [backslashes, hslash]
  · intro front back h
    match front with
    | [] => simp at h
    | [_] => simp [hc] at h
    | _ :: _ :: _ => simp at h

theorem not_evenRuns_single : ¬ EvenRuns ['\\'] := by
  intro h
  exact absurd (h ['\\'] [] rfl (.inl rfl)) (by decide)

theorem not_evenRuns_pair (cs : List Char) : ¬ EvenRuns ('\\' :: '"' :: cs) := by
  intro h
  exact absurd (h ['\\'] ('"' :: cs) rfl (.inr rfl)) (by decide)

/-- Whether all runs are even, found in one pass. -/
def hasEvenRuns : List Char → Bool
  | [] => true
  | [c] => c != '\\'
  | c :: d :: cs => if c = '\\' then d != '"' && hasEvenRuns cs else hasEvenRuns (d :: cs)

theorem hasEvenRuns_iff {cs : List Char} : hasEvenRuns cs = true ↔ EvenRuns cs := by
  fun_induction hasEvenRuns cs with
  | case1 => simp [evenRuns_nil]
  | case2 c =>
    by_cases hc : c = '\\'
    · simp [hc, not_evenRuns_single]
    · simp [hc, evenRuns_cons hc, evenRuns_nil]
  | case3 d cs ih =>
    by_cases hd : d = '"'
    · simp [hd, not_evenRuns_pair]
    · simp [hd, ih, evenRuns_pair hd]
  | case4 c d cs hc ih => rw [ih, evenRuns_cons hc]

instance : DecidablePred EvenRuns := fun _ => decidable_of_iff _ hasEvenRuns_iff

/-! ### Reading what was written -/

theorem readQuoted_cons {c : Char} (hquote : c ≠ '"') (hslash : c ≠ '\\') (cs : List Char) :
    readQuoted (c :: cs) = (readQuoted cs).map fun r => (c :: r.1, r.2) := by
  rw [readQuoted.eq_def]
  split <;> simp_all

theorem readQuoted_pair (c : Char) (cs : List Char) :
    readQuoted ('\\' :: c :: cs) = (readQuoted cs).map fun r => ('\\' :: c :: r.1, r.2) := rfl

theorem readQuoted_escaped_cons {c : Char} (hc : c ≠ '\\') (cs rest : List Char) :
    readQuoted (escaped (c :: cs) ++ rest) =
      (readQuoted (escaped cs ++ rest)).map fun r => (escaped [c] ++ r.1, r.2) := by
  by_cases hquote : c = '"'
  · subst hquote
    rfl
  · rw [escaped_cons hquote, escaped_cons hquote]
    exact readQuoted_cons hquote hc (escaped cs ++ rest)

theorem readQuoted_escaped_pair {c : Char} (hc : c ≠ '"') (cs rest : List Char) :
    readQuoted (escaped ('\\' :: c :: cs) ++ rest) =
      (readQuoted (escaped cs ++ rest)).map fun r => ('\\' :: c :: r.1, r.2) := by
  rw [escaped_cons (by decide), escaped_cons hc]
  rfl

/-- With even runs a written text is read up to its own closing quote. -/
theorem readQuoted_escaped {cs : List Char} (h : hasEvenRuns cs = true) (rest : List Char) :
    readQuoted (escaped cs ++ '"' :: rest) = some (escaped cs, rest) := by
  fun_induction hasEvenRuns cs with
  | case1 => rfl
  | case2 c =>
    rw [readQuoted_escaped_cons (by simpa using h)]
    simp [readQuoted]
  | case3 d cs ih =>
    rw [Bool.and_eq_true, bne_iff_ne] at h
    rw [readQuoted_escaped_pair h.1, ih h.2, escaped_cons (by decide), escaped_cons h.1]
    rfl
  | case4 c d cs hc ih =>
    rw [readQuoted_escaped_cons hc, ih h, Option.map_some, ← escaped_append]
    rfl

theorem head?_of_readQuoted {cs : List Char} {r : List Char × List Char} (h : readQuoted cs = some r) :
    r.1.head? ≠ some '"' := by
  rw [readQuoted.eq_def] at h
  split at h
  · cases h
  · cases h
    simp
  · obtain ⟨r', -, rfl⟩ := Option.map_eq_some_iff.mp h
    simp
  · next c cs hquote _ =>
    obtain ⟨r', -, rfl⟩ := Option.map_eq_some_iff.mp h
    simpa using hquote

theorem unescape_escaped_append {c : Char} (hc : c ≠ '\\') (cs : List Char) :
    unescape (escaped [c] ++ cs) = c :: unescape cs := by
  by_cases hquote : c = '"'
  · subst hquote
    rfl
  · rw [escaped_cons hquote]
    exact unescape_cons (.inl hc)

/-- A text with an odd run is not read as itself: a backslash of its own takes the mark of a quote or the end. -/
theorem hasEvenRuns_of_readQuoted {cs rest : List Char} {r : List Char × List Char}
    (h : readQuoted (escaped cs ++ '"' :: rest) = some r) (hr : unescape r.1 = cs) : hasEvenRuns cs = true := by
  fun_induction hasEvenRuns cs generalizing r with
  | case1 => rfl
  | case2 c =>
    rw [bne_iff_ne]
    rintro rfl
    obtain ⟨r', -, rfl⟩ := Option.map_eq_some_iff.mp ((readQuoted_pair '"' rest).symm.trans h)
    simp [unescape] at hr
  | case3 d cs ih =>
    by_cases hd : d = '"'
    · subst hd
      cases h
      simp [unescape] at hr
    · rw [readQuoted_escaped_pair hd] at h
      obtain ⟨r', hread, rfl⟩ := Option.map_eq_some_iff.mp h
      rw [unescape_cons (.inr (by simpa using hd)), unescape_cons (.inr (head?_of_readQuoted hread))] at hr
      have hrest : unescape r'.1 = cs := by simpa using hr
      simp [hd, ih hread hrest]
  | case4 c d cs hc ih =>
    rw [readQuoted_escaped_cons hc] at h
    obtain ⟨r', hread, rfl⟩ := Option.map_eq_some_iff.mp h
    rw [unescape_escaped_append hc] at hr
    exact ih hread (List.cons.inj hr).2

theorem readQuoted_escaped_iff {cs rest : List Char} {r : List Char × List Char} (hr : unescape r.1 = cs) :
    readQuoted (escaped cs ++ '"' :: rest) = some r ↔ EvenRuns cs ∧ r = (escaped cs, rest) := by
  rw [← hasEvenRuns_iff]
  constructor
  · intro h
    have heven := hasEvenRuns_of_readQuoted h hr
    rw [readQuoted_escaped heven] at h
    exact ⟨heven, (Option.some.inj h).symm⟩
  · rintro ⟨heven, rfl⟩
    exact readQuoted_escaped heven rest

end ChangeGraph.Dot
