import ChangeGraph.Proofs.Text.Cutting
import ChangeGraph.Proofs.Toml.Layout
import ChangeGraph.Toml.Scalar
import Mathlib.Data.List.Infix

/-!
# Texts in quotes that are read as they were written

Between its quotes a text is written with its quotes, backslashes and line ends escaped. Such a body falls into single
characters and pairs of a backslash and a letter, and everything that the reader asks of a text in quotes follows from
this form.
-/

namespace ChangeGraph.Toml

open ChangeGraph.Text (cutAll cutAt? cutUpTo joinWith splitAtEach)

def escapeLetters : List Char := ['"', '\\', 'n', 'r', 't']

/-- Single characters that satisfy the test, and pairs of a backslash and a letter. -/
inductive Escaped (single : Char → Bool) : List Char → Prop where
  | nil : Escaped single []
  | single {c : Char} {cs : List Char} (hc : single c = true) (hcs : Escaped single cs) : Escaped single (c :: cs)
  | pair {e : Char} {cs : List Char} (he : e ∈ escapeLetters) (hcs : Escaped single cs) :
    Escaped single ('\\' :: e :: cs)

namespace Escaped

variable {p q : Char → Bool} {cs ds : List Char}

theorem mono (hpq : ∀ c, p c = true → q c = true) (h : Escaped p cs) : Escaped q cs := by
  induction h with
  | nil => exact .nil
  | single hc _ ih => exact .single (hpq _ hc) ih
  | pair he _ ih => exact .pair he ih

theorem append (hcs : Escaped p cs) (hds : Escaped p ds) : Escaped p (cs ++ ds) := by
  induction hcs with
  | nil => exact hds
  | single hc _ ih => exact .single hc ih
  | pair he _ ih => exact .pair he ih

theorem notMem (h : Escaped p cs) {c : Char} (hc : p c = false) (hslash : c ≠ '\\') (hletter : c ∉ escapeLetters) :
    c ∉ cs := by
  induction h with
  | nil => exact List.not_mem_nil
  | @single d cs hd _ ih =>
    have hne : c ≠ d := by
      rintro rfl
      rw [hc] at hd
      cases hd
    simp [hne, ih]
  | @pair e cs he _ ih =>
    have hne : c ≠ e := by
      rintro rfl
      exact hletter he
    simp [hslash, hne, ih]

end Escaped

/-! ### Backslashes at the end -/

theorem endsEscaping_cons {c : Char} (hc : c ≠ '\\') (cs : List Char) : endsEscaping (c :: cs) = endsEscaping cs := by
  simp only [endsEscaping, List.reverse_cons, List.takeWhile_append]
  split
  next hall => simp [hc, hall]
  next => rfl

theorem endsEscaping_pair (e : Char) (cs : List Char) : endsEscaping ('\\' :: e :: cs) = endsEscaping cs := by
  simp only [endsEscaping, List.reverse_cons, List.append_assoc, List.takeWhile_append]
  split
  next hall =>
    by_cases he : e = '\\'
    · simp [he, hall]
    · simp [he, hall]
  next => rfl

theorem endsEscaping_concat (cs : List Char) : endsEscaping (cs ++ ['\\']) = !endsEscaping cs := by
  simp only [endsEscaping, List.reverse_append, List.reverse_singleton, List.singleton_append]
  rcases Nat.mod_two_eq_zero_or_one (cs.reverse.takeWhile (· == '\\')).length with h | h
  · simp [Nat.add_mod, h]
  · simp [Nat.add_mod, h]

/-- The characters that a body has between its escapes. -/
def isBodyChar (c : Char) : Bool := !(['"', '\\', '\n', '\r'].contains c)

theorem Escaped.endsEscaping_eq {p : Char → Bool} (hp : p '\\' = false) {cs : List Char} (h : Escaped p cs) :
    endsEscaping cs = false := by
  induction h with
  | nil => rfl
  | single hc _ ih =>
    rw [endsEscaping_cons (by rintro rfl; rw [hp] at hc; cases hc), ih]
  | pair _ _ ih => rw [endsEscaping_pair, ih]

/-- A body without quotes, or its part before the first quote and the part behind it. -/
theorem Escaped.split_quote {cs : List Char} (h : Escaped isBodyChar cs) : '"' ∉ cs ∨
    ∃ front back, cs = front ++ '\\' :: '"' :: back ∧ '"' ∉ front ∧ Escaped isBodyChar front ∧
      Escaped isBodyChar back := by
  induction h with
  | nil => exact .inl List.not_mem_nil
  | @single c cs hc hcs ih =>
    have hne : c ≠ '"' := by
      rintro rfl
      cases hc
    obtain hnone | ⟨front, back, rfl, hfront, escFront, escBack⟩ := ih
    · exact .inl (by simp [hnone, Ne.symm hne])
    · exact .inr ⟨c :: front, back, rfl, by simp [hfront, Ne.symm hne], .single hc escFront, escBack⟩
  | @pair e cs he hcs ih =>
    by_cases hquote : e = '"'
    · subst hquote
      exact .inr ⟨[], cs, rfl, List.not_mem_nil, .nil, hcs⟩
    · obtain hnone | ⟨front, back, rfl, hfront, escFront, escBack⟩ := ih
      · exact .inl (by simp [hnone, Ne.symm hquote])
      · exact .inr ⟨'\\' :: e :: front, back, rfl, by simp [hfront, Ne.symm hquote], .pair he escFront, escBack⟩

/-! ### What is asked of a text in quotes -/

theorem closesOnce_body {n : Nat} {cs : List Char} (hn : cs.length ≤ n) (h : Escaped isBodyChar cs) :
    closesOnce false 0 false (splitAtEach '"' (cs ++ ['"'])) = true := by
  induction n generalizing cs with
  | zero =>
    rw [List.length_eq_zero_iff.mp (Nat.le_zero.mp hn)]
    rfl
  | succ n ih =>
    obtain hnone | ⟨front, back, rfl, hfront, escFront, escBack⟩ := h.split_quote
    · rw [Text.splitAtEach_append_cons hnone]
      cases cs with
      | nil => rfl
      | cons c cs =>
        have hends : endsEscaping (c :: cs) = false := h.endsEscaping_eq rfl
        simp [closesOnce, hends, splitAtEach]
    · have hsplit : front ++ '\\' :: '"' :: back ++ ['"'] = (front ++ ['\\']) ++ '"' :: (back ++ ['"']) := by simp
      have hnone : '"' ∉ front ++ ['\\'] := by simp [hfront]
      have hends : endsEscaping (front ++ ['\\']) = true := by
        rw [endsEscaping_concat, escFront.endsEscaping_eq rfl]
        rfl
      have hlen : back.length ≤ n := by
        simp only [List.length_append, List.length_cons] at hn
        omega
      rw [hsplit, Text.splitAtEach_append_cons hnone]
      cases hpiece : front ++ ['\\'] with
      | nil => exact absurd hpiece (by simp)
      | cons c piece =>
        rw [hpiece] at hends
        simp only [closesOnce, hends, if_true]
        exact ih hlen escBack

/-- The piece before the first backslash is left out where the escapes are looked at, unless a backslash goes before. -/
theorem escapesExist_pieces {p : Char → Bool} (hp : p '\\' = false) {cs : List Char} (h : Escaped p cs) :
    ∃ piece pieces, splitAtEach '\\' cs = piece :: pieces ∧ escapesExist false pieces = true ∧
      escapesExist true (piece :: pieces) = true := by
  induction h with
  | nil => exact ⟨[], [], rfl, rfl, rfl⟩
  | @single c cs hc _ ih =>
    obtain ⟨piece, pieces, hsplit, hfalse, -⟩ := ih
    have hne : (c == '\\') = false := by
      rw [beq_eq_false_iff_ne]
      rintro rfl
      rw [hp] at hc
      cases hc
    refine ⟨c :: piece, pieces, ?_, hfalse, ?_⟩
    · simp [splitAtEach, hne, hsplit]
    · simp [escapesExist, hfalse]
  | @pair e cs he _ ih =>
    obtain ⟨piece, pieces, hsplit, hfalse, htrue⟩ := ih
    by_cases hslash : e = '\\'
    · subst hslash
      refine ⟨[], [] :: piece :: pieces, ?_, ?_, ?_⟩
      · simp [splitAtEach, hsplit]
      · simpa [escapesExist] using htrue
      · simpa [escapesExist] using htrue
    · have hknown : (letterEscapes.lookup e).isSome = true := by
        simp only [escapeLetters, List.mem_cons, List.not_mem_nil, or_false] at he
        rcases he with rfl | rfl | rfl | rfl | rfl
        · rfl
        · exact absurd rfl hslash
        · rfl
        · rfl
        · rfl
      refine ⟨[], (e :: piece) :: pieces, ?_, ?_, ?_⟩
      · simp [splitAtEach, hslash, hsplit]
      · simp [escapesExist, hknown, hfalse]
      · simp [escapesExist, hknown, hfalse]

/-- A mark that is no pair can only start with the second character of a pair of backslashes. -/
theorem cutAt?_mark {p : Char → Bool} (hp : p '\\' = false) {m : Char} (hm : m ∉ escapeLetters) {cs : List Char}
    (h : Escaped p cs) {front back : List Char} (hcut : cutAt? ['\\', m] cs = some (front, back)) :
    endsEscaping front = true ∧ Escaped p back := by
  induction h generalizing front with
  | nil => cases hcut
  | @single c cs hc _ ih =>
    have hne : c ≠ '\\' := by
      rintro rfl
      rw [hp] at hc
      cases hc
    rw [Text.cutAt?_pair_cons fun heq => absurd heq hne] at hcut
    obtain ⟨⟨front', back'⟩, hfound, heq⟩ := Option.map_eq_some_iff.mp hcut
    cases heq
    obtain ⟨hends, hback⟩ := ih hfound
    exact ⟨by rw [endsEscaping_cons hne, hends], hback⟩
  | @pair e cs he hcs ih =>
    have hfirst : '\\' = '\\' → (e :: cs).head? ≠ some m := by
      rintro - hhead
      cases hhead
      exact hm he
    rw [Text.cutAt?_pair_cons hfirst] at hcut
    obtain ⟨⟨front', back'⟩, hfound, heq⟩ := Option.map_eq_some_iff.mp hcut
    cases heq
    rw [cutAt?] at hfound
    split at hfound
    next hmark =>
      -- The second backslash and the mark's letter, which stands for itself.
      cases hfound
      obtain ⟨rest, hrest⟩ := List.isPrefixOf_iff_prefix.mp hmark
      cases hrest
      cases hcs with
      | single _ hback => exact ⟨rfl, hback⟩
      | pair _ _ => exact absurd (by simp [escapeLetters]) hm
    next =>
      obtain ⟨⟨front', back'⟩, hfound, heq⟩ := Option.map_eq_some_iff.mp hfound
      cases heq
      obtain ⟨hends, hback⟩ := ih hfound
      exact ⟨by rw [endsEscaping_pair, hends], hback⟩

theorem decodeFrom_skip {p : Char → Bool} (hp : p '\\' = false) {m : Char} (hm : m ∉ escapeLetters) (width n : Nat)
    {cs : List Char} (h : Escaped p cs) (front : List Char) :
    decodeFrom ['\\', m] width front true (cutUpTo ['\\', m] n cs) = .ok (front ++ ['\\', m] ++ cs) := by
  induction n generalizing cs front with
  | zero => simp [cutUpTo, decodeFrom]
  | succ n ih =>
    rw [cutUpTo]
    cases hcut : cutAt? ['\\', m] cs with
    | none => simp [decodeFrom]
    | some parts =>
      obtain ⟨piece, back⟩ := parts
      obtain ⟨hends, hback⟩ := cutAt?_mark hp hm h hcut
      simp only [decodeFrom, if_true, hends]
      rw [ih hback, Text.append_of_cutAt? hcut]
      simp

theorem decodeCodes_escaped {p : Char → Bool} (hp : p '\\' = false) {m : Char} (hm : m ∉ escapeLetters) (width : Nat)
    {cs : List Char} (h : Escaped p cs) : decodeCodes ['\\', m] width cs = .ok cs := by
  cases hcut : cutAt? ['\\', m] cs with
  | none => rw [decodeCodes, Text.cutAll_of_cutAt?_eq_none hcut]
  | some parts =>
    obtain ⟨front, back⟩ := parts
    obtain ⟨hends, hback⟩ := cutAt?_mark hp hm h hcut
    have happend := Text.append_of_cutAt? hcut
    obtain ⟨n, hn⟩ : ∃ n, cs.length = n + 1 := by
      rw [happend]
      exact ⟨front.length + 1 + back.length, by simp; omega⟩
    have hpieces : cutAll ['\\', m] cs = front :: cutUpTo ['\\', m] n back := by
      rw [cutAll, hn, cutUpTo, hcut]
    have hdecode := decodeFrom_skip hp hm width n hback front
    rw [decodeCodes, hpieces]
    cases hrest : cutUpTo ['\\', m] n back with
    | nil => exact absurd hrest (Text.cutUpTo_ne_nil _ _ _)
    | cons piece pieces =>
      rw [hrest] at hdecode
      simp only [hends]
      rw [hdecode, happend]

/-! ### The body of a text -/

/-- Characters that are written as themselves or as a pair. -/
def isShown (c : Char) : Bool := ['\n', '\r', '\t'].contains c || Text.isPrintable c

/-- A character stands for itself, or a pair stands for it. -/
theorem quotedChar_cases {c : Char} (h : isShown c = true) : (isBodyChar c = true ∧ quotedChar c = [c]) ∨
    ∃ e ∈ escapeLetters, quotedChar c = ['\\', e] ∧ (e = '\\' → c = '\\') ∧
      ∀ cs, unescape ('\\' :: e :: cs) = (unescape cs).map (c :: ·) := by
  by_cases h1 : c = '\''
  · subst h1
    exact .inl ⟨rfl, rfl⟩
  by_cases h2 : c = '"'
  · subst h2
    exact .inr ⟨'"', by decide, rfl, by decide, fun _ => rfl⟩
  by_cases h3 : c = '\\'
  · subst h3
    exact .inr ⟨'\\', by decide, rfl, fun _ => rfl, fun _ => rfl⟩
  by_cases h4 : c = '\n'
  · subst h4
    exact .inr ⟨'n', by decide, rfl, by decide, fun _ => rfl⟩
  by_cases h5 : c = '\r'
  · subst h5
    exact .inr ⟨'r', by decide, rfl, by decide, fun _ => rfl⟩
  by_cases h6 : c = '\t'
  · subst h6
    exact .inr ⟨'t', by decide, rfl, by decide, fun _ => rfl⟩
  have hprintable : Text.isPrintable c = true := by simpa [isShown, h4, h5, h6] using h
  exact .inl ⟨by simp [isBodyChar, h2, h3, h4, h5], by simp [quotedChar, Text.escaped, h1, h2, h3, h4, h5, h6, hprintable]⟩

theorem escaped_quotedBody {cs : List Char} (h : ∀ c ∈ cs, isShown c = true) : Escaped isBodyChar (quotedBody cs) := by
  induction cs with
  | nil => exact .nil
  | cons c cs ih =>
    have hcs := ih fun d hd => h d (List.mem_cons_of_mem c hd)
    rw [quotedBody, List.flatMap_cons]
    obtain ⟨hbody, hquoted⟩ | ⟨e, he, hquoted, -, -⟩ := quotedChar_cases (h c List.mem_cons_self)
    · rw [hquoted]
      exact .single hbody hcs
    · rw [hquoted]
      exact .pair he hcs

theorem unescape_single {c : Char} (hc : c ≠ '\\') (cs : List Char) :
    unescape (c :: cs) = (unescape cs).map (c :: ·) := by
  rw [unescape]
  · rfl
  · simp [hc]
  · simp [hc]

theorem unescape_quotedBody {cs : List Char} (h : ∀ c ∈ cs, isShown c = true) {rest ds : List Char}
    (hrest : unescape rest = .ok ds) : unescape (quotedBody cs ++ rest) = .ok (cs ++ ds) := by
  induction cs with
  | nil => exact hrest
  | cons c cs ih =>
    have hcs := ih fun d hd => h d (List.mem_cons_of_mem c hd)
    rw [quotedBody, List.flatMap_cons, List.append_assoc]
    obtain ⟨hbody, hquoted⟩ | ⟨e, -, hquoted, -, hpair⟩ := quotedChar_cases (h c List.mem_cons_self)
    · have hne : c ≠ '\\' := by
        rintro rfl
        cases hbody
      rw [hquoted, List.singleton_append, unescape_single hne]
      exact congrArg (Except.map (c :: ·)) hcs
    · rw [hquoted]
      exact (hpair _).trans (congrArg (Except.map (c :: ·)) hcs)

theorem head?_quotedBody {cs : List Char} (h : ∀ c ∈ cs, isShown c = true) (hx : cs.head? ≠ some 'x') :
    (quotedBody cs).head? ≠ some 'x' := by
  cases cs with
  | nil => exact hx
  | cons c cs =>
    rw [quotedBody, List.flatMap_cons]
    obtain ⟨-, hquoted⟩ | ⟨e, -, hquoted, -, -⟩ := quotedChar_cases (h c List.mem_cons_self)
    · rw [hquoted]
      exact hx
    · rw [hquoted]
      simp

theorem cutAt?_quotedBody {cs : List Char} (h : ∀ c ∈ cs, isShown c = true) (hx : ¬ ['\\', 'x'] <:+: cs) :
    cutAt? ['\\', 'x'] (quotedBody cs) = none := by
  induction cs with
  | nil => rfl
  | cons c cs ih =>
    have hshown : ∀ d ∈ cs, isShown d = true := fun d hd => h d (List.mem_cons_of_mem c hd)
    have hcs : cutAt? ['\\', 'x'] (quotedBody cs) = none :=
      ih hshown fun hin => hx (hin.trans (List.suffix_cons c cs).isInfix)
    rw [quotedBody, List.flatMap_cons, ← quotedBody]
    obtain ⟨hbody, hquoted⟩ | ⟨e, he, hquoted, hslash, -⟩ := quotedChar_cases (h c List.mem_cons_self)
    · have hne : c ≠ '\\' := by
        rintro rfl
        cases hbody
      rw [hquoted, List.singleton_append, Text.cutAt?_pair_cons (fun heq => absurd heq hne), hcs]
      rfl
    · have hsecond : e = '\\' → (quotedBody cs).head? ≠ some 'x' := by
        intro heq
        refine head?_quotedBody hshown fun hhead => ?_
        obtain ⟨ds, rfl⟩ := List.head?_eq_some_iff.mp hhead
        exact hx ⟨[], ds, by rw [hslash heq]; rfl⟩
      have hfirst : '\\' = '\\' → (e :: quotedBody cs).head? ≠ some 'x' := by
        rintro - hhead
        cases hhead
        revert he
        decide
      rw [hquoted, List.cons_append, List.singleton_append, Text.cutAt?_pair_cons hfirst, Text.cutAt?_pair_cons hsecond,
        hcs]
      rfl

/-! ### Texts -/

/-- Texts that are written so that they can be read again: every character shows or is a line end or a tab, no backslash
stands before an x, and the text does not start like the rest of a triple quote. -/
structure KeptText (s : String) : Prop where
  shown : s.toList.all isShown = true
  noCode : ¬ ['\\', 'x'] <:+: s.toList
  noTriple : (s.toList ++ ['"']).take 2 ≠ ['"', '"']

instance (s : String) : Decidable (KeptText s) :=
  decidable_of_iff (s.toList.all isShown = true ∧ ¬ ['\\', 'x'] <:+: s.toList ∧
      (s.toList ++ ['"']).take 2 ≠ ['"', '"'])
    ⟨fun h => ⟨h.1, h.2.1, h.2.2⟩, fun h => ⟨h.shown, h.noCode, h.noTriple⟩⟩

theorem KeptText.isShown_of_mem {s : String} (h : KeptText s) : ∀ c ∈ s.toList, isShown c = true :=
  List.all_eq_true.mp h.shown

def inQuotes (body : List Char) : List Char := '"' :: (body ++ ['"'])

theorem quote_of_kept {s : String} (h : KeptText s) : quote s = .ok (inQuotes (quotedBody s.toList)) := by
  rw [quote, Text.cutAll_of_cutAt?_eq_none (cutAt?_quotedBody h.isShown_of_mem h.noCode)]
  simp only [joinCodes]
  rfl

theorem inner_inQuotes (cs : List Char) : inner 1 (inQuotes cs) = cs := by
  simp [inner, inQuotes]

theorem escaped_inQuotes {body : List Char} (h : Escaped isBodyChar body) :
    Escaped (fun c => c != '\\') (inQuotes body) := by
  have hbody : Escaped (fun c => c != '\\') body := by
    refine h.mono fun c hc => ?_
    simp only [bne_iff_ne]
    rintro rfl
    cases hc
  exact .single rfl (hbody.append (.single rfl .nil))

theorem readQuoted_of_body {body ds : List Char} (h : Escaped isBodyChar body) (hne : body ≠ [])
    (hread : unescape (inQuotes body) = .ok ds)
    (htriple : (ds[1]? == some '"' && (decide (ds.length < 3) || ds[2]? == some '"')) = false) :
    readQuoted '"' (inQuotes body) = .ok (inner 1 ds) := by
  have hclose := closesOnce_body (Nat.le_refl _) h
  obtain ⟨piece, pieces, hsplit, hexist, -⟩ := escapesExist_pieces rfl (escaped_inQuotes h)
  have hu := decodeCodes_escaped (m := 'u') rfl (by decide) 4 (escaped_inQuotes h)
  have hU := decodeCodes_escaped (m := 'U') rfl (by decide) 8 (escaped_inQuotes h)
  obtain ⟨c, rest, rfl⟩ := List.exists_cons_of_ne_nil hne
  have hc : (c == '"') = false := by
    cases h with
    | single hc _ =>
      rw [beq_eq_false_iff_ne]
      rintro rfl
      cases hc
    | pair _ _ => rfl
  -- The first piece has a character in it, so the quote is not tripled.
  obtain ⟨first, others, hpieces⟩ : ∃ first others, splitAtEach '"' (c :: rest ++ ['"']) = (c :: first) :: others := by
    obtain ⟨first, others, hrest⟩ := List.exists_cons_of_ne_nil (Text.splitAtEach_ne_nil '"' (rest ++ ['"']))
    exact ⟨first, others, by simp [splitAtEach, hc, hrest]⟩
  rw [hpieces] at hclose
  have hdrop : (inQuotes (c :: rest)).drop 1 = c :: rest ++ ['"'] := rfl
  unfold readQuoted
  rw [hdrop, Text.cutAll_singleton, hpieces, Text.cutAll_singleton, hsplit, List.drop_one, List.tail_cons]
  simp only [hclose, hexist, hu, hU, hread, bind, Except.bind, Bool.not_true, Bool.false_eq_true, if_false, beq_self_eq_true,
    if_true, pure, Except.pure]
  rw [if_neg (by simpa using htriple)]

theorem readQuoted_of_kept {s : String} (h : KeptText s) :
    readQuoted '"' (inQuotes (quotedBody s.toList)) = .ok s.toList := by
  have hread : unescape (inQuotes (quotedBody s.toList)) = .ok (inQuotes s.toList) := by
    rw [inQuotes, unescape_single (by decide), unescape_quotedBody h.isShown_of_mem rfl]
    rfl
  cases hs : s.toList with
  | nil => rfl
  | cons c rest =>
    have hbody : quotedBody (c :: rest) ≠ [] := by
      have hc : isShown c = true := h.isShown_of_mem c (by rw [hs]; exact List.mem_cons_self)
      rw [quotedBody, List.flatMap_cons]
      obtain ⟨-, hquoted⟩ | ⟨e, -, hquoted, -, -⟩ := quotedChar_cases hc <;> simp [hquoted]
    have hescaped : Escaped isBodyChar (quotedBody (c :: rest)) := by
      rw [← hs]
      exact escaped_quotedBody h.isShown_of_mem
    have htriple := h.noTriple
    rw [hs] at hread htriple
    have hopen : ((inQuotes (c :: rest))[1]? == some '"' &&
        (decide ((inQuotes (c :: rest)).length < 3) || (inQuotes (c :: rest))[2]? == some '"')) = false := by
      cases rest with
      | nil => simpa [inQuotes] using htriple
      | cons d rest => simpa [inQuotes] using htriple
    rw [readQuoted_of_body hescaped hbody hread hopen, inner_inQuotes]

-- A backslash before an x is written as if it were a code, which is then no escape that exists.
example : quote "C:\\x41" = .ok (inQuotes "C:\\x41".toList) := by decide +kernel
example : readQuoted '"' (inQuotes "C:\\x41".toList) = .error .malformed := by decide +kernel

/-! ### The layout of a text -/

namespace Layout

/-- The pass within a text in double quotes. -/
def inText (done : List Char) (lists : Int) : Layout := { done, lists, quote := some '"', lineStart := false }

/-- The next quote is not escaped by what has been passed, and it is not the third in a row. -/
structure Settled (done : List Char) : Prop where
  even : oddBackslashes done = false
  lone : done.take 2 ≠ ['"', '"']

theorem Settled.cons {c : Char} (hslash : c ≠ '\\') (hquote : c ≠ '"') (done : List Char) : Settled (c :: done) where
  even := by simp [oddBackslashes, hslash]
  lone := by simp [hquote]

theorem Settled.pair {e : Char} {done : List Char} (h : Settled done) : Settled (e :: '\\' :: done) where
  even := by
    have heven := h.even
    by_cases he : e = '\\'
    · simp only [oddBackslashes, beq_eq_false_iff_ne] at heven
      simp [oddBackslashes, he]
      omega
    · simp [oddBackslashes, he]
  lone := by simp

theorem step_inText {c : Char} (hquote : c ≠ '"') (hline : c ≠ '\n') (done : List Char) (lists : Int)
    (next : Option Char) : (inText done lists).step c next = .ok (inText (c :: done) lists) := by
  simp [step, inText, stepValue, stepQuotes, stepBrackets, stepLineStart, put, hquote, hline]

theorem step_inText_escaped {done : List Char} (h : Settled done) (lists : Int) (next : Option Char) :
    (inText ('\\' :: done) lists).step '"' next = .ok (inText ('"' :: '\\' :: done) lists) := by
  have hodd : oddBackslashes ('\\' :: done) = true := by
    have heven := h.even
    simp only [oddBackslashes, beq_eq_false_iff_ne] at heven
    simp [oddBackslashes]
    omega
  simp [step, inText, stepValue, stepQuotes, stepDouble, stepBrackets, stepLineStart, put, hodd]

theorem step_inText_close {done : List Char} (h : Settled done) (lists : Int) (next : Option Char) :
    (inText done lists).step '"' next = .ok (inValue ('"' :: done) lists) := by
  have heven := h.even
  have hlone := h.lone
  simp [step, inText, inValue, stepValue, stepQuotes, stepDouble, stepBrackets, stepLineStart, put, heven, hlone]

theorem run_inText {cs : List Char} (h : Escaped isBodyChar cs) {done : List Char} (hdone : Settled done) (lists : Int)
    (rest : List Char) : run (inText done lists) (cs ++ rest) = run (inText (cs.reverse ++ done) lists) rest ∧
      Settled (cs.reverse ++ done) := by
  induction h generalizing done with
  | nil => exact ⟨rfl, hdone⟩
  | @single c cs hc _ ih =>
    simp only [isBodyChar, List.contains_eq_mem, List.mem_cons, List.not_mem_nil, or_false, not_or, Bool.not_eq_true',
      decide_eq_false_iff_not] at hc
    obtain ⟨hquote, hslash, hline, -⟩ := hc
    obtain ⟨hrun, hsettled⟩ := ih (Settled.cons hslash hquote done)
    rw [List.reverse_cons, List.append_assoc]
    exact ⟨(run_of_step (step_inText hquote hline done lists _)).trans hrun, hsettled⟩
  | @pair e cs he _ ih =>
    obtain ⟨hrun, hsettled⟩ := ih hdone.pair
    have hslash : run (inText done lists) ('\\' :: e :: cs ++ rest) =
        run (inText ('\\' :: done) lists) (e :: cs ++ rest) :=
      run_of_step (step_inText (by decide) (by decide) done lists _)
    have hletter : run (inText ('\\' :: done) lists) (e :: cs ++ rest) =
        run (inText (e :: '\\' :: done) lists) (cs ++ rest) := by
      by_cases hquote : e = '"'
      · subst hquote
        exact run_of_step (step_inText_escaped hdone lists _)
      · have hline : e ≠ '\n' := by
          rintro rfl
          exact absurd he (by decide)
        exact run_of_step (step_inText hquote hline _ lists _)
    rw [List.reverse_cons, List.reverse_cons, List.append_assoc, List.append_assoc]
    exact ⟨hslash.trans (hletter.trans hrun), hsettled⟩

theorem passes_inQuotes {body : List Char} (h : Escaped isBodyChar body) : Passes (inQuotes body) := by
  intro done lists rest
  have hstart : Settled ('"' :: ' ' :: done) := ⟨rfl, by simp⟩
  obtain ⟨hrun, hend⟩ := run_inText h hstart lists ('"' :: rest)
  have hopen : run (inValue (' ' :: done) lists) (inQuotes body ++ rest) =
      run (inText ('"' :: ' ' :: done) lists) (body ++ '"' :: rest) := by
    rw [inQuotes, List.cons_append, List.append_assoc]
    exact run_of_step rfl
  rw [hopen, hrun, run_of_step (step_inText_close hend lists _)]
  simp [inQuotes]

end Layout

end ChangeGraph.Toml
