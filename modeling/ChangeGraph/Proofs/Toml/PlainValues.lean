import ChangeGraph.Proofs.Text.Digits
import ChangeGraph.Proofs.Toml.Quoted
import ChangeGraph.Toml.Reader

/-!
# Plain values that are read as they were written

Truth values, whole numbers that are not too long, and kept texts are written on one line that the layout leaves alone,
and they are read back from it. Of numbers with a point, dates and times this is so if they are found again in their own
text.
-/

namespace ChangeGraph.Toml

/-- What a value is, as far as the elements of a list must agree. -/
def familyOf : Value → Family
  | .bool _ => .bool
  | .int _ => .int
  | .float _ => .float
  | .text _ => .text
  | .list _ => .list
  | .table _ => .table
  | .moment (.clock _) => .time
  | _ => .date

/-- The plain value `v` is written as `cs`, and `cs` is read as `v` wherever a value may stand. -/
structure WrittenAs (v : Value) (cs : List Char) : Prop where
  written : writeValue v = .ok cs
  notTable : isTable v = false
  notTables : isListOfTables v = false
  passes : Layout.Passes cs
  oneLine : '\n' ∉ cs
  noReturn : '\r' ∉ cs
  ne_nil : cs ≠ []
  stripped : Text.Stripped cs
  /-- Before the first double quote there is no single one. -/
  unquoted : '\'' ∉ cs.takeWhile (· != '"')
  short : opensLong cs = .ok false
  strict : (familyOf v).isNumber = true → isStrict cs = true
  read : ∀ fuel, cs.length ≤ fuel → readValue fuel cs = .ok (v, familyOf v)

/-! ### Truth values -/

theorem writtenAs_bool (b : Bool) : WrittenAs (.bool b) (if b then "true" else "false").toList where
  written := rfl
  notTable := rfl
  notTables := rfl
  passes := by
    apply Layout.passes_of_isInert
    apply List.all_eq_true.mp
    cases b <;> rfl
  oneLine := by cases b <;> decide
  noReturn := by cases b <;> decide
  ne_nil := by cases b <;> decide
  stripped := by cases b <;> exact ⟨by simp; decide, by simp; decide⟩
  unquoted := by cases b <;> decide
  short := by cases b <;> rfl
  strict h := by cases h
  read fuel hfuel := by
    cases fuel with
    | zero => cases b <;> exact absurd hfuel (by decide)
    | succ fuel => cases b <;> rfl

/-! ### Words that are no truth values -/

theorem ofList_ne {c d : Char} (h : c ≠ d) (cs ds : List Char) :
    (String.ofList (c :: cs) == String.ofList (d :: ds)) = false := by
  rw [beq_eq_false_iff_ne]
  intro heq
  exact h (List.cons.inj (String.ofList_injective heq)).1

theorem toLower_ne {c d : Char} (h : c.toLower ≠ d) (cs ds : List Char) :
    ((String.ofList (c :: cs)).toLower == String.ofList (d :: ds)) = false := by
  have hlower : (String.ofList (c :: cs)).toLower = String.ofList (c.toLower :: cs.map Char.toLower) := by
    have hmap : (String.ofList (c :: cs)).toLower = (String.ofList (c :: cs)).map Char.toLower := rfl
    rw [← String.toList_inj, hmap, String.toList_map, String.toList_ofList, String.toList_ofList, List.map_cons]
  rw [hlower]
  exact ofList_ne h _ ds

theorem not_word {c : Char} (ht : c.toLower ≠ 't') (hf : c.toLower ≠ 'f') (cs : List Char) :
    (String.ofList (c :: cs) == "true") = false ∧ (String.ofList (c :: cs) == "false") = false ∧
      ((String.ofList (c :: cs)).toLower == "true") = false ∧ ((String.ofList (c :: cs)).toLower == "false") = false := by
  have hct : c ≠ 't' := by
    rintro rfl
    exact ht rfl
  have hcf : c ≠ 'f' := by
    rintro rfl
    exact hf rfl
  exact ⟨ofList_ne hct cs "rue".toList, ofList_ne hcf cs "alse".toList, toLower_ne ht cs "rue".toList,
    toLower_ne hf cs "alse".toList⟩

/-! ### Texts -/

theorem opensLong_inQuotes {body : List Char} (h : Escaped isBodyChar body) : opensLong (inQuotes body) = .ok false := by
  cases h with
  | nil => rfl
  | @single c cs hc _ =>
    have hne : c ≠ '"' := by
      rintro rfl
      cases hc
    cases cs <;> simp [opensLong, isOpenLong, inQuotes, hne, pure, Except.pure]
  | @pair e cs _ _ => simp [opensLong, isOpenLong, inQuotes, pure, Except.pure]

theorem writtenAs_text {s : String} (h : KeptText s) : WrittenAs (.text s) (inQuotes (quotedBody s.toList)) := by
  have hescaped : Escaped isBodyChar (quotedBody s.toList) := escaped_quotedBody h.isShown_of_mem
  have hline : '\n' ∉ quotedBody s.toList := hescaped.notMem rfl (by decide) (by decide)
  have hreturn : '\r' ∉ quotedBody s.toList := hescaped.notMem rfl (by decide) (by decide)
  exact {
    written := quote_of_kept h
    notTable := rfl
    notTables := rfl
    passes := Layout.passes_inQuotes hescaped
    oneLine := by simp [inQuotes, hline]
    noReturn := by simp [inQuotes, hreturn]
    ne_nil := List.cons_ne_nil _ _
    stripped := Text.stripped_of_ends (by decide) (by decide) _
    unquoted := by simp [inQuotes]
    short := opensLong_inQuotes hescaped
    strict := fun hnumber => by cases hnumber
    read := by
      intro fuel hfuel
      obtain ⟨fuel, rfl⟩ : ∃ n, fuel = n + 1 := ⟨fuel - 1, by simp [inQuotes] at hfuel; omega⟩
      have hread := readQuoted_of_kept h
      rw [inQuotes] at hread ⊢
      obtain ⟨h1, h2, h3, h4⟩ := not_word (c := '"') (by decide) (by decide) (quotedBody s.toList ++ ['"'])
      rw [readValue]
      simp only [h1, h2, h3, h4, hread]
      simp [pure, Except.pure, bind, Except.bind, String.ofList_toList, familyOf] }

/-! ### Values in plain characters -/

/-- Characters of numbers, dates and times. -/
def isPlainChar (c : Char) : Bool := isBareChar c || ['.', '+', ':'].contains c

theorem isPlainChar_of_isBareChar {c : Char} (h : isBareChar c = true) : isPlainChar c = true := by
  rw [isPlainChar, h, Bool.true_or]

theorem ne_of_isPlainChar {c d : Char} (h : isPlainChar c = true) (hd : isPlainChar d = false) : c ≠ d := by
  rintro rfl
  rw [h] at hd
  cases hd

theorem isInert_of_isPlainChar {c : Char} (h : isPlainChar c = true) : Layout.isInert c = true := by
  simp only [Layout.isInert, List.contains_eq_mem, List.mem_cons, List.not_mem_nil, or_false, not_or, Bool.not_eq_true',
    decide_eq_false_iff_not]
  refine ⟨?_, ?_, ?_, ?_, ?_, ?_⟩ <;> exact ne_of_isPlainChar h (by decide)

theorem isBlank_of_isPlainChar {c : Char} (h : isPlainChar c = true) : Text.isBlank c = false := by
  rw [isPlainChar, Bool.or_eq_true] at h
  rcases h with h | h
  · exact isBlank_of_isBareChar h
  · simp only [List.contains_eq_mem, List.mem_cons, List.not_mem_nil, or_false, decide_eq_true_eq] at h
    rcases h with rfl | rfl | rfl <;> decide

theorem isOpenLong_cons {c : Char} (hdouble : c ≠ '"') (hsingle : c ≠ '\'') (cs : List Char) :
    isOpenLong (c :: cs) = .ok false := by
  match cs with
  | [] => simp [isOpenLong, hdouble, hsingle]
  | [_] => simp [isOpenLong, hdouble, hsingle]
  | _ :: _ :: _ => simp [isOpenLong, hdouble, hsingle]

theorem opensLong_cons {c : Char} (hc : isBareChar c = true) (cs : List Char) : opensLong (c :: cs) = .ok false := by
  have hopen : ((c :: cs).head? == some '[') = false := by
    simpa using ne_of_isBareChar hc (by decide)
  have hlong : isOpenLong (c :: cs) = .ok false :=
    isOpenLong_cons (ne_of_isBareChar hc (by decide)) (ne_of_isBareChar hc (by decide)) cs
  simp only [opensLong, hopen, Bool.false_and, Bool.false_eq_true, if_false, hlong]
  split <;> rfl

theorem readValue_succ {c : Char} (hc : isBareChar c = true) (rest : List Char) (fuel : Nat) :
    readValue (fuel + 1) (c :: rest) = readValue 1 (c :: rest) := by
  have hlist : (c == '[') = false := beq_eq_false_iff_ne.mpr (ne_of_isBareChar hc (by decide))
  have htable : (c == '\x7b') = false := beq_eq_false_iff_ne.mpr (ne_of_isBareChar hc (by decide))
  simp only [readValue, hlist, htable, Bool.false_eq_true, if_false]

theorem writtenAs_of_plain {v : Value} {cs : List Char} (hwritten : writeValue v = .ok cs) (htable : isTable v = false)
    (htables : isListOfTables v = false) (hchars : ∀ c ∈ cs, isPlainChar c = true)
    (hhead : ∃ c rest, cs = c :: rest ∧ isBareChar c = true) (hstrict : (familyOf v).isNumber = true → isStrict cs = true)
    (hread : readValue 1 cs = .ok (v, familyOf v)) : WrittenAs v cs := by
  obtain ⟨c, rest, rfl, hc⟩ := hhead
  exact {
    written := hwritten
    notTable := htable
    notTables := htables
    passes := Layout.passes_of_isInert fun d hd => isInert_of_isPlainChar (hchars d hd)
    oneLine := fun h => ne_of_isPlainChar (hchars _ h) (by decide) rfl
    noReturn := fun h => ne_of_isPlainChar (hchars _ h) (by decide) rfl
    ne_nil := List.cons_ne_nil c rest
    stripped := Text.stripped_of_forall fun d hd => isBlank_of_isPlainChar (hchars d hd)
    unquoted := fun h => ne_of_isPlainChar (hchars _ ((List.takeWhile_sublist _).subset h)) (by decide) rfl
    short := opensLong_cons hc rest
    strict := hstrict
    read := by
      intro fuel hfuel
      obtain ⟨fuel, rfl⟩ : ∃ m, fuel = m + 1 := ⟨fuel - 1, by rw [List.length_cons] at hfuel; omega⟩
      rw [readValue_succ hc, hread] }

/-! ### Whole numbers -/

theorem toLower_of_isDigit {c : Char} (h : c.isDigit = true) : c.toLower = c := by
  simp only [Char.isDigit, Bool.and_eq_true, decide_eq_true_eq, UInt32.le_iff_toNat_le] at h
  refine dif_neg ?_
  simp only [ge_iff_le, UInt32.le_iff_toNat_le, not_and, not_le]
  simp at h ⊢
  omega

theorem isBareChar_of_isDigit {c : Char} (h : c.isDigit = true) : isBareChar c = true := by
  simp [isBareChar, Char.isAlphanum, h]

theorem stripped_toDigits (n : Nat) : Text.Stripped (Nat.toDigits 10 n) :=
  Text.stripped_of_forall fun _ hc => isBlank_of_isBareChar (isBareChar_of_isDigit (Text.isDigit_of_mem hc))

theorem takeSign_toDigits (n : Nat) : takeSign (Nat.toDigits 10 n) = (false, Nat.toDigits 10 n) := by
  unfold takeSign
  split
  next h => exact absurd (h ▸ List.mem_cons_self) (Text.notMem_toDigits (c := '-') (by decide) n)
  next h => exact absurd (h ▸ List.mem_cons_self) (Text.notMem_toDigits (c := '+') (by decide) n)
  next => rfl

theorem whole?_toDigits {n : Nat} (short : (Nat.toDigits 10 n).length ≤ Text.digitLimit) :
    whole? (Nat.toDigits 10 n) = some (n : Int) := by
  by_cases hzero : n = 0
  · subst hzero
    rfl
  · have hfront : ∀ rest, Nat.toDigits 10 n ≠ '0' :: rest := fun rest h => hzero (Text.eq_zero_of_toDigits h)
    rw [whole?, (stripped_toDigits n).stripChars_eq, takeSign_toDigits]
    simp only
    split
    case h_8 => simp [Text.readNatural?_toDigits short]
    all_goals exact absurd ‹_› (hfront _)

/-- Digits behind a sign make a whole number, whatever the sign. -/
theorem readNumber_of_takeSign {cs : List Char} {negative : Bool} {n : Nat}
    (hsign : takeSign cs = (negative, Nat.toDigits 10 n)) (short : (Nat.toDigits 10 n).length ≤ Text.digitLimit) :
    readNumber cs = .ok (.int (if negative then 0 - n else n), .int) := by
  have hfilter : (Nat.toDigits 10 n).filter (· != '_') = Nat.toDigits 10 n := by
    rw [List.filter_eq_self]
    intro c hc
    simpa using Text.ne_of_isDigit (Text.isDigit_of_mem hc) (by decide)
  have hpoint : (Nat.toDigits 10 n).contains '.' = false := by simp [Text.notMem_toDigits (c := '.') (by decide) n]
  have hsmall : (Nat.toDigits 10 n).contains 'e' = false := by simp [Text.notMem_toDigits (c := 'e') (by decide) n]
  have hlarge : (Nat.toDigits 10 n).contains 'E' = false := by simp [Text.notMem_toDigits (c := 'E') (by decide) n]
  have hword (d : Char) (ds : List Char) (hd : d.isDigit = false) :
      (String.ofList ((Nat.toDigits 10 n).map Char.toLower) == String.ofList (d :: ds)) = false := by
    obtain ⟨c, rest, hcs⟩ := List.exists_cons_of_ne_nil (Nat.toDigits_ne_nil (n := n) (b := 10))
    have hc : c.isDigit = true := Text.isDigit_of_mem (hcs ▸ List.mem_cons_self)
    rw [hcs, List.map_cons, toLower_of_isDigit hc]
    exact ofList_ne (Text.ne_of_isDigit hc hd) _ ds
  have hinf : (String.ofList ((Nat.toDigits 10 n).map Char.toLower) == "inf") = false := hword 'i' "nf".toList (by decide)
  have hnan : (String.ofList ((Nat.toDigits 10 n).map Char.toLower) == "nan") = false := hword 'n' "an".toList (by decide)
  rw [readNumber, hsign]
  simp only [hfilter, hpoint, hsmall, hlarge, hinf, hnan, whole?_toDigits short, Bool.or_self, Bool.and_false,
    Bool.false_eq_true, if_false]

theorem isBareChar_of_mem_toString {n : Int} {c : Char} (h : c ∈ (toString n).toList) : isBareChar c = true := by
  have hdigits : c ∈ Nat.toDigits 10 n.natAbs → isBareChar c = true :=
    fun hc => isBareChar_of_isDigit (Text.isDigit_of_mem hc)
  obtain ⟨hlist, -⟩ | ⟨hlist, -⟩ := Text.natAbs_cases n
  · rw [hlist] at h
    exact hdigits h
  · rw [hlist, List.mem_cons] at h
    rcases h with rfl | h
    · rfl
    · exact hdigits h

theorem time?_of_notMem {cs : List Char} (h : ':' ∉ cs) : time? cs = none := by
  have hcolon : (cs[2]? != some ':') = true := by
    rw [bne_iff_ne]
    exact fun heq => h (List.mem_of_getElem? heq)
  simp only [time?, hcolon, Bool.true_or, if_true]

theorem date?_of_notMem {cs : List Char} (h : '-' ∉ cs.drop 1) : date? cs = none := by
  simp only [date?, List.contains_eq_mem, h, decide_false, Bool.not_false, if_true]

theorem readNumber_toString {n : Int} (short : (Nat.toDigits 10 n.natAbs).length ≤ Text.digitLimit) :
    readNumber (toString n).toList = .ok (.int n, .int) := by
  obtain ⟨hlist, hn⟩ | ⟨hlist, hn⟩ := Text.natAbs_cases n
  · have hsign : takeSign (toString n).toList = (false, Nat.toDigits 10 n.natAbs) := by rw [hlist, takeSign_toDigits]
    rw [readNumber_of_takeSign hsign short, if_neg (by decide), ← hn]
  · have hsign : takeSign (toString n).toList = (true, Nat.toDigits 10 n.natAbs) := by rw [hlist, takeSign]
    rw [readNumber_of_takeSign hsign short, if_pos rfl, Int.zero_sub, ← hn]

theorem toString_cons (n : Int) : ∃ c rest, (toString n).toList = c :: rest ∧
    (c.toLower ≠ 't' ∧ c.toLower ≠ 'f') ∧ '-' ∉ rest := by
  have hdigits : '-' ∉ Nat.toDigits 10 n.natAbs := Text.notMem_toDigits (by decide) _
  obtain ⟨hlist, -⟩ | ⟨hlist, -⟩ := Text.natAbs_cases n
  · obtain ⟨c, rest, hcs⟩ := List.exists_cons_of_ne_nil (Nat.toDigits_ne_nil (n := n.natAbs) (b := 10))
    have hc : c.isDigit = true := Text.isDigit_of_mem (hcs ▸ List.mem_cons_self)
    have hlower : c.toLower ≠ 't' ∧ c.toLower ≠ 'f' := by
      rw [toLower_of_isDigit hc]
      exact ⟨Text.ne_of_isDigit hc (by decide), Text.ne_of_isDigit hc (by decide)⟩
    rw [hcs] at hdigits
    exact ⟨c, rest, hlist.trans hcs, hlower, fun h => hdigits (List.mem_cons_of_mem c h)⟩
  · exact ⟨'-', _, hlist, by decide, hdigits⟩

theorem readValue_toString {n : Int} (short : (Nat.toDigits 10 n.natAbs).length ≤ Text.digitLimit) (fuel : Nat) :
    readValue (fuel + 1) (toString n).toList = .ok (.int n, .int) := by
  have hread := readNumber_toString short
  have hbare : ∀ c ∈ (toString n).toList, isBareChar c = true := fun c hc => isBareChar_of_mem_toString hc
  obtain ⟨c, rest, hcs, ⟨ht, hf⟩, hminus⟩ := toString_cons n
  rw [hcs] at hread hbare ⊢
  have hc : isBareChar c = true := hbare c List.mem_cons_self
  have htime : time? (c :: rest) = none :=
    time?_of_notMem fun h => ne_of_isBareChar (hbare _ h) (d := ':') (by decide) rfl
  have hdate : date? (c :: rest) = none := date?_of_notMem hminus
  obtain ⟨h1, h2, h3, h4⟩ := not_word ht hf rest
  have h5 : (c == '"') = false := beq_eq_false_iff_ne.mpr (ne_of_isBareChar hc (by decide))
  have h6 : (c == '\'') = false := beq_eq_false_iff_ne.mpr (ne_of_isBareChar hc (by decide))
  have h7 : (c == '[') = false := beq_eq_false_iff_ne.mpr (ne_of_isBareChar hc (by decide))
  have h8 : (c == '\x7b') = false := beq_eq_false_iff_ne.mpr (ne_of_isBareChar hc (by decide))
  rw [readValue]
  simp only [h1, h2, h3, h4, h5, h6, h7, h8, htime, hdate, hread, Bool.or_self, Bool.false_eq_true, if_false]

theorem isPadded_toDigits (marks : List Char) (n : Nat) : isPadded marks (Nat.toDigits 10 n) = false := by
  unfold isPadded
  split
  next c rest h =>
    obtain rfl := Text.eq_zero_of_toDigits h
    cases h
  next => rfl

theorem isStrict_toString (n : Int) : isStrict (toString n).toList = true := by
  have hbare : ∀ c ∈ (toString n).toList, Text.isBlank c = false := fun c hc =>
    isBlank_of_isBareChar (isBareChar_of_mem_toString hc)
  have hunder : '_' ∉ (toString n).toList := by
    have hdigits : '_' ∉ Nat.toDigits 10 n.natAbs := Text.notMem_toDigits (by decide) _
    obtain ⟨hlist, -⟩ | ⟨hlist, -⟩ := Text.natAbs_cases n
    · rwa [hlist]
    · rw [hlist, List.mem_cons]
      exact not_or.mpr ⟨by decide, hdigits⟩
  have hpadded : isPaddedNumber (toString n).toList = false := by
    obtain ⟨hlist, -⟩ | ⟨hlist, -⟩ := Text.natAbs_cases n
    · rw [hlist]
      unfold isPaddedNumber
      split
      next h => exact absurd (h ▸ List.mem_cons_self) (Text.notMem_toDigits (c := '+') (by decide) n.natAbs)
      next h => exact absurd (h ▸ List.mem_cons_self) (Text.notMem_toDigits (c := '-') (by decide) n.natAbs)
      next => exact isPadded_toDigits _ _
    · rw [hlist]
      exact isPadded_toDigits _ _
  have hempty : (toString n).toList.isEmpty = false := by
    obtain ⟨c, rest, hcs, -, -⟩ := toString_cons n
    rw [hcs]
    rfl
  have hfront : ((toString n).toList.head? != some '_') = true := by
    rw [bne_iff_ne]
    exact fun h => hunder (List.mem_of_head? h)
  have hback : ((toString n).toList.getLast? != some '_') = true := by
    rw [bne_iff_ne]
    exact fun h => hunder (List.mem_of_getLast? h)
  have hoccur : ([['_', '.'], ['.', '_'], ['_', '_']].all fun sep => Text.occurrences sep (toString n).toList == 0) = true := by
    rw [List.all_eq_true]
    intro sep hsep
    have hmem : '_' ∈ sep := by
      simp only [List.mem_cons, List.not_mem_nil, or_false] at hsep
      rcases hsep with rfl | rfl | rfl <;> decide
    rw [Text.occurrences_eq_zero hmem hunder]
    rfl
  unfold isStrict
  rw [(Text.stripped_of_forall hbare).stripChars_eq]
  simp only [hpadded, hempty, hfront, hback, hoccur, Bool.not_false, Bool.and_self]

theorem writtenAs_int {n : Int} (short : (toString n.natAbs).length ≤ Text.digitLimit) :
    WrittenAs (.int n) (toString n).toList := by
  have hbare : ∀ c ∈ (toString n).toList, isBareChar c = true := fun c hc => isBareChar_of_mem_toString hc
  have hdigits : (Nat.toDigits 10 n.natAbs).length ≤ Text.digitLimit := by
    rw [← Nat.toList_repr, String.length_toList]
    exact short
  obtain ⟨c, rest, hcs, -, -⟩ := toString_cons n
  refine writtenAs_of_plain ?_ rfl rfl (fun c hc => isPlainChar_of_isBareChar (hbare c hc)) ?_
    (fun _ => isStrict_toString n) (readValue_toString hdigits 0)
  · rw [writeValue, writeInteger, if_pos short]
  · exact ⟨c, rest, hcs, hbare c (hcs ▸ List.mem_cons_self)⟩

/-! ### Numbers with a point, dates and times -/

/-- Whether a number with a point, a date or a time is found again in its own text. -/
def readsBack (v : Value) : Bool :=
  match writeValue v with
  | .error _ => false
  | .ok cs =>
    cs.all isPlainChar && (cs.head?.map isBareChar).getD false && isStrict cs &&
      match v, readValue 1 cs with
      | .float x, .ok (.float y, family) => x == y && family == .float
      | .moment m, .ok (.moment n, family) => m == n && family == familyOf v
      | _, _ => false

theorem exists_writtenAs_of_readsBack {v : Value} (h : readsBack v = true) :
    ∃ cs, WrittenAs v cs ∧ ∀ c ∈ cs, isPlainChar c = true := by
  unfold readsBack at h
  cases hwritten : writeValue v with
  | error f =>
    rw [hwritten] at h
    cases h
  | ok cs =>
    rw [hwritten] at h
    simp only [Bool.and_eq_true, List.all_eq_true] at h
    obtain ⟨⟨⟨hchars, hhead⟩, hstrict⟩, hread⟩ := h
    obtain ⟨c, rest, rfl⟩ : ∃ c rest, cs = c :: rest := by
      cases cs with
      | nil => cases hhead
      | cons c rest => exact ⟨c, rest, rfl⟩
    have hsame : isTable v = false ∧ isListOfTables v = false ∧ readValue 1 (c :: rest) = .ok (v, familyOf v) := by
      split at hread
      next x y family hagain =>
        rw [Bool.and_eq_true, beq_iff_eq, beq_iff_eq] at hread
        obtain ⟨rfl, rfl⟩ := hread
        exact ⟨rfl, rfl, hagain⟩
      next m n family hagain =>
        rw [Bool.and_eq_true, beq_iff_eq, beq_iff_eq] at hread
        obtain ⟨rfl, rfl⟩ := hread
        exact ⟨rfl, rfl, hagain⟩
      next => cases hread
    refine ⟨c :: rest, ?_, hchars⟩
    exact writtenAs_of_plain hwritten hsame.1 hsame.2.1 hchars ⟨c, rest, rfl, hhead⟩ (fun _ => hstrict) hsame.2.2

end ChangeGraph.Toml
