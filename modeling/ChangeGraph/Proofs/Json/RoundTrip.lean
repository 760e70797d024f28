import ChangeGraph.Proofs.Json.Quoted
import ChangeGraph.Proofs.Text.Digits
import ChangeGraph.Proofs.Value.Entries

/-! # JSON read back

A value without doubles and moments, with each key once in a table, is read back from its text, whatever the indent,
and the text is ASCII. The reader is given as many steps as the text has characters, which is enough. -/

namespace ChangeGraph.Json

attribute [local simp] readValue readElements readEntries writeAt writeElements writeEntries

/-! ### Blanks -/

theorem skipSpace_append {sp : List Char} (h : ∀ c ∈ sp, isSpace c = true) (cs : List Char) :
    skipSpace (sp ++ cs) = skipSpace cs := by
  rw [skipSpace, skipSpace, List.dropWhile_append_of_pos h]

theorem skipSpace_cons {c : Char} (h : isSpace c = false) (cs : List Char) : skipSpace (c :: cs) = c :: cs := by
  rw [skipSpace, List.dropWhile_cons_of_neg]
  simp [h]

theorem isSpace_of_mem_breakAt {indent : Option Nat} {depth : Nat} : ∀ c ∈ breakAt indent depth, isSpace c = true := by
  intro c hc
  cases indent with
  | none => cases hc
  | some n =>
    rcases List.mem_cons.mp hc with rfl | hc
    · rfl
    · rw [List.eq_of_mem_replicate hc]
      rfl

theorem exists_between (indent : Option Nat) (depth : Nat) :
    ∃ sp, between indent depth = ',' :: sp ∧ ∀ c ∈ sp, isSpace c = true := by
  cases indent with
  | none => exact ⟨[' '], rfl, by simp [isSpace]⟩
  | some n => exact ⟨breakAt (some n) depth, rfl, isSpace_of_mem_breakAt⟩

/-- A text goes on as it does behind a value. -/
def Stops (cs : List Char) : Prop := ∀ c ∈ cs.head?, c ∈ [',', ']', '\x7d', '\n']

/-! ### Numbers -/

theorem isDigit_eq (c : Char) : isDigit c = c.isDigit := by
  simp only [isDigit, Char.isDigit, Char.le_def, UInt32.le_iff_toNat_le]

theorem natOf_toDigits (n : Nat) : natOf (Nat.toDigits 10 n) = n := Nat.ofDigitChars_ten_toDigits

theorem not_numeric_of_stops {c : Char} {rest : List Char} (h : Stops (c :: rest)) :
    isDigit c = false ∧ c ≠ '.' ∧ c ≠ 'e' ∧ c ≠ 'E' := by
  have hmem := h c rfl
  fin_cases hmem <;> decide

theorem takeWhile_isDigit {ds rest : List Char} (hds : ∀ c ∈ ds, isDigit c = true) (hrest : Stops rest) :
    (ds ++ rest).takeWhile isDigit = ds ∧ (ds ++ rest).dropWhile isDigit = rest := by
  rw [List.takeWhile_append_of_pos hds, List.dropWhile_append_of_pos hds]
  cases rest with
  | nil => simp
  | cons c rest => simp [(not_numeric_of_stops hrest).1]

theorem leading_toDigits (n : Nat) : ((Nat.toDigits 10 n).isEmpty ||
    (decide ((Nat.toDigits 10 n).length > 1) && (Nat.toDigits 10 n).head? == some '0')) = false := by
  obtain ⟨c, rest, hcs⟩ := List.exists_cons_of_ne_nil (Nat.toDigits_ne_nil (n := n) (b := 10))
  by_cases hc : c = '0'
  · subst hc
    obtain rfl : n = 0 := Text.eq_zero_of_toDigits hcs
    rfl
  · simp [hcs, hc]

theorem readUnsigned_toDigits (negative : Bool) (n : Nat) {rest : List Char} (hrest : Stops rest) :
    readUnsigned negative (Nat.toDigits 10 n ++ rest) = some (.int (if negative then -(n : Int) else n), rest) := by
  have hdigits : ∀ c ∈ Nat.toDigits 10 n, isDigit c = true := fun c hc => by
    rw [isDigit_eq]
    exact Text.isDigit_of_mem hc
  obtain ⟨htake, hdrop⟩ := takeWhile_isDigit hdigits hrest
  simp only [readUnsigned, htake, hdrop, leading_toDigits]
  cases rest with
  | nil => simp [natOf_toDigits]
  | cons c rest =>
    obtain ⟨-, hpoint, hsmall, hlarge⟩ := not_numeric_of_stops hrest
    simp [natOf_toDigits, hpoint, hsmall, hlarge]

/-- The characters that a number can begin with. -/
def Numeric (c : Char) : Prop := c = '-' ∨ c.isDigit = true

theorem exists_numeric (n : Int) : ∃ c cs, (toString n).toList = c :: cs ∧ Numeric c := by
  obtain ⟨hlist, -⟩ | ⟨hlist, -⟩ := Text.natAbs_cases n
  · obtain ⟨c, cs, hcs⟩ := List.exists_cons_of_ne_nil (Nat.toDigits_ne_nil (n := n.natAbs) (b := 10))
    exact ⟨c, cs, hlist.trans hcs, .inr (Text.isDigit_of_mem (hcs ▸ List.mem_cons_self))⟩
  · exact ⟨'-', _, hlist, .inl rfl⟩

theorem Numeric.ne {c d : Char} (h : Numeric c) (hd : d.isDigit = false) (hminus : d ≠ '-') : c ≠ d := by
  rcases h with rfl | h
  · exact hminus.symm
  · exact Text.ne_of_isDigit h hd

theorem readNumber_toString (n : Int) {rest : List Char} (hrest : Stops rest) :
    readNumber ((toString n).toList ++ rest) = some (.int n, rest) := by
  obtain ⟨hlist, hn⟩ | ⟨hlist, hn⟩ := Text.natAbs_cases n
  · have hread := readUnsigned_toDigits false n.natAbs hrest
    rw [if_neg (by decide), ← hn] at hread
    rw [hlist, readNumber, hread]
    intro cs heq
    obtain ⟨c, ds, hcs⟩ := List.exists_cons_of_ne_nil (Nat.toDigits_ne_nil (n := n.natAbs) (b := 10))
    rw [hcs] at heq
    have hc : c.isDigit = true := Text.isDigit_of_mem (hcs ▸ List.mem_cons_self)
    exact Text.ne_of_isDigit hc (d := '-') (by decide) (List.cons.inj heq).1
  · have hread := readUnsigned_toDigits true n.natAbs hrest
    rw [if_pos rfl, ← hn] at hread
    rw [hlist, List.cons_append, readNumber, hread]

/-! ### Values -/

/-- Values that are the same after they were written and read: no doubles and no moments, and each key once. -/
inductive Exact : Value → Prop where
  | null : Exact .null
  | bool (b : Bool) : Exact (.bool b)
  | int (n : Int) : Exact (.int n)
  | text (s : String) : Exact (.text s)
  | list {vs : List Value} : (∀ v ∈ vs, Exact v) → Exact (.list vs)
  | table {es : Entries} : (es.map Prod.fst).Nodup → (∀ e ∈ es, Exact e.2) → Exact (.table es)

theorem readValue_skip {sp : List Char} (h : ∀ c ∈ sp, isSpace c = true) (fuel : Nat) (cs : List Char) :
    readValue fuel (sp ++ cs) = readValue fuel cs := by
  cases fuel with
  | zero => rfl
  | succ fuel => rw [readValue, readValue, skipSpace_append h]

/-- A value begins with a character that neither is a blank nor ends a list. -/
theorem Exact.exists_cons {v : Value} (h : Exact v) (indent : Option Nat) (depth : Nat) :
    ∃ c cs, writeAt indent depth v = c :: cs ∧ isSpace c = false ∧ c ≠ ']' := by
  cases h with
  | null => exact ⟨'n', _, rfl, by decide⟩
  | bool b =>
    cases b with
    | false => exact ⟨'f', _, rfl, by decide⟩
    | true => exact ⟨'t', _, rfl, by decide⟩
  | int n =>
    obtain ⟨c, cs, hcs, hc⟩ := exists_numeric n
    refine ⟨c, cs, by rw [writeAt, hcs], ?_, hc.ne (by decide) (by decide)⟩
    rcases hc with rfl | hc
    · rfl
    · have hne {d : Char} (hd : d.isDigit = false) : (c == d) = false :=
        beq_eq_false_iff_ne.mpr (Text.ne_of_isDigit hc hd)
      rw [isSpace, hne (by decide), hne (by decide), hne (by decide), hne (by decide)]
      rfl
  | text s => exact ⟨'"', _, rfl, by decide⟩
  | @list vs _ => cases vs <;> exact ⟨'[', _, rfl, by decide⟩
  | @table es _ _ => cases es <;> exact ⟨'\x7b', _, rfl, by decide⟩

/-- A value is read off the front of its text, where what follows ends it. -/
def ReadsBack (v : Value) : Prop :=
  ∀ indent depth rest fuel, (writeAt indent depth v).length ≤ fuel → Stops rest →
    readValue fuel (writeAt indent depth v ++ rest) = some (v, rest)

theorem stops_breakAt (indent : Option Nat) (depth : Nat) {c : Char} (hc : c ∈ [',', ']', '\x7d', '\n'])
    (rest : List Char) : Stops (breakAt indent depth ++ c :: rest) := by
  intro d hd
  cases indent with
  | none =>
    obtain rfl := Option.some.inj hd
    exact hc
  | some n =>
    obtain rfl := Option.some.inj hd
    decide

theorem stops_between (indent : Option Nat) (depth : Nat) (rest : List Char) :
    Stops (between indent depth ++ rest) := by
  obtain ⟨sp, hsp, -⟩ := exists_between indent depth
  rw [hsp]
  intro d hd
  obtain rfl := Option.some.inj hd
  decide

theorem readsBack_int (n : Int) : ReadsBack (.int n) := by
  intro indent depth rest fuel hfuel hrest
  obtain ⟨c, cs, hcs, hc⟩ := exists_numeric n
  have hread := readNumber_toString n hrest
  have hspace : isSpace c = false := by
    obtain ⟨d, ds, hds, hd, -⟩ := (Exact.int n).exists_cons indent depth
    rw [writeAt, hcs] at hds
    rw [(List.cons.inj hds).1]
    exact hd
  rw [writeAt, hcs] at hfuel ⊢
  rw [hcs] at hread
  obtain ⟨fuel, rfl⟩ : ∃ m, fuel = m + 1 := ⟨fuel - 1, by rw [List.length_cons] at hfuel; omega⟩
  rw [readValue, List.cons_append, skipSpace_cons hspace]
  split
  case h_7 => exact hread
  all_goals
    have hhead := (List.cons.inj ‹_›).1
    exact absurd hhead (hc.ne (by decide) (by decide))

theorem readsBack_text (s : String) : ReadsBack (.text s) := by
  intro indent depth rest fuel hfuel _
  obtain ⟨fuel, rfl⟩ : ∃ m, fuel = m + 1 := ⟨fuel - 1, by simp [quote] at hfuel; omega⟩
  rw [writeAt, quote_append, readValue, skipSpace_cons (by decide)]
  simp only [readText_quote, Option.bind_eq_bind, Option.bind_some, Option.pure_def, String.ofList_toList]

theorem readElements_skip {sp : List Char} (h : ∀ c ∈ sp, isSpace c = true) (fuel : Nat) (cs : List Char) :
    readElements fuel (sp ++ cs) = readElements fuel cs := by
  cases fuel with
  | zero => rfl
  | succ fuel => rw [readElements, readElements, readValue_skip h]

theorem readElements_write (indent : Option Nat) (depth outer : Nat) {v : Value} {vs : List Value} (hv : ReadsBack v)
    (hvs : ∀ w ∈ vs, ReadsBack w) (rest : List Char) (fuel : Nat)
    (hfuel : (writeAt indent depth v).length + (writeElements indent depth vs).length < fuel) :
    readElements fuel
        (writeAt indent depth v ++ (writeElements indent depth vs ++ (breakAt indent outer ++ ']' :: rest))) =
      some (v :: vs, rest) := by
  induction vs generalizing v fuel with
  | nil =>
    obtain ⟨fuel, rfl⟩ : ∃ m, fuel = m + 1 := ⟨fuel - 1, by omega⟩
    rw [readElements, writeElements, List.nil_append,
      hv indent depth _ fuel (by omega) (stops_breakAt indent outer (by decide) rest)]
    simp only [Option.bind_eq_bind, Option.bind_some, skipSpace_append isSpace_of_mem_breakAt]
    rw [skipSpace_cons (by decide)]
    rfl
  | cons w ws ih =>
    obtain ⟨fuel, rfl⟩ : ∃ m, fuel = m + 1 := ⟨fuel - 1, by omega⟩
    obtain ⟨sp, hsp, hspace⟩ := exists_between indent depth
    simp only [writeElements, List.length_append, hsp, List.length_cons] at hfuel
    have hnext := ih (hvs w List.mem_cons_self) (fun x hx => hvs x (List.mem_cons_of_mem w hx)) fuel (by omega)
    rw [readElements, writeElements, List.append_assoc, List.append_assoc,
      hv indent depth _ fuel (by omega) (stops_between indent depth _), hsp, List.cons_append]
    simp only [Option.bind_eq_bind, Option.bind_some]
    rw [skipSpace_cons (by decide)]
    simp only [readElements_skip hspace, hnext, Option.bind_some, Option.pure_def]

theorem readsBack_list {vs : List Value} (hexact : ∀ v ∈ vs, Exact v) (hvs : ∀ v ∈ vs, ReadsBack v) :
    ReadsBack (.list vs) := by
  intro indent depth rest fuel hfuel _
  cases vs with
  | nil =>
    obtain ⟨fuel, rfl⟩ : ∃ m, fuel = m + 1 := ⟨fuel - 1, by simp at hfuel; omega⟩
    rw [writeAt, readValue]
    rfl
  | cons v vs =>
    obtain ⟨c, cs, hcs, hspace, hc⟩ := (hexact v List.mem_cons_self).exists_cons indent (depth + 1)
    simp only [writeAt, List.length_append, List.length_cons, List.length_nil] at hfuel
    obtain ⟨fuel, rfl⟩ : ∃ m, fuel = m + 1 := ⟨fuel - 1, by omega⟩
    have hread := readElements_write indent (depth + 1) depth (hvs v List.mem_cons_self)
      (fun w hw => hvs w (List.mem_cons_of_mem v hw)) rest fuel (by omega)
    simp only [writeAt, List.cons_append, List.append_assoc, List.nil_append]
    rw [readValue, skipSpace_cons (by decide)]
    simp only [skipSpace_append isSpace_of_mem_breakAt]
    rw [hcs] at hread ⊢
    rw [List.cons_append, skipSpace_cons hspace]
    split
    next heq => exact absurd (List.cons.inj heq).1 hc
    next =>
      rw [List.cons_append] at hread
      rw [hread]
      rfl

/-- One entry is read and put behind those before it; what follows decides whether there is another. -/
theorem readEntries_entry (indent : Option Nat) (depth fuel : Nat) {k : String} {v : Value} {done : Entries}
    {sp after : List Char} (hsp : ∀ c ∈ sp, isSpace c = true) (hk : k ∉ done.map Prod.fst) (hv : ReadsBack v)
    (hfuel : (writeAt indent depth v).length ≤ fuel) (hafter : Stops after) :
    (∀ cs, skipSpace after = ',' :: cs →
      readEntries (fuel + 1) done (sp ++ (quote k ++ ':' :: ' ' :: (writeAt indent depth v ++ after))) =
        readEntries fuel (done ++ [(k, v)]) cs) ∧
    (∀ rest, skipSpace after = '\x7d' :: rest →
      readEntries (fuel + 1) done (sp ++ (quote k ++ ':' :: ' ' :: (writeAt indent depth v ++ after))) =
        some (done ++ [(k, v)], rest)) := by
  have hblank : ∀ c ∈ [' '], isSpace c = true := by simp [isSpace]
  have hvalue : readValue fuel (' ' :: (writeAt indent depth v ++ after)) = some (v, after) :=
    (readValue_skip hblank fuel _).trans (hv indent depth after fuel hfuel hafter)
  rw [readEntries, skipSpace_append hsp, quote_append, skipSpace_cons (by decide)]
  simp only [readText_quote, Option.bind_eq_bind, Option.bind_some]
  rw [skipSpace_cons (by decide)]
  simp only [hvalue, Option.bind_some, String.ofList_toList, Entries.set_of_notMem hk, Option.pure_def]
  constructor
  · intro cs h
    rw [h]
    rfl
  · intro rest h
    rw [h]
    rfl

theorem readEntries_write (indent : Option Nat) (depth outer : Nat) {k : String} {v : Value} {done es : Entries}
    {sp : List Char} (hsp : ∀ c ∈ sp, isSpace c = true) (hkeys : ((done ++ (k, v) :: es).map Prod.fst).Nodup)
    (hv : ReadsBack v) (hes : ∀ e ∈ es, ReadsBack e.2) (rest : List Char) (fuel : Nat)
    (hfuel : (writeAt indent depth v).length + (writeEntries indent depth es).length < fuel) :
    readEntries fuel done (sp ++ (quote k ++ ':' :: ' ' :: (writeAt indent depth v ++
        (writeEntries indent depth es ++ (breakAt indent outer ++ '\x7d' :: rest))))) =
      some (done ++ (k, v) :: es, rest) := by
  induction es generalizing done k v fuel sp with
  | nil =>
    obtain ⟨fuel, rfl⟩ : ∃ m, fuel = m + 1 := ⟨fuel - 1, by omega⟩
    have hk : k ∉ done.map Prod.fst := Entries.notMem_of_nodup hkeys
    have hend : skipSpace (breakAt indent outer ++ '\x7d' :: rest) = '\x7d' :: rest := by
      rw [skipSpace_append isSpace_of_mem_breakAt, skipSpace_cons (by decide)]
    rw [writeEntries, List.nil_append]
    exact (readEntries_entry indent depth fuel hsp hk hv (by omega)
      (stops_breakAt indent outer (by decide) rest)).2 rest hend
  | cons e es ih =>
    obtain ⟨fuel, rfl⟩ : ∃ m, fuel = m + 1 := ⟨fuel - 1, by omega⟩
    obtain ⟨l, w⟩ := e
    obtain ⟨gap, hgap, hspace⟩ := exists_between indent depth
    have hk : k ∉ done.map Prod.fst := Entries.notMem_of_nodup hkeys
    have hw : ReadsBack w := hes (l, w) List.mem_cons_self
    simp only [writeEntries, List.length_append, hgap, List.length_cons] at hfuel
    have hkeys' : ((done ++ [(k, v)] ++ (l, w) :: es).map Prod.fst).Nodup := by simpa using hkeys
    have hnext := ih hspace hkeys' hw (fun x hx => hes x (List.mem_cons_of_mem _ hx)) fuel (by omega)
    have hcomma (cs : List Char) : skipSpace (between indent depth ++ cs) = ',' :: (gap ++ cs) := by
      rw [hgap, List.cons_append, skipSpace_cons (by decide)]
    simp only [writeEntries, List.append_assoc, List.cons_append, List.nil_append] at hnext ⊢
    exact ((readEntries_entry indent depth fuel hsp hk hv (by omega) (stops_between indent depth _)).1 _
      (hcomma _)).trans hnext

theorem readsBack_table {es : Entries} (hkeys : (es.map Prod.fst).Nodup) (hes : ∀ e ∈ es, ReadsBack e.2) :
    ReadsBack (.table es) := by
  intro indent depth rest fuel hfuel _
  cases es with
  | nil =>
    obtain ⟨fuel, rfl⟩ : ∃ m, fuel = m + 1 := ⟨fuel - 1, by simp at hfuel; omega⟩
    rw [writeAt, readValue]
    rfl
  | cons e es =>
    obtain ⟨k, v⟩ := e
    simp only [writeAt, List.length_append, List.length_cons, List.length_nil] at hfuel
    obtain ⟨fuel, rfl⟩ : ∃ m, fuel = m + 1 := ⟨fuel - 1, by omega⟩
    have hnone : ∀ c ∈ ([] : List Char), isSpace c = true := by simp
    have hkeys' : ((([] : Entries) ++ (k, v) :: es).map Prod.fst).Nodup := hkeys
    have hread := readEntries_write indent (depth + 1) depth hnone hkeys' (hes _ List.mem_cons_self)
      (fun x hx => hes x (List.mem_cons_of_mem _ hx)) rest fuel (by omega)
    simp only [writeAt, List.cons_append, List.append_assoc, List.nil_append]
    rw [readValue, skipSpace_cons (by decide)]
    simp only [skipSpace_append isSpace_of_mem_breakAt]
    rw [List.nil_append, quote_append] at hread
    rw [quote_append, skipSpace_cons (by decide)]
    change (readEntries fuel [] _ >>= fun r => some (Value.table r.1, r.2)) = _
    rw [hread]
    rfl

theorem Exact.readsBack {v : Value} (h : Exact v) : ReadsBack v := by
  induction h with
  | null =>
    intro indent depth rest fuel hfuel _
    obtain ⟨fuel, rfl⟩ : ∃ m, fuel = m + 1 := ⟨fuel - 1, by simp at hfuel; omega⟩
    rw [writeAt, readValue]
    rfl
  | bool b =>
    intro indent depth rest fuel hfuel _
    obtain ⟨fuel, rfl⟩ : ∃ m, fuel = m + 1 := ⟨fuel - 1, by cases b <;> simp at hfuel <;> omega⟩
    cases b <;> (rw [writeAt, readValue]; rfl)
  | int n => exact readsBack_int n
  | text s => exact readsBack_text s
  | list hexact ih => exact readsBack_list hexact ih
  | table hkeys _ ih => exact readsBack_table hkeys ih

theorem Exact.read?_render {v : Value} (h : Exact v) (indent : Option Nat) : read? (render indent v) = some v := by
  have hread := h.readsBack indent 0 [] ((writeAt indent 0 v).length + 1) (by omega) (by simp [Stops])
  rw [List.append_nil] at hread
  simp only [read?, render, String.toList_ofList, hread, Option.bind_eq_bind, Option.bind_some]
  rfl

@[simp] theorem ascii_breakAt (indent : Option Nat) (depth : Nat) : Ascii (breakAt indent depth) := by
  intro c hc
  have hspace := isSpace_of_mem_breakAt c hc
  simp only [isSpace, Bool.or_eq_true, beq_iff_eq] at hspace
  rcases hspace with ((rfl | rfl) | rfl) | rfl <;> decide

@[simp] theorem ascii_between (indent : Option Nat) (depth : Nat) : Ascii (between indent depth) := by
  cases indent with
  | none => simp [between]
  | some n => simp [between]

theorem ascii_toString (n : Int) : Ascii (toString n).toList := by
  have hdigits : Ascii (Nat.toDigits 10 n.natAbs) := by
    intro c hc
    have hdigit := Text.isDigit_of_mem hc
    simp only [Char.isDigit, Bool.and_eq_true, decide_eq_true_eq, UInt32.le_iff_toNat_le] at hdigit
    exact Nat.lt_of_le_of_lt hdigit.2 (by decide)
  obtain ⟨hlist, -⟩ | ⟨hlist, -⟩ := Text.natAbs_cases n
  · rw [hlist]
    exact hdigits
  · rw [hlist]
    simp [hdigits]

theorem ascii_writeElements {indent : Option Nat} {depth : Nat} {vs : List Value}
    (h : ∀ v ∈ vs, Ascii (writeAt indent depth v)) : Ascii (writeElements indent depth vs) := by
  induction vs with
  | nil => simp
  | cons v vs ih =>
    obtain ⟨hv, hvs⟩ := List.forall_mem_cons.mp h
    simp [hv, ih hvs]

theorem ascii_writeEntries {indent : Option Nat} {depth : Nat} {es : Entries}
    (h : ∀ e ∈ es, Ascii (writeAt indent depth e.2)) : Ascii (writeEntries indent depth es) := by
  induction es with
  | nil => simp
  | cons e es ih =>
    obtain ⟨he, hes⟩ := List.forall_mem_cons.mp h
    simp [he, ih hes]

theorem Exact.ascii {v : Value} (h : Exact v) (indent : Option Nat) (depth : Nat) : Ascii (writeAt indent depth v) := by
  induction h generalizing depth with
  | null => simp
  | bool b => cases b <;> simp
  | int n => exact ascii_toString n
  | text s => exact ascii_quote s
  | @list vs _ ih =>
    cases vs with
    | nil => simp
    | cons v vs =>
      have hrest := ascii_writeElements fun w hw => ih w (List.mem_cons_of_mem v hw) (depth + 1)
      have hv := ih v List.mem_cons_self (depth + 1)
      simp [hv, hrest]
  | @table es _ _ ih =>
    cases es with
    | nil => simp
    | cons e es =>
      have hrest := ascii_writeEntries fun x hx => ih x (List.mem_cons_of_mem e hx) (depth + 1)
      have he := ih e List.mem_cons_self (depth + 1)
      simp [he, hrest]

/-- A value has a text if and only if its integers are short and the indent fits. -/
theorem write_eq_ok_iff {indent : Option Nat} {v : Value} {text : String} :
    write indent v = .ok text ↔
      (indent.getD 0 < indentLimit ∧ ∀ n ∈ integers v, Text.isShort n = true) ∧ render indent v = text := by
  rw [write, ← List.all_eq_true]
  split
  next hwide => simp [Nat.not_lt.mpr hwide]
  next hwide =>
    split
    next hshort => simp [hshort, Nat.not_le.mp hwide]
    next hshort => simp [hshort]

end ChangeGraph.Json
