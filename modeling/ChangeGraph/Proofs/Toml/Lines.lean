import ChangeGraph.Proofs.Toml.PlainValues
import ChangeGraph.Proofs.Toml.Tables

/-!
# Reading written lines

A line with a bare key and a plain value sets the key in the table that is being read, and a header of bare names enters
the table of these names.
-/

namespace ChangeGraph.Toml

open ChangeGraph.Text (cutAll cutAt? cutUpTo joinWith splitAtEach stripChars)

/-! ### Separators outside of quotes -/

theorem quotePieces_eq_cons {line : List Char} (h : '\'' ∉ line.takeWhile (· != '"')) :
    ∃ pieces, quotePieces line = line.takeWhile (· != '"') :: pieces := by
  obtain ⟨doubles, hdoubles⟩ := Text.splitAtEach_eq_cons '"' line
  have hfirst : cutAll ['\''] (line.takeWhile (· != '"')) = [line.takeWhile (· != '"')] := by
    rw [Text.cutAll_singleton, Text.splitAtEach_of_notMem h]
  refine ⟨alternate true doubles, ?_⟩
  rw [quotePieces, Text.cutAll_singleton, hdoubles]
  cases doubles with
  | nil => simp only [alternate, hfirst, List.append_nil]
  | cons e ds =>
    have hnone : (line.takeWhile (· != '"')).contains '\'' = false := by simpa using h
    simp only [hnone, alternate, hfirst, List.singleton_append, Bool.false_eq_true, if_false]

theorem separatorIndex_eq_one {c : Char} {line : List Char} (h : '\'' ∉ line.takeWhile (· != '"'))
    (hc : c ∈ line.takeWhile (· != '"')) : separatorIndex [c] false (quotePieces line) = 1 := by
  obtain ⟨pieces, hpieces⟩ := quotePieces_eq_cons h
  rw [hpieces, separatorIndex, Bool.not_false, Bool.true_and, if_pos (Text.occurrences_ne_zero hc)]

theorem cutAtIndex_one {c : Char} {front : List Char} (h : c ∉ front) (back : List Char) :
    cutAtIndex [c] 1 (front ++ c :: back) = (front, back) := by
  simp [cutAtIndex, cutUpTo, Text.cutAt?_singleton_append h, joinWith]

/-! ### Entries -/

theorem forall_of_isBare {cs : List Char} (h : isBare cs = true) : ∀ c ∈ cs, isBareChar c = true := by
  rw [isBare, Bool.and_eq_true] at h
  exact List.all_eq_true.mp h.2

theorem ne_nil_of_isBare {cs : List Char} (h : isBare cs = true) : cs ≠ [] := by
  rintro rfl
  cases h

theorem notMem_of_isBare {cs : List Char} (h : isBare cs = true) {c : Char} (hc : isBareChar c = false) : c ∉ cs :=
  fun hmem => ne_of_isBareChar (forall_of_isBare h c hmem) hc rfl

theorem stripped_of_isBare {cs : List Char} (h : isBare cs = true) : Text.Stripped cs :=
  Text.stripped_of_forall fun c hc => isBlank_of_isBareChar (forall_of_isBare h c hc)

def entryLine (key value : List Char) : List Char := key ++ " = ".toList ++ value

theorem takeWhile_entryLine {key : List Char} (hkey : isBare key = true) (value : List Char) :
    (entryLine key value).takeWhile (· != '"') = key ++ " = ".toList ++ value.takeWhile (· != '"') := by
  have hfront : ∀ c ∈ key ++ " = ".toList, (c != '"') = true := by
    intro c hc
    rw [bne_iff_ne]
    rcases List.mem_append.mp hc with hc | hc
    · exact ne_of_isBareChar (forall_of_isBare hkey c hc) (by decide)
    · rintro rfl
      revert hc
      decide
  rw [entryLine, List.takeWhile_append_of_pos hfront]

theorem keyAndValue_entryLine {key value : List Char} {v : Value} (hkey : isBare key = true) (h : WrittenAs v value) :
    keyAndValue (entryLine key value) = .ok (key, value, isStrict value) := by
  have hsingle : '\'' ∉ (entryLine key value).takeWhile (· != '"') := by
    rw [takeWhile_entryLine hkey]
    have hfront : '\'' ∉ key := notMem_of_isBare hkey (by decide)
    simp [hfront, h.unquoted]
  have hequals : '=' ∈ (entryLine key value).takeWhile (· != '"') := by
    rw [takeWhile_entryLine hkey]
    simp
  have hcut : cutAtIndex ['='] 1 (entryLine key value) = (key ++ [' '], ' ' :: value) := by
    have hfront : '=' ∉ key ++ [' '] := by
      have : '=' ∉ key := notMem_of_isBare hkey (by decide)
      simp [this]
    have hline : entryLine key value = (key ++ [' ']) ++ '=' :: (' ' :: value) := by simp [entryLine]
    rw [hline, cutAtIndex_one hfront]
  have hplain : isPlainValue (' ' :: value) = true := by simp [isPlainValue]
  have hdrop : dropUnderscores (' ' :: value) = ' ' :: value := rfl
  have hstrict : isStrict (' ' :: value) = isStrict value := by
    rw [isStrict, isStrict, h.stripped.stripChars_cons, h.stripped.stripChars_eq]
  rw [keyAndValue, separatorIndex_eq_one hsingle hequals, hcut]
  simp only [hdrop, hplain, (stripped_of_isBare hkey).stripChars_concat, h.stripped.stripChars_cons, hstrict, if_true]
  rfl

theorem keyNames_of_isBare {key : List Char} (hkey : isBare key = true) : keyNames key = .ok [key] := by
  have hdot : key.contains '.' = false := by simpa using notMem_of_isBare hkey (c := '.') (by decide)
  obtain ⟨c, rest, rfl⟩ := List.exists_cons_of_ne_nil (ne_nil_of_isBare hkey)
  have h1 : c ≠ '"' := ne_of_isBareChar (forall_of_isBare hkey c List.mem_cons_self) (by decide)
  have h2 : c ≠ '\'' := ne_of_isBareChar (forall_of_isBare hkey c List.mem_cons_self) (by decide)
  rw [keyNames, hdot, if_neg (by decide)]
  simp [h1, h2]

theorem readEntry_entryLine {key value : List Char} {v : Value} (hkey : isBare key = true) (h : WrittenAs v value)
    {fuel : Nat} (hfuel : value.length ≤ fuel) (t : Value) :
    readEntry (fuel + 1) (entryLine key value) t = addKey (String.ofList key) v t := by
  have hnumber : ((familyOf v).isNumber && !isStrict value) = false := by
    cases hfamily : (familyOf v).isNumber with
    | false => rfl
    | true => rw [h.strict hfamily]; rfl
  rw [readEntry, keyAndValue_entryLine hkey h]
  simp only [bind, Except.bind, keyNames_of_isBare hkey, h.short, h.read fuel hfuel, List.map_cons, List.map_nil, hnumber,
    Bool.false_eq_true, if_false]
  rfl

theorem stripped_entryLine {key value : List Char} {v : Value} (hkey : isBare key = true) (h : WrittenAs v value) :
    Text.Stripped (entryLine key value) where
  head c hc := by
    obtain ⟨d, rest, rfl⟩ := List.exists_cons_of_ne_nil (ne_nil_of_isBare hkey)
    cases hc
    exact isBlank_of_isBareChar (forall_of_isBare hkey c List.mem_cons_self)
  last c hc := by
    rw [entryLine, List.getLast?_append_of_ne_nil _ h.ne_nil] at hc
    exact h.stripped.last c hc

/-- A written entry sets its key in the table that is being read. -/
theorem State.step_entryLine {key value : List Char} {v : Value} (hkey : isBare key = true) (h : WrittenAs v value)
    {s : State} (hlong : s.long = none) :
    s.step (entryLine key value) =
      (changeAt (addKey (String.ofList key) v) s.here s.root).map fun r => { s with root := r.1, long := r.2 } := by
  have hread : readEntry ((entryLine key value).length + 1) (entryLine key value) = addKey (String.ofList key) v := by
    funext t
    have hfuel : value.length ≤ (entryLine key value).length := by
      rw [entryLine, List.length_append]
      omega
    exact readEntry_entryLine hkey h hfuel t
  have hequals : (entryLine key value).contains '=' = true := by simp [entryLine]
  obtain ⟨c, rest, hline, hopen, hbrace⟩ : ∃ c rest, entryLine key value = c :: rest ∧ c ≠ '[' ∧ c ≠ '\x7b' := by
    obtain ⟨c, rest, rfl⟩ := List.exists_cons_of_ne_nil (ne_nil_of_isBare hkey)
    have hc : isBareChar c = true := forall_of_isBare hkey c List.mem_cons_self
    exact ⟨c, _, rfl, ne_of_isBareChar hc (by decide), ne_of_isBareChar hc (by decide)⟩
  rw [State.step, hlong]
  simp only [(stripped_entryLine hkey h).stripChars_eq]
  split
  next heq => exact absurd (hline.symm.trans heq) (List.cons_ne_nil c rest)
  next heq => exact absurd (List.cons.inj (hline.symm.trans heq)).1 hopen
  next heq => exact absurd (List.cons.inj (hline.symm.trans heq)).1 hopen
  next heq => exact absurd (List.cons.inj (hline.symm.trans heq)).1 hbrace
  next =>
    rw [hequals, hread]
    cases changeAt (addKey (String.ofList key) v) s.here s.root <;> rfl

/-! ### Headers -/

def headerLine (name : List Char) : List Char := '[' :: name ++ [']']

theorem headerNames_of_isBare {ps : List (List Char)} (h : ∀ p ∈ ps, isBare p = true) :
    headerNames none ps = .ok (ps.map String.ofList) := by
  induction ps with
  | nil => rfl
  | cons p ps ih =>
    have hp : isBare p = true := h p List.mem_cons_self
    have hps := ih fun q hq => h q (List.mem_cons_of_mem p hq)
    have hall : (p.all fun c => c.isAlphanum || c == '_' || c == '-') = true :=
      List.all_eq_true.mpr (forall_of_isBare hp)
    rw [headerNames, Option.map_none, Option.getD_none, List.nil_append, (stripped_of_isBare hp).stripChars_eq]
    obtain ⟨c, rest, rfl⟩ := List.exists_cons_of_ne_nil (ne_nil_of_isBare hp)
    have h1 : (c == '"') = false :=
      beq_eq_false_iff_ne.mpr (ne_of_isBareChar (forall_of_isBare hp c List.mem_cons_self) (by decide))
    have h2 : (c == '\'') = false :=
      beq_eq_false_iff_ne.mpr (ne_of_isBareChar (forall_of_isBare hp c List.mem_cons_self) (by decide))
    simp only [h1, h2, hall, hps, Bool.or_self, Bool.false_eq_true, if_false, if_true]
    rfl

theorem eq_dot_or_isBareChar {ps : List (List Char)} (h : ∀ p ∈ ps, isBare p = true) {c : Char}
    (hc : c ∈ joinWith ['.'] ps) : c = '.' ∨ isBareChar c = true := by
  rcases Text.mem_joinWith hc with hc | ⟨p, hp, hc⟩
  · exact .inl (List.mem_singleton.mp hc)
  · exact .inr (forall_of_isBare (h p hp) c hc)

theorem notMem_joinWith {ps : List (List Char)} (h : ∀ p ∈ ps, isBare p = true) {c : Char} (hc : isBareChar c = false)
    (hdot : c ≠ '.') : c ∉ joinWith ['.'] ps := by
  intro hmem
  rcases eq_dot_or_isBareChar h hmem with heq | hbare
  · exact hdot heq
  · rw [hc] at hbare
    cases hbare

theorem readHeader_headerLine {ps : List (List Char)} (hne : ps ≠ []) (h : ∀ p ∈ ps, isBare p = true) :
    readHeader (headerLine (joinWith ['.'] ps)) = .ok (false, ps.map String.ofList) := by
  have hname {c : Char} (hc : isBareChar c = false) (hdot : c ≠ '.') := notMem_joinWith h hc hdot
  generalize hjoin : joinWith ['.'] ps = name at hname
  have hlist : ((name ++ [']']).head? == some '[') = false := by
    rw [beq_eq_false_iff_ne]
    intro heq
    have hmem : '[' ∈ name ++ [']'] := List.mem_of_head? heq
    simp [hname (c := '[') (by decide) (by decide)] at hmem
  have htake : (name ++ [']']).takeWhile (· != '"') = name ++ [']'] := by
    rw [List.takeWhile_eq_self_iff]
    intro c hc
    rw [bne_iff_ne]
    rintro rfl
    simp [hname (c := '"') (by decide) (by decide)] at hc
  have hsingle : '\'' ∉ (name ++ [']']).takeWhile (· != '"') := by
    rw [htake]
    simp [hname (c := '\'') (by decide) (by decide)]
  have hclose : ']' ∈ (name ++ [']']).takeWhile (· != '"') := by
    rw [htake]
    simp
  have hcut : cutUpTo [']'] 1 (name ++ [']']) = [name, []] := by
    rw [cutUpTo, Text.cutAt?_singleton_append (hname (by decide) (by decide))]
    rfl
  have hnames : headerNames none (cutAll ['.'] name) = .ok (ps.map String.ofList) := by
    rw [← hjoin, Text.cutAll_singleton, Text.splitAtEach_joinWith hne fun p hp => notMem_of_isBare (h p hp) (by decide),
      headerNames_of_isBare h]
  have hempty : (ps.map String.ofList).any (·.isEmpty) = false := by
    rw [List.any_eq_false]
    intro s hs
    obtain ⟨p, hp, rfl⟩ := List.mem_map.mp hs
    simpa using ne_nil_of_isBare (h p hp)
  have hrest : (headerLine name).drop 1 = name ++ [']'] := rfl
  rw [readHeader]
  simp only [hrest, hlist, Bool.false_eq_true, if_false, separatorIndex_eq_one hsingle hclose, hcut]
  simp only [List.dropLast, joinWith, hnames, hempty, bind, Except.bind]
  rfl

/-- The names of a table, with dots between them. -/
def nameOf (path : List String) : List Char := joinWith ['.'] (path.map String.toList)

theorem isBare_of_mem_map {path : List String} (h : ∀ k ∈ path, isBare k.toList = true) :
    ∀ p ∈ path.map String.toList, isBare p = true := by
  intro p hp
  obtain ⟨k, hk, rfl⟩ := List.mem_map.mp hp
  exact h k hk

/-- A written header enters the table of its names. -/
theorem State.step_headerLine {path : List String} (hpath : path ≠ []) (h : ∀ k ∈ path, isBare k.toList = true)
    {s : State} (hlong : s.long = none) :
    s.step (headerLine (nameOf path)) =
      (enter false s.passed path s.root).map fun r => { s with root := r.1, here := r.2.1, passed := r.2.2 } := by
  have hread : readHeader (headerLine (nameOf path)) = .ok (false, path) := by
    rw [nameOf, readHeader_headerLine (by simpa using hpath) (isBare_of_mem_map h), List.map_map]
    simp
  have hstrip : stripChars (headerLine (nameOf path)) = headerLine (nameOf path) :=
    (Text.stripped_of_ends (by decide) (by decide) _).stripChars_eq
  rw [State.step, hlong]
  simp only [hstrip]
  split
  next heq => cases heq
  next heq => simp [headerLine] at heq
  next =>
    rw [hread]
    simp only [bind, Except.bind]
    cases enter false s.passed path s.root <;> rfl
  next heq => cases heq
  next hheader _ => exact absurd rfl (hheader _)

/-! ### Whole texts -/

/-- Reading lines one after the other, none of which leaves a text open. -/
inductive Run : State → List (List Char) → State → Prop where
  | nil {s : State} (hlong : s.long = none) : Run s [] s
  | cons {s t u : State} {l : List Char} {ls : List (List Char)} (hlong : s.long = none) (hstep : s.step l = .ok t)
    (hrest : Run t ls u) : Run s (l :: ls) u

theorem Run.append {s t u : State} {ls ks : List (List Char)} (hls : Run s ls t) (hks : Run t ks u) :
    Run s (ls ++ ks) u := by
  induction hls with
  | nil _ => exact hks
  | cons hlong hstep _ ih => exact .cons hlong hstep (ih hks)

theorem Run.long_start {s t : State} {ls : List (List Char)} (h : Run s ls t) : s.long = none := by
  cases h with
  | nil hlong => exact hlong
  | cons hlong _ _ => exact hlong

theorem Run.long_end {s t : State} {ls : List (List Char)} (h : Run s ls t) : t.long = none := by
  induction h with
  | nil hlong => exact hlong
  | cons _ _ _ ih => exact ih

theorem Run.foldlM {ks : List (List Char)} {s t : State} (h : Run s (ks.filter (!·.isEmpty)) t) :
    ks.foldlM State.step s = .ok t := by
  induction ks generalizing s with
  | nil =>
    cases h
    rfl
  | cons k ks ih =>
    rw [List.foldlM_cons]
    cases k with
    | nil =>
      have hrest : Run s (ks.filter (!·.isEmpty)) t := h
      have hblank : s.step [] = .ok s := by
        rw [State.step, hrest.long_start]
        rfl
      rw [hblank]
      exact ih hrest
    | cons c cs =>
      rw [List.filter_cons_of_pos (by rfl)] at h
      cases h with
      | cons _ hstep hrest =>
        rw [hstep]
        exact ih hrest

/-- The text is made of the given lines and of blank ones between them. -/
def HasLines (text : List Char) (ls : List (List Char)) : Prop :=
  ∃ ks : List (List Char), text = ks.flatMap (· ++ ['\n']) ∧ ks.filter (!·.isEmpty) = ls

/-- Lines that the layout leaves alone are read one after the other. -/
theorem read_of_run {text : String} {ls : List (List Char)} (htext : HasLines text.toList ls)
    (hlines : ∀ l ∈ ls, Layout.LinePasses l ∧ '\n' ∉ l) {t : State} (hrun : Run {} ls t) {es : Entries}
    (hroot : t.root = .table es) : read text = .ok es := by
  obtain ⟨ks, htext, rfl⟩ := htext
  have hks : ∀ k ∈ ks, Layout.LinePasses k ∧ '\n' ∉ k := by
    intro k hk
    cases k with
    | nil => exact ⟨Layout.linePasses_nil, List.not_mem_nil⟩
    | cons c cs => exact hlines _ (List.mem_filter.mpr ⟨hk, rfl⟩)
  have hsteps : (ks ++ [[]]).foldlM State.step {} = .ok t := by
    apply Run.foldlM
    rw [List.filter_append]
    simpa using hrun
  rw [read, htext, layOut_lines fun k hk => (hks k hk).1]
  simp only [bind, Except.bind, Text.splitAtEach_flatMap fun k hk => (hks k hk).2, hsteps, hroot]
  rfl

end ChangeGraph.Toml
