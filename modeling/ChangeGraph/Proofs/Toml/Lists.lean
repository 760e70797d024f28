import ChangeGraph.Proofs.Toml.PlainValues

/-!
# Lists that are read as they were written

The elements of a list are written with a blank before and a comma after each. They are found again where no text among
them has a comma, a bracket or an escape in it; lists may stand within lists.
-/

namespace ChangeGraph.Toml

open ChangeGraph.Text (cutAll cutAt? splitAtEach stripChars)

def isListMark (c : Char) : Bool := [',', '[', ']'].contains c

def elementsText (css : List (List Char)) : List Char := (css.map (' ' :: ·)).flatMap (· ++ [','])

theorem elementsText_cons (cs : List Char) (css : List (List Char)) :
    elementsText (cs :: css) = ' ' :: cs ++ ',' :: elementsText css := by
  simp [elementsText]

/-- The value `v` is written as `cs` also within a list. -/
structure ElementAs (v : Value) (cs : List Char) : Prop extends WrittenAs v cs where
  outer : ∀ depth current rest, 0 ≤ depth →
    outerPieces depth current (cs ++ rest) = outerPieces depth (cs.reverse ++ current) rest
  free : familyOf v ≠ .list → ∀ c ∈ cs, isListMark c = false
  nested : familyOf v = .list → cs.head? = some '['
  closed : familyOf v = .text → ∃ body, cs = inQuotes body ∧ '"' ∉ body ∧ '\\' ∉ body
  start : familyOf v ≠ .text → ∀ c, cs.head? = some c → c ≠ '\x7b' ∧ c ≠ '"' ∧ c ≠ '\''

/-! ### Pieces -/

theorem outerPieces_free {cs : List Char} (h : ∀ c ∈ cs, isListMark c = false) (depth : Int) (current rest : List Char) :
    outerPieces depth current (cs ++ rest) = outerPieces depth (cs.reverse ++ current) rest := by
  induction cs generalizing current with
  | nil => rfl
  | cons c cs ih =>
    have hc := h c List.mem_cons_self
    simp only [isListMark, List.contains_eq_mem, List.mem_cons, List.not_mem_nil, or_false,
      decide_eq_false_iff_not, not_or] at hc
    obtain ⟨h1, h2, h3⟩ := hc
    rw [List.cons_append, List.reverse_cons, List.append_assoc, List.singleton_append,
      ← ih (fun d hd => h d (List.mem_cons_of_mem c hd))]
    simp [outerPieces, h1, h2, h3]

theorem outerPieces_blank (depth : Int) (current rest : List Char) :
    outerPieces depth current (' ' :: rest) = outerPieces depth (' ' :: current) rest := rfl

/-- Within brackets a comma does not cut. -/
theorem outerPieces_inside {vs : List Value} {css : List (List Char)} (h : List.Forall₂ ElementAs vs css) {depth : Int}
    (hdepth : 0 < depth) (current rest : List Char) :
    outerPieces depth current (elementsText css ++ rest) =
      outerPieces depth ((elementsText css).reverse ++ current) rest := by
  induction h generalizing current with
  | nil => rfl
  | @cons v cs vs css hv _ ih =>
    have hcomma (current rest : List Char) :
        outerPieces depth current (',' :: rest) = outerPieces depth (',' :: current) rest := by
      have hne : (depth == 0) = false := beq_eq_false_iff_ne.mpr (by omega)
      simp [outerPieces, hne]
    rw [elementsText_cons, List.cons_append, List.cons_append, List.append_assoc, outerPieces_blank,
      hv.outer depth _ _ (by omega), List.cons_append, hcomma, ih]
    simp

theorem outerPieces_elements {vs : List Value} {css : List (List Char)} (h : List.Forall₂ ElementAs vs css) :
    outerPieces 0 [] (elementsText css) = css.map (' ' :: ·) ++ [[]] := by
  induction h with
  | nil => rfl
  | @cons v cs vs css hv _ ih =>
    have hcomma (current rest : List Char) :
        outerPieces 0 current (',' :: rest) = current.reverse :: outerPieces 0 [] rest := rfl
    rw [elementsText_cons, List.cons_append, outerPieces_blank, hv.outer 0 _ _ (by omega), hcomma, ih]
    simp

theorem isClosed_inQuotes {body : List Char} (hquote : '"' ∉ body) (hslash : '\\' ∉ body) :
    isClosed (' ' :: inQuotes body) = true := by
  have hstrip : stripChars (' ' :: inQuotes body) = '"' :: (body ++ ['"']) :=
    (Text.stripped_of_ends (by decide) (by decide) _).stripChars_cons
  have hlast : ('"' :: (body ++ ['"'])).getLast? = some '"' := by
    rw [← List.cons_append, List.getLast?_concat]
  have hends : endsEscaping body = false := by
    have hnone : body.reverse.takeWhile (· == '\\') = [] := by
      rw [List.takeWhile_eq_nil_iff]
      intro hpos
      rw [beq_iff_eq]
      exact fun heq => hslash (List.mem_reverse.mp (heq ▸ List.getElem_mem hpos))
    rw [endsEscaping, hnone]
    rfl
  have htriple : ((body ++ ['"'])[0]? == some '"' && (body ++ ['"'])[1]? == some '"') = false := by
    cases body with
    | nil => rfl
    | cons c cs =>
      have hc : c ≠ '"' := by
        rintro rfl
        exact hquote List.mem_cons_self
      simp [hc]
  rw [isClosed, hstrip]
  simp only [hlast, List.dropLast_concat, hends, htriple, beq_self_eq_true, Bool.not_false, Bool.false_and, Bool.and_self]

/-- A piece that is a whole text in quotes stays as it is. -/
theorem mendTexts_closed {bodies : List (List Char)} (h : ∀ body ∈ bodies, '"' ∉ body ∧ '\\' ∉ body) :
    mendTexts none (bodies.map (' ' :: inQuotes ·) ++ [[]]) = .ok (bodies.map (' ' :: inQuotes ·) ++ [[]]) := by
  induction bodies with
  | nil => rfl
  | cons body bodies ih =>
    have hrest := ih fun b hb => h b (List.mem_cons_of_mem body hb)
    obtain ⟨hquote, hslash⟩ := h body List.mem_cons_self
    have hmore : (bodies.map (' ' :: inQuotes ·) ++ [[]]).isEmpty = false := by simp
    rw [List.map_cons, List.cons_append, mendTexts]
    simp only [Option.map_none, Option.getD_none, List.nil_append, isClosed_inQuotes hquote hslash, hmore, hrest,
      Bool.and_false, Bool.false_eq_true, if_false, if_true, bind, Except.bind]
    rfl

/-- Elements that are all of one family. -/
def alike (vs : List Value) : Bool := vs.all fun v => vs.all fun w => familyOf v == familyOf w

theorem familyOf_eq_of_alike {vs : List Value} (h : alike vs = true) {v w : Value} (hv : v ∈ vs) (hw : w ∈ vs) :
    familyOf v = familyOf w := by
  have hall := List.all_eq_true.mp (List.all_eq_true.mp h v hv) w hw
  exact beq_iff_eq.mp hall

theorem stripped_elements {cs : List Char} (hne : cs ≠ []) (h : Text.Stripped cs) (css : List (List Char)) :
    Text.Stripped (cs ++ ',' :: elementsText css) where
  head c hc := by
    rw [List.head?_append_of_ne_nil _ hne] at hc
    exact h.head c hc
  last c hc := by
    have hcomma : ∀ css : List (List Char), (',' :: elementsText css).getLast? = some ',' := by
      intro css
      induction css with
      | nil => rfl
      | cons cs css ih =>
        have hsplit : ',' :: elementsText (cs :: css) = (',' :: ' ' :: cs) ++ (',' :: elementsText css) := by
          rw [elementsText_cons]
          rfl
        rw [hsplit, List.getLast?_append_of_ne_nil _ (List.cons_ne_nil _ _), ih]
    rw [List.getLast?_append_of_ne_nil _ (List.cons_ne_nil _ _), hcomma] at hc
    cases hc
    decide

theorem exists_element_of_mem {vs : List Value} {css : List (List Char)} (h : List.Forall₂ ElementAs vs css)
    {cs : List Char} (hcs : cs ∈ css) : ∃ v ∈ vs, ElementAs v cs := by
  induction h with
  | nil => cases hcs
  | @cons v _ _ _ hv _ ih =>
    rcases List.mem_cons.mp hcs with rfl | hcs
    · exact ⟨v, List.mem_cons_self, hv⟩
    · obtain ⟨w, hw, helement⟩ := ih hcs
      exact ⟨w, List.mem_cons_of_mem v hw, helement⟩

theorem notMem_elementsText {css : List (List Char)} {c : Char} (hcomma : c ≠ ',') (hblank : c ≠ ' ')
    (h : ∀ cs ∈ css, c ∉ cs) : c ∉ elementsText css := by
  induction css with
  | nil => exact List.not_mem_nil
  | cons cs css ih =>
    have hcs := h cs List.mem_cons_self
    have hcss := ih fun ds hds => h ds (List.mem_cons_of_mem cs hds)
    simp [elementsText_cons, hblank, hcs, hcomma, hcss]

theorem exists_bodies {vs : List Value} {css : List (List Char)} (h : List.Forall₂ ElementAs vs css)
    (htext : ∀ v ∈ vs, familyOf v = .text) : ∃ bodies : List (List Char), css = bodies.map inQuotes ∧
      ∀ body ∈ bodies, '"' ∉ body ∧ '\\' ∉ body := by
  induction h with
  | nil => exact ⟨[], rfl, fun _ h => absurd h List.not_mem_nil⟩
  | @cons v _ _ _ hv _ ih =>
    obtain ⟨body, rfl, hbody⟩ := hv.closed (htext v List.mem_cons_self)
    obtain ⟨bodies, rfl, hbodies⟩ := ih fun w hw => htext w (List.mem_cons_of_mem v hw)
    refine ⟨body :: bodies, rfl, fun b hb => ?_⟩
    rcases List.mem_cons.mp hb with rfl | hb
    · exact hbody
    · exact hbodies b hb

theorem length_le_elementsText {css : List (List Char)} {cs : List Char} (h : cs ∈ css) :
    cs.length ≤ (elementsText css).length := by
  induction css with
  | nil => exact absurd h List.not_mem_nil
  | cons ds css ih =>
    have hlength : (elementsText (ds :: css)).length = ds.length + (elementsText css).length + 2 := by
      simp [elementsText_cons]
      omega
    rcases List.mem_cons.mp h with rfl | h
    · omega
    · have := ih h
      omega

theorem inner_brackets (cs : List Char) : inner 1 ('[' :: cs ++ [']']) = cs := by
  simp [inner]

theorem listPieces_nested {v : Value} {vs : List Value} {cs : List Char} {css : List (List Char)}
    (h : List.Forall₂ ElementAs (v :: vs) (cs :: css)) (hlist : familyOf v = .list) :
    listPieces ('[' :: elementsText (cs :: css) ++ [']']) = .ok ((cs :: css).map (' ' :: ·) ++ [[]]) := by
  obtain ⟨rest, hrest⟩ := List.head?_eq_some_iff.mp ((List.forall₂_cons.mp h).1.nested hlist)
  have hsplit : elementsText (cs :: css) = [' '] ++ '[' :: (rest ++ ',' :: elementsText css) := by
    rw [elementsText_cons, hrest]
    rfl
  have hcut : cutAt? ['['] (elementsText (cs :: css)) = some ([' '], rest ++ ',' :: elementsText css) := by
    rw [hsplit]
    exact Text.cutAt?_singleton_append (by decide) _
  rw [listPieces, inner_brackets]
  simp only [hcut]
  exact congrArg Except.ok (outerPieces_elements h)

theorem cutAll_elements {css : List (List Char)} (h : ∀ cs ∈ css, ∀ c ∈ cs, isListMark c = false) :
    cutAll [','] (elementsText css) = css.map (' ' :: ·) ++ [[]] := by
  rw [Text.cutAll_singleton, elementsText]
  refine Text.splitAtEach_flatMap fun p hp hmem => ?_
  obtain ⟨cs, hcs, rfl⟩ := List.mem_map.mp hp
  rcases List.mem_cons.mp hmem with heq | hmem
  · cases heq
  · cases h cs hcs _ hmem

/-- Texts are looked at once more, for commas within them. -/
theorem flatPieces_elements {v : Value} {vs : List Value} {cs : List Char} {css : List (List Char)}
    (h : List.Forall₂ ElementAs (v :: vs) (cs :: css)) (hfamily : ∀ w ∈ v :: vs, familyOf w = familyOf v)
    (hpieces : cutAll [','] (elementsText (cs :: css)) = (cs :: css).map (' ' :: ·) ++ [[]]) :
    listPieces.flat (elementsText (cs :: css)) = .ok ((cs :: css).map (' ' :: ·) ++ [[]]) := by
  have hv := (List.forall₂_cons.mp h).1
  have hfirst : (stripChars (elementsText (cs :: css))).head? = cs.head? := by
    rw [elementsText_cons, List.cons_append, (stripped_elements hv.ne_nil hv.stripped css).stripChars_cons,
      List.head?_append_of_ne_nil _ hv.ne_nil]
  rw [listPieces.flat, hfirst, hpieces]
  by_cases htext : familyOf v = .text
  · obtain ⟨bodies, hbodies, hclosed⟩ := exists_bodies h fun w hw => (hfamily w hw).trans htext
    obtain ⟨body, hbody, -, -⟩ := hv.closed htext
    have hmend := mendTexts_closed hclosed
    have hmap : bodies.map (' ' :: inQuotes ·) = (cs :: css).map (' ' :: ·) := by
      rw [hbodies, List.map_map]
      rfl
    have hhead : cs.head? = some '"' := by rw [hbody]; rfl
    rw [hmap] at hmend
    rw [hhead]
    exact hmend
  · obtain ⟨c, rest, hcs⟩ := List.exists_cons_of_ne_nil hv.ne_nil
    have hhead : cs.head? = some c := by rw [hcs, List.head?_cons]
    obtain ⟨h1, h2, h3⟩ := hv.start htext c hhead
    simp [hhead, h1, h2, h3]

/-- The pieces of a list are its elements and the empty piece after the last comma. -/
theorem listPieces_elements {vs : List Value} {css : List (List Char)} (h : List.Forall₂ ElementAs vs css)
    (halike : alike vs = true) :
    listPieces ('[' :: elementsText css ++ [']']) = .ok (css.map (' ' :: ·) ++ [[]]) := by
  have helements := h
  cases h with
  | nil => rfl
  | @cons v cs vs css hv hvs =>
    have hfamily : ∀ w ∈ v :: vs, familyOf w = familyOf v :=
      fun w hw => familyOf_eq_of_alike halike hw List.mem_cons_self
    by_cases hlist : familyOf v = .list
    · exact listPieces_nested helements hlist
    · have hfree : ∀ ds ∈ cs :: css, ∀ c ∈ ds, isListMark c = false := by
        intro ds hds
        obtain ⟨w, hw, helement⟩ := exists_element_of_mem helements hds
        exact helement.free (hfamily w hw ▸ hlist)
      have hopen : '[' ∉ elementsText (cs :: css) := by
        refine notMem_elementsText (by decide) (by decide) fun ds hds hmem => ?_
        cases hfree ds hds _ hmem
      rw [listPieces, inner_brackets]
      simp only [Text.cutAt?_singleton_of_notMem hopen]
      exact flatPieces_elements helements hfamily (cutAll_elements hfree)

/-! ### Lists -/

theorem mapM_readValue {vs : List Value} {css : List (List Char)} (h : List.Forall₂ ElementAs vs css) {fuel : Nat}
    (hfuel : ∀ cs ∈ css, cs.length ≤ fuel) :
    css.mapM (readValue fuel) = .ok (vs.map fun v => (v, familyOf v)) := by
  induction h with
  | nil => rfl
  | @cons v cs vs css hv _ ih =>
    rw [List.mapM_cons, hv.read fuel (hfuel cs List.mem_cons_self), ih fun ds hds => hfuel ds (List.mem_cons_of_mem cs hds)]
    rfl

theorem readList_elements {vs : List Value} {css : List (List Char)} (h : List.Forall₂ ElementAs vs css)
    (halike : alike vs = true) {fuel : Nat} (hfuel : (elementsText css).length ≤ fuel) :
    readList (fuel + 1) ('[' :: elementsText css ++ [']']) = .ok vs := by
  have hstrip : (css.map (' ' :: ·) ++ [[]]).map stripChars = css ++ [[]] := by
    rw [List.map_append, List.map_map]
    congr 1
    rw [List.map_congr_left, List.map_id]
    intro cs hcs
    obtain ⟨v, -, helement⟩ := exists_element_of_mem h hcs
    exact helement.stripped.stripChars_cons
  have hfilter : (css ++ [[]]).filter (!·.isEmpty) = css := by
    rw [List.filter_append, List.filter_eq_self.mpr]
    · simp
    · intro cs hcs
      obtain ⟨v, -, helement⟩ := exists_element_of_mem h hcs
      simpa using helement.ne_nil
  have hread := mapM_readValue h fun cs hcs => (length_le_elementsText hcs).trans hfuel
  rw [readList, listPieces_elements h halike]
  simp only [bind, Except.bind, hstrip, hfilter, hread]
  cases vs with
  | nil => rfl
  | cons v vs =>
    have hall : ((v :: vs).map fun v => (v, familyOf v)).all (fun x => x.2 == familyOf v) = true := by
      rw [List.all_map, List.all_eq_true]
      exact fun w hw => beq_iff_eq.mpr (familyOf_eq_of_alike halike hw List.mem_cons_self)
    have hvalues : ((v :: vs).map fun v => (v, familyOf v)).map (·.1) = v :: vs := by
      rw [List.map_map]
      exact List.map_id _
    rw [List.map_cons] at hall hvalues ⊢
    simp only [hall, hvalues, if_true]
    rfl

theorem run_elements {vs : List Value} {css : List (List Char)} (h : List.Forall₂ ElementAs vs css)
    (done : List Char) (lists : Int) (rest : List Char) :
    Layout.run (Layout.inValue done lists) (elementsText css ++ rest) =
      Layout.run (Layout.inValue ((elementsText css).reverse ++ done) lists) rest := by
  induction h generalizing done with
  | nil => rfl
  | @cons v cs vs css hv _ ih =>
    have hblank (rest : List Char) : Layout.run (Layout.inValue done lists) (' ' :: rest) =
        Layout.run (Layout.inValue (' ' :: done) lists) rest := Layout.run_of_step (Layout.step_inValue rfl _ _ _)
    have hcomma (done rest : List Char) : Layout.run (Layout.inValue done lists) (',' :: rest) =
        Layout.run (Layout.inValue (',' :: done) lists) rest := Layout.run_of_step (Layout.step_inValue rfl _ _ _)
    rw [elementsText_cons, List.cons_append, List.cons_append, List.append_assoc, hblank, hv.passes, List.cons_append,
      hcomma, ih]
    simp

theorem passes_list {vs : List Value} {css : List (List Char)} (h : List.Forall₂ ElementAs vs css) :
    Layout.Passes ('[' :: elementsText css ++ [']']) := by
  intro done lists rest
  have hopen (rest : List Char) : Layout.run (Layout.inValue (' ' :: done) lists) ('[' :: rest) =
      Layout.run (Layout.inValue ('[' :: ' ' :: done) (lists + 1)) rest := Layout.run_of_step rfl
  have hclose (done : List Char) : Layout.run (Layout.inValue done (lists + 1)) (']' :: rest) =
      Layout.run (Layout.inValue (']' :: done) lists) rest := by
    apply Layout.run_of_step
    have hlists : lists + 1 - 1 = lists := by omega
    simp [Layout.step, Layout.inValue, Layout.stepValue, Layout.stepQuotes, Layout.stepBrackets, Layout.stepLineStart,
      Layout.put, hlists]
  rw [List.cons_append, List.cons_append, List.append_assoc, hopen, run_elements h, List.singleton_append, hclose]
  simp

theorem writeElements_eq {vs : List Value} {css : List (List Char)} (h : List.Forall₂ ElementAs vs css) :
    writeElements vs = .ok (elementsText css) := by
  induction h with
  | nil => rfl
  | @cons v cs vs css hv _ ih =>
    rw [writeElements, hv.written, ih, elementsText_cons]
    rfl

theorem notMem_takeWhile_append {p : Char → Bool} {c : Char} {as bs : List Char} (has : c ∉ as.takeWhile p)
    (hbs : c ∉ bs.takeWhile p) : c ∉ (as ++ bs).takeWhile p := by
  rw [List.takeWhile_append]
  split
  next hall =>
    rw [(List.takeWhile_prefix p).eq_of_length hall] at has
    simp [has, hbs]
  next => exact has

theorem unquoted_list {vs : List Value} {css : List (List Char)} (h : List.Forall₂ ElementAs vs css) :
    '\'' ∉ ('[' :: elementsText css ++ [']']).takeWhile (· != '"') := by
  have helements : '\'' ∉ (elementsText css ++ [']']).takeWhile (· != '"') := by
    induction h with
    | nil => decide
    | @cons v cs vs css hv _ ih =>
      have hsplit : elementsText (cs :: css) ++ [']'] = [' '] ++ (cs ++ ([','] ++ (elementsText css ++ [']']))) := by
        simp [elementsText_cons]
      rw [hsplit]
      refine notMem_takeWhile_append (by decide) (notMem_takeWhile_append hv.unquoted ?_)
      exact notMem_takeWhile_append (by decide) ih
  rw [List.cons_append, List.takeWhile_cons_of_pos (by decide)]
  simp [helements]

theorem any_isTable {vs : List Value} {css : List (List Char)} (h : List.Forall₂ ElementAs vs css) :
    vs.any isTable = false := by
  induction h with
  | nil => rfl
  | cons hv _ ih => rw [List.any_cons, hv.notTable, ih, Bool.or_self]

theorem writtenAs_list {vs : List Value} {css : List (List Char)} (h : List.Forall₂ ElementAs vs css)
    (halike : alike vs = true) : WrittenAs (.list vs) ('[' :: elementsText css ++ [']']) where
  written := by
    rw [writeValue, writeElements_eq h]
    rfl
  notTable := rfl
  notTables := by
    rw [isListOfTables, listElements, any_isTable h]
  passes := passes_list h
  oneLine := by
    have hnone : '\n' ∉ elementsText css := notMem_elementsText (by decide) (by decide) fun cs hcs => by
      obtain ⟨v, -, helement⟩ := exists_element_of_mem h hcs
      exact helement.oneLine
    simp [hnone]
  noReturn := by
    have hnone : '\r' ∉ elementsText css := notMem_elementsText (by decide) (by decide) fun cs hcs => by
      obtain ⟨v, -, helement⟩ := exists_element_of_mem h hcs
      exact helement.noReturn
    simp [hnone]
  ne_nil := List.cons_ne_nil _ _
  stripped := Text.stripped_of_ends (by decide) (by decide) _
  unquoted := unquoted_list h
  short := by
    have hlast : ('[' :: elementsText css ++ [']']).getLast? = some ']' := List.getLast?_concat
    have hlong : isOpenLong ('[' :: elementsText css ++ [']']) = .ok false := isOpenLong_cons (by decide) (by decide) _
    simp only [opensLong, hlast, bne_self_eq_false, Bool.and_false, Bool.false_and, Bool.false_eq_true, if_false, hlong]
    split <;> rfl
  strict hnumber := by cases hnumber
  read fuel hfuel := by
    have hlength : ('[' :: elementsText css ++ [']']).length = (elementsText css).length + 2 := by simp
    obtain ⟨fuel, rfl⟩ : ∃ n, fuel = n + 2 := ⟨fuel - 2, by omega⟩
    have hread : readList (fuel + 1) ('[' :: elementsText css ++ [']']) = .ok vs :=
      readList_elements h halike (by omega)
    obtain ⟨h1, h2, h3, h4⟩ := not_word (c := '[') (by decide) (by decide) (elementsText css ++ [']'])
    rw [List.cons_append] at hread ⊢
    rw [readValue]
    simp only [h1, h2, h3, h4, hread]
    rfl

/-! ### Elements -/

theorem isListMark_of_isPlainChar {c : Char} (h : isPlainChar c = true) : isListMark c = false := by
  simp only [isListMark, List.contains_eq_mem, List.mem_cons, List.not_mem_nil, or_false, decide_eq_false_iff_not,
    not_or]
  refine ⟨?_, ?_, ?_⟩ <;> exact ne_of_isPlainChar h (by decide)

/-- A value without commas and brackets that is no text. -/
theorem WrittenAs.element {v : Value} {cs : List Char} (h : WrittenAs v cs) (hplain : ∀ c ∈ cs, isPlainChar c = true)
    (hlist : familyOf v ≠ .list) (htext : familyOf v ≠ .text) : ElementAs v cs where
  toWrittenAs := h
  outer depth current rest _ := outerPieces_free (fun c hc => isListMark_of_isPlainChar (hplain c hc)) depth current rest
  free _ c hc := isListMark_of_isPlainChar (hplain c hc)
  nested heq := absurd heq hlist
  closed heq := absurd heq htext
  start _ c hc := by
    have hmem : c ∈ cs := List.mem_of_head? hc
    refine ⟨?_, ?_, ?_⟩ <;> exact ne_of_isPlainChar (hplain c hmem) (by decide)

def isWordChar (c : Char) : Bool := Text.isPrintable c && !(['"', '\\', ',', '[', ']'].contains c)

def isWord (s : String) : Bool := s.toList.all isWordChar

theorem isWordChar_iff {c : Char} : isWordChar c = true ↔
    Text.isPrintable c = true ∧ c ≠ '"' ∧ c ≠ '\\' ∧ isListMark c = false := by
  simp [isWordChar, isListMark]

theorem keptText_of_isWord {s : String} (h : isWord s = true) : KeptText s where
  shown := by
    rw [isWord, List.all_eq_true] at h
    rw [List.all_eq_true]
    intro c hc
    simp [isShown, (isWordChar_iff.mp (h c hc)).1]
  noCode hin := by
    rw [isWord, List.all_eq_true] at h
    have hmem : '\\' ∈ s.toList := hin.subset List.mem_cons_self
    exact (isWordChar_iff.mp (h _ hmem)).2.2.1 rfl
  noTriple heq := by
    rw [isWord, List.all_eq_true] at h
    cases hs : s.toList with
    | nil =>
      rw [hs] at heq
      cases heq
    | cons c rest =>
      rw [hs] at heq h
      have hc : c = '"' := (List.cons.inj heq).1
      exact (isWordChar_iff.mp (h c List.mem_cons_self)).2.1 hc

theorem quotedChar_of_isWordChar {c : Char} (h : isWordChar c = true) : quotedChar c = [c] := by
  obtain ⟨hprintable, hquote, hslash, -⟩ := isWordChar_iff.mp h
  have hline : c ≠ '\n' := by
    rintro rfl
    exact absurd hprintable (by decide +kernel)
  have hreturn : c ≠ '\r' := by
    rintro rfl
    exact absurd hprintable (by decide +kernel)
  have htab : c ≠ '\t' := by
    rintro rfl
    exact absurd hprintable (by decide +kernel)
  simp [quotedChar, Text.escaped, hquote, hslash, hline, hreturn, htab, hprintable]

theorem elementAs_word {s : String} (h : isWord s = true) : ElementAs (.text s) (inQuotes s.toList) := by
  have hchars : ∀ c ∈ s.toList, isWordChar c = true := List.all_eq_true.mp h
  have hbody : quotedBody s.toList = s.toList := by
    rw [quotedBody, List.flatMap_congr fun c hc => quotedChar_of_isWordChar (hchars c hc)]
    exact List.flatMap_singleton' _
  have hfree : ∀ c ∈ inQuotes s.toList, isListMark c = false := by
    intro c hc
    rw [inQuotes, List.mem_cons, List.mem_append, List.mem_singleton] at hc
    rcases hc with rfl | hc | rfl
    · rfl
    · exact (isWordChar_iff.mp (hchars c hc)).2.2.2
    · rfl
  have hquote : '"' ∉ s.toList := fun hmem => (isWordChar_iff.mp (hchars _ hmem)).2.1 rfl
  have hwritten := writtenAs_text (keptText_of_isWord h)
  rw [hbody] at hwritten
  exact {
    toWrittenAs := hwritten
    outer := fun depth current rest _ => outerPieces_free hfree depth current rest
    free := fun _ => hfree
    nested := fun heq => by cases heq
    closed := fun _ => ⟨s.toList, rfl, hquote, fun hmem => (isWordChar_iff.mp (hchars _ hmem)).2.2.1 rfl⟩
    start := fun hne => absurd rfl hne }

theorem ElementAs.list {vs : List Value} {css : List (List Char)} (h : List.Forall₂ ElementAs vs css)
    (halike : alike vs = true) : ElementAs (.list vs) ('[' :: elementsText css ++ [']']) where
  toWrittenAs := writtenAs_list h halike
  outer depth current rest hdepth := by
    have hopen (rest : List Char) : outerPieces depth current ('[' :: rest) =
        outerPieces (depth + 1) ('[' :: current) rest := rfl
    have hclose (current rest : List Char) : outerPieces (depth + 1) current (']' :: rest) =
        outerPieces depth (']' :: current) rest := by
      have hdepth : depth + 1 - 1 = depth := by omega
      simp [outerPieces, hdepth]
    rw [List.cons_append, List.cons_append, List.append_assoc, hopen, outerPieces_inside h (by omega),
      List.singleton_append, hclose]
    simp
  free hne := absurd rfl hne
  nested _ := rfl
  closed heq := by cases heq
  start _ c hc := by
    cases hc
    decide

mutual

/-- Values that are kept within a list. -/
def keepsElement : Value → Bool
  | .bool _ => true
  | .int n => (toString n.natAbs).length ≤ Text.digitLimit
  | .float x => readsBack (.float x)
  | .moment m => readsBack (.moment m)
  | .text s => isWord s
  | .list vs => alike vs && keepsElements vs
  | _ => false

def keepsElements : List Value → Bool
  | [] => true
  | v :: vs => keepsElement v && keepsElements vs

end

mutual

theorem exists_elementAs : ∀ {v : Value}, keepsElement v = true → ∃ cs, ElementAs v cs
  | .bool b, _ => by
    refine ⟨_, (writtenAs_bool b).element ?_ (by simp [familyOf]) (by simp [familyOf])⟩
    apply List.all_eq_true.mp
    cases b <;> rfl
  | .int n, h => by
    have hshort : (toString n.natAbs).length ≤ Text.digitLimit := of_decide_eq_true h
    refine ⟨_, (writtenAs_int hshort).element ?_ (by simp [familyOf]) (by simp [familyOf])⟩
    exact fun c hc => isPlainChar_of_isBareChar (isBareChar_of_mem_toString hc)
  | .float x, h => by
    obtain ⟨cs, hcs, hplain⟩ := exists_writtenAs_of_readsBack (v := .float x) h
    exact ⟨cs, hcs.element hplain (by simp [familyOf]) (by simp [familyOf])⟩
  | .moment m, h => by
    obtain ⟨cs, hcs, hplain⟩ := exists_writtenAs_of_readsBack (v := .moment m) h
    exact ⟨cs, hcs.element hplain (by cases m <;> simp [familyOf]) (by cases m <;> simp [familyOf])⟩
  | .text _, h => ⟨_, elementAs_word h⟩
  | .list vs, h => by
    rw [keepsElement, Bool.and_eq_true] at h
    obtain ⟨css, hcss⟩ := exists_forall₂_elementAs h.2
    exact ⟨_, ElementAs.list hcss h.1⟩

theorem exists_forall₂_elementAs : ∀ {vs : List Value}, keepsElements vs = true → ∃ css, List.Forall₂ ElementAs vs css
  | [], _ => ⟨[], .nil⟩
  | v :: vs, h => by
    rw [keepsElements, Bool.and_eq_true] at h
    obtain ⟨cs, hcs⟩ := exists_elementAs h.1
    obtain ⟨css, hcss⟩ := exists_forall₂_elementAs h.2
    exact ⟨cs :: css, .cons hcs hcss⟩

end

end ChangeGraph.Toml
