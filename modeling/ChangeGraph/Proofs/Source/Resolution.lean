import Mathlib.Data.Prod.Lex
import ChangeGraph.Proofs.Source.Earliest

/-!
# What a call means

A call means the symbol that comes first, by file and line, among those that its name matches in the caller's own file,
and among all that it matches if there are none. The index that is asked has a bucket for each name that matches
something, and in it all symbols that the name matches.
-/

namespace ChangeGraph

/-! ### Names and symbols -/

/-- A name matches a symbol that has it, or a member of a named class in whose name it stands behind the last dot. -/
def Symbol.Matches (s : Symbol) (name : String) : Prop :=
  s.name = name ∨
    (∃ cls, s.className = some cls ∧ cls ≠ "") ∧ ∃ front, s.name = front ++ "." ++ name ∧ '.' ∉ name.toList

theorem isSome_presentName_iff {name : Option String} :
    (presentName name).isSome = true ↔ ∃ n, name = some n ∧ n ≠ "" := by
  cases name <;> simp [presentName, Option.filter]

/-- What stands behind the last dot of a list. -/
theorem behind_last_dot_iff {cs bare : List Char} :
    '.' ∈ cs ∧ (cs.reverse.takeWhile (· != '.')).reverse = bare ↔ ∃ front, cs = front ++ '.' :: bare ∧ '.' ∉ bare := by
  constructor
  · rintro ⟨hmem, rfl⟩
    have hsplit := List.takeWhile_append_dropWhile (p := (· != '.')) (l := cs.reverse)
    cases hdrop : cs.reverse.dropWhile (· != '.') with
    | nil =>
      have hall := List.dropWhile_eq_nil_iff.mp hdrop '.' (List.mem_reverse.mpr hmem)
      simp at hall
    | cons c rest =>
      have hc : c = '.' := by
        have hhead := List.head?_dropWhile_not (· != '.') cs.reverse
        rw [hdrop] at hhead
        simpa using hhead
      refine ⟨rest.reverse, ?_, ?_⟩
      · rw [hdrop, hc] at hsplit
        have hcs := congrArg List.reverse hsplit
        simpa using hcs.symm
      · rw [List.mem_reverse]
        intro hdot
        have := List.mem_takeWhile_imp hdot
        simp at this
  · rintro ⟨front, rfl, hbare⟩
    have hno : ∀ c ∈ bare.reverse, (c != '.') = true := by
      intro c hc
      rw [bne_iff_ne]
      rintro rfl
      exact hbare (List.mem_reverse.mp hc)
    refine ⟨by simp, ?_⟩
    rw [List.reverse_append, List.reverse_cons, List.append_assoc, List.takeWhile_append_of_pos hno]
    simp

theorem Symbol.bareName?_eq_some_iff {s : Symbol} {name : String} : s.bareName? = some name ↔
    (∃ cls, s.className = some cls ∧ cls ≠ "") ∧ ∃ front, s.name = front ++ "." ++ name ∧ '.' ∉ name.toList := by
  have hfront : (∃ front : String, s.name = front ++ "." ++ name ∧ '.' ∉ name.toList) ↔
      ∃ front, s.name.toList = front ++ '.' :: name.toList ∧ '.' ∉ name.toList := by
    constructor
    · rintro ⟨front, h, hdot⟩
      exact ⟨front.toList, by rw [h]; simp, hdot⟩
    · rintro ⟨front, h, hdot⟩
      refine ⟨String.ofList front, ?_, hdot⟩
      rw [← String.toList_inj, h]
      simp
  rw [hfront, ← behind_last_dot_iff, ← isSome_presentName_iff, Symbol.bareName?]
  split
  · next h =>
    rw [Bool.and_eq_true, List.contains_iff_mem] at h
    rw [Option.some.injEq, ← String.toList_inj, String.toList_ofList]
    simp only [h, true_and]
  · next h =>
    rw [Bool.and_eq_true, List.contains_iff_mem] at h
    constructor
    · intro hnone
      cases hnone
    · rintro ⟨hcls, hdot, -⟩
      exact absurd ⟨hcls, hdot⟩ h

theorem Symbol.answersTo_iff {s : Symbol} {name : String} : s.answersTo name = true ↔ s.Matches name := by
  rw [Symbol.answersTo, Bool.or_eq_true, beq_iff_eq, beq_iff_eq, Symbol.bareName?_eq_some_iff, Symbol.Matches]

instance (s : Symbol) (name : String) : Decidable (s.Matches name) := decidable_of_iff _ Symbol.answersTo_iff

/-! ### Buckets -/

namespace NameIndex

theorem names_file (name : String) (s : Symbol) (index : NameIndex) :
    (index.file name s).map Prod.fst =
      if name ∈ index.map Prod.fst then index.map Prod.fst else index.map Prod.fst ++ [name] := by
  induction index with
  | nil => simp [file]
  | cons entry rest ih =>
    obtain ⟨n, ss⟩ := entry
    rw [file]
    by_cases h : n = name
    · simp [h]
    · have hne : name ≠ n := fun he => h he.symm
      simp only [beq_iff_eq, h, if_false, List.map_cons, ih, List.mem_cons, hne, false_or]
      exact apply_ite (n :: ·) _ _ _

/-- Every name has one bucket, and there is something in it. -/
structure Kept (index : NameIndex) : Prop where
  nodup : (index.map Prod.fst).Nodup
  filled : ∀ entry ∈ index, entry.2 ≠ []

theorem Kept.file {index : NameIndex} (h : index.Kept) (name : String) (s : Symbol) : (index.file name s).Kept where
  nodup := by
    rw [names_file]
    split
    · exact h.nodup
    · next new =>
      refine List.nodup_append.mpr ⟨h.nodup, List.nodup_cons.mpr ⟨List.not_mem_nil, List.nodup_nil⟩, ?_⟩
      rintro a ha b hb rfl
      exact new (List.mem_singleton.mp hb ▸ ha)
  filled := by
    have hfilled := h.filled
    clear h
    induction index with
    | nil => simp [NameIndex.file]
    | cons entry rest ih =>
      obtain ⟨n, ss⟩ := entry
      rw [NameIndex.file]
      split
      · intro e he
        rcases List.mem_cons.mp he with rfl | he
        · exact List.append_ne_nil_of_right_ne_nil ss (List.cons_ne_nil s [])
        · exact hfilled e (List.mem_cons_of_mem _ he)
      · intro e he
        rcases List.mem_cons.mp he with rfl | he
        · exact hfilled _ List.mem_cons_self
        · exact ih (fun e he => hfilled e (List.mem_cons_of_mem _ he)) e he

theorem Kept.add {index : NameIndex} (h : index.Kept) (s : Symbol) : (index.add s).Kept := by
  rw [NameIndex.add]
  cases s.bareName? with
  | none => exact h.file s.name s
  | some bare => exact (h.file s.name s).file bare s

theorem kept_ofSymbols (ss : List Symbol) : (ofSymbols ss).Kept := by
  suffices h : ∀ index : NameIndex, index.Kept → (ss.foldl NameIndex.add index).Kept from
    h [] ⟨List.nodup_nil, fun entry he => absurd he List.not_mem_nil⟩
  induction ss with
  | nil => exact fun index h => h
  | cons s ss ih => exact fun index h => ih (index.add s) (h.add s)

theorem Kept.mem_iff {index : NameIndex} (h : index.Kept) {name : String} {bucket : List Symbol} :
    (name, bucket) ∈ index ↔ bucket = index.candidates name ∧ bucket ≠ [] := by
  obtain ⟨nodup, filled⟩ := h
  induction index with
  | nil =>
    simp only [List.not_mem_nil, candidates, List.lookup_nil, Option.getD_none, false_iff]
    rintro ⟨rfl, hne⟩
    exact hne rfl
  | cons entry rest ih =>
    obtain ⟨n, ss⟩ := entry
    rw [List.map_cons, List.nodup_cons] at nodup
    rw [List.mem_cons, ih nodup.2 fun e he => filled e (List.mem_cons_of_mem _ he)]
    by_cases hn : name = n
    · subst hn
      have hrest : candidates rest name = [] := by
        rw [candidates, List.lookup_eq_none_iff.mpr, Option.getD_none]
        intro e he
        rw [bne_iff_ne]
        rintro rfl
        exact nodup.1 (List.mem_map.mpr ⟨e, he, rfl⟩)
      have hhere : candidates ((name, ss) :: rest) name = ss := by simp [candidates]
      rw [hrest, hhere, Prod.mk.injEq]
      constructor
      · rintro (⟨-, rfl⟩ | ⟨rfl, hne⟩)
        · exact ⟨rfl, filled _ List.mem_cons_self⟩
        · exact absurd rfl hne
      · rintro ⟨rfl, -⟩
        exact .inl ⟨rfl, rfl⟩
    · have hhere : candidates ((n, ss) :: rest) name = candidates rest name := by
        have hne : (name == n) = false := beq_eq_false_iff_ne.mpr hn
        simp only [candidates, List.lookup_cons, hne]
      rw [hhere, Prod.mk.injEq]
      simp only [hn, false_and, false_or]

theorem candidates_eq_matches (ss : List Symbol) (name : String) :
    (ofSymbols ss).candidates name = ss.filter (·.Matches name) := by
  rw [candidates_ofSymbols]
  refine List.filter_congr fun s _ => ?_
  rw [Bool.eq_iff_iff, Symbol.answersTo_iff, decide_eq_true_eq]

end NameIndex

/-! ### The choice -/

section Earliest

variable {α : Type} {before : α → α → Bool}

theorem earliest_eq_none_iff {l : List α} : earliest before l = none ↔ l = [] := by
  cases l <;> simp [earliest]

/-- The earliest element that passes a test comes before all that pass it in front of it, and none behind it comes
before it. -/
theorem earliest_filter_eq_some_iff (asymm : ∀ a b, before a b = true → before b a = false)
    (weak : ∀ a b c, before a c = true → before a b = true ∨ before b c = true) {p : α → Bool} {l : List α} {a : α} :
    earliest before (l.filter p) = some a ↔
      p a = true ∧ ∃ front back, l = front ++ a :: back ∧ (∀ b ∈ front, p b = true → before a b = true) ∧
        ∀ b ∈ back, p b = true → before b a = false := by
  rw [earliest_eq_find? asymm weak, List.find?_eq_some_iff_append, isEarliest_iff]
  constructor
  · rintro ⟨hearliest, as, bs, hsplit, has⟩
    obtain ⟨l₁, l₂, rfl, hl₁, hl₂⟩ := List.filter_eq_append_iff.mp hsplit
    obtain ⟨skipped, back, rfl, hskipped, ha, -⟩ := List.filter_eq_cons_iff.mp hl₂
    refine ⟨ha, l₁ ++ skipped, back, by rw [List.append_assoc], fun b hb hp => ?_, fun b hb hp => ?_⟩
    · have hmem : b ∈ as := by
        rcases List.mem_append.mp hb with hb | hb
        · exact hl₁ ▸ List.mem_filter.mpr ⟨hb, hp⟩
        · exact absurd hp (hskipped b hb)
      -- Something comes before `b`, and it does not come before `a`, so `a` comes before `b`.
      have hnot := has b hmem
      rw [Bool.not_eq_true', Bool.eq_false_iff, ne_eq, isEarliest_iff] at hnot
      push Not at hnot
      obtain ⟨c, hc, hcb⟩ := hnot
      rcases weak c a b (Bool.eq_true_of_not_eq_false hcb) with hca | hab
      · rw [hearliest c hc] at hca
        cases hca
      · exact hab
    · exact hearliest b (List.mem_filter.mpr ⟨by simp [hb], hp⟩)
  · rintro ⟨ha, front, back, rfl, hfront, hback⟩
    refine ⟨fun b hb => ?_, front.filter p, back.filter p, by simp [ha], fun b hb => ?_⟩
    · obtain ⟨hb, hp⟩ := List.mem_filter.mp hb
      rcases List.mem_append.mp hb with hb | hb
      · exact asymm a b (hfront b hb hp)
      · rcases List.mem_cons.mp hb with rfl | hb
        · exact irrefl_of_asymm asymm b
        · exact hback b hb hp
    · obtain ⟨hb, hp⟩ := List.mem_filter.mp hb
      rw [Bool.not_eq_true', Bool.eq_false_iff, ne_eq, isEarliest_iff]
      intro hall
      have hfalse := hall a (List.mem_filter.mpr ⟨by simp, ha⟩)
      rw [hfront b hb hp] at hfalse
      cases hfalse

end Earliest

/-- Where a symbol stands: its file, and its first line in it. -/
def Symbol.place (s : Symbol) : Lex (String × Int) := toLex (s.path, s.range.first)

theorem Symbol.before_iff_place_lt {a b : Symbol} : a.before b = true ↔ a.place < b.place := by
  rw [Symbol.before_iff, Symbol.place, Symbol.place, Prod.Lex.toLex_lt_toLex]

theorem Symbol.before_eq_false_iff {a b : Symbol} : a.before b = false ↔ b.place ≤ a.place := by
  rw [Bool.eq_false_iff, ne_eq, Symbol.before_iff_place_lt, not_lt]

/-- The symbols among which a call is decided: those of the caller's file that the name matches, or if it matches none
there, all that it matches. -/
def Eligible (ss : List Symbol) (name caller : String) (s : Symbol) : Prop :=
  s.Matches name ∧ (s.path = caller ∨ ∀ r ∈ ss, r.Matches name → r.path ≠ caller)

instance (ss : List Symbol) (name caller : String) : DecidablePred (Eligible ss name caller) :=
  fun _ => inferInstanceAs (Decidable (_ ∧ _))

/-- The first of the eligible symbols that stand at the least place. -/
def Chosen (ss : List Symbol) (name caller : String) (t : Symbol) : Prop :=
  Eligible ss name caller t ∧ ∃ front back, ss = front ++ t :: back ∧
    (∀ s ∈ front, Eligible ss name caller s → t.place < s.place) ∧
    ∀ s ∈ back, Eligible ss name caller s → t.place ≤ s.place

theorem resolve?_eq_earliest (ss : List Symbol) (name caller : String) :
    (NameIndex.ofSymbols ss).resolve? name caller =
      earliest Symbol.before (ss.filter (Eligible ss name caller ·)) := by
  have hown : ((ss.filter (·.Matches name)).filter (·.path == caller)) =
      ss.filter fun s => s.Matches name ∧ s.path = caller := by
    rw [List.filter_filter]
    refine List.filter_congr fun s _ => ?_
    rw [Bool.eq_iff_iff, Bool.and_eq_true, beq_iff_eq, decide_eq_true_eq, decide_eq_true_eq, and_comm]
  rw [NameIndex.resolve?, NameIndex.candidates_eq_matches, hown]
  congr 1
  split
  · next hnone =>
    rw [List.isEmpty_iff, List.filter_eq_nil_iff] at hnone
    refine List.filter_congr fun s hs => ?_
    have hother : ∀ r ∈ ss, r.Matches name → r.path ≠ caller := by
      intro r hr hm hp
      exact hnone r hr (decide_eq_true ⟨hm, hp⟩)
    exact decide_eq_decide.mpr ⟨fun h => ⟨h, .inr hother⟩, And.left⟩
  · next hsome =>
    rw [List.isEmpty_iff, List.filter_eq_nil_iff] at hsome
    push Not at hsome
    obtain ⟨r, hr, hown⟩ := hsome
    obtain ⟨hm, hp⟩ := of_decide_eq_true hown
    refine List.filter_congr fun s hs => decide_eq_decide.mpr ?_
    refine and_congr_right fun _ => ⟨.inl, ?_⟩
    rintro (hpath | hother)
    · exact hpath
    · exact absurd hp (hother r hr hm)

theorem resolve?_eq_some_iff {ss : List Symbol} {name caller : String} {t : Symbol} :
    (NameIndex.ofSymbols ss).resolve? name caller = some t ↔ Chosen ss name caller t := by
  rw [resolve?_eq_earliest, earliest_filter_eq_some_iff Symbol.before_asymm Symbol.before_weak, Chosen]
  simp only [decide_eq_true_eq, Symbol.before_iff_place_lt, Symbol.before_eq_false_iff]

theorem resolve?_eq_none_iff {ss : List Symbol} {name caller : String} :
    (NameIndex.ofSymbols ss).resolve? name caller = none ↔ ∀ s ∈ ss, ¬s.Matches name := by
  rw [resolve?_eq_earliest, earliest_eq_none_iff, List.filter_eq_nil_iff]
  simp only [decide_eq_true_eq]
  constructor
  · intro h s hs hm
    -- A name that matches something matches something eligible.
    by_cases hown : ∃ r ∈ ss, r.Matches name ∧ r.path = caller
    · obtain ⟨r, hr, hmatch, hpath⟩ := hown
      exact h r hr ⟨hmatch, .inl hpath⟩
    · push Not at hown
      exact h s hs ⟨hm, .inr hown⟩
  · exact fun h s hs he => h s hs he.1

/-- The index has a bucket for each name that matches a symbol, with the symbols that it matches in their order. A call
by a name that matches nothing means nothing, and its site stays as it is; any other call means the chosen symbol, and
its site says so. -/
theorem resolve_eq_iff (ss : List Symbol) (caller : String) (c : CallSite) :
    let index := NameIndex.ofSymbols ss
    (∀ name bucket, (name, bucket) ∈ index ↔ bucket = ss.filter (·.Matches name) ∧ bucket ≠ []) ∧
    (index.map Prod.fst).Nodup ∧
    (∀ d, index.resolve caller c = (none, d) ↔ (∀ s ∈ ss, ¬s.Matches c.callee) ∧ d = c) ∧
    ∀ t d, index.resolve caller c = (some t, d) ↔
      Chosen ss c.callee caller t ∧ d = { c with resolved := true, target := some t.id } := by
  intro index
  have hkept : index.Kept := NameIndex.kept_ofSymbols ss
  refine ⟨fun name bucket => ?_, hkept.nodup, fun d => ?_, fun t d => ?_⟩
  · rw [hkept.mem_iff, NameIndex.candidates_eq_matches]
  · rw [← resolve?_eq_none_iff, NameIndex.resolve]
    cases index.resolve? c.callee caller with
    | none => simp [eq_comm]
    | some s => simp
  · rw [← resolve?_eq_some_iff, NameIndex.resolve]
    cases hfound : index.resolve? c.callee caller with
    | none => simp
    | some s =>
      simp only [Prod.mk.injEq, Option.some.injEq, CallSite.withTarget]
      refine and_congr_right ?_
      rintro rfl
      exact eq_comm

end ChangeGraph
