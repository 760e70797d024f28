import ChangeGraph.Proofs.Syntax.Places
import ChangeGraph.Source.Calls

/-!
# The calls in a range of lines

The search for calls passes over whole nodes before and after the range. Where the rows of each node hold the rows of
its children nothing is lost by that: what is found are the calls of the whole tree that start in the range.
-/

namespace ChangeGraph

open ChangeGraph.Syntax

/-! ### The name of a call -/

/-- The name by which the function of a call is called. -/
inductive Names : Node → String → Prop where
  | identifier {f : Node} (kind : f.kind = "identifier") : Names f f.text
  | ofThis {f p o : Node} (kind : f.kind = "member_expression") (property : f.child? "property" = some p)
      (object : f.child? "object" = some o) (this : o.kind = "this") : Names f p.text
  | ofName {f p o : Node} (kind : f.kind = "member_expression") (property : f.child? "property" = some p)
      (object : f.child? "object" = some o) (name : o.kind = "identifier") : Names f (o.text ++ "." ++ p.text)
  | ofOther {f p : Node} (kind : f.kind = "member_expression") (property : f.child? "property" = some p)
      (object : ∀ o, f.child? "object" = some o → o.kind ≠ "this" ∧ o.kind ≠ "identifier") : Names f p.text

def IsTagged (call : Node) : Prop := ∃ a, call.child? "arguments" = some a ∧ a.kind = "template_string"

def CallsBy (call : Node) (name : String) : Prop :=
  ¬IsTagged call ∧ ∃ f, call.child? "function" = some f ∧ Names f name

theorem names_of_memberCallee {f : Node} {name : String} (kind : f.kind = "member_expression")
    (h : memberCallee f = some name) : Names f name := by
  obtain ⟨p, hp, h⟩ := Option.bind_eq_some_iff.mp h
  split at h
  · next o ho =>
    split at h
    · next hk =>
      cases h
      exact .ofName kind hp ho (beq_iff_eq.mp hk)
    · next hk =>
      cases h
      have hk : o.kind ≠ "identifier" := fun he => hk (beq_iff_eq.mpr he)
      by_cases ht : o.kind = "this"
      · exact .ofThis kind hp ho ht
      · refine .ofOther kind hp ?_
        intro o' ho'
        cases ho.symm.trans ho'
        exact ⟨ht, hk⟩
  · next ho =>
    cases h
    exact .ofOther kind hp (fun o ho' => by cases ho.symm.trans ho')

theorem memberCallee_of_names {f : Node} {name : String} (kind : f.kind = "member_expression")
    (h : Names f name) : memberCallee f = some name := by
  cases h with
  | identifier k =>
    rw [k] at kind
    exact absurd kind (by decide)
  | ofThis _ hp ho ht => simp [memberCallee, hp, ho, ht]
  | ofName _ hp ho hk => simp [memberCallee, hp, ho, hk]
  | ofOther _ hp ho =>
    cases hobj : f.child? "object" with
    | none => simp [memberCallee, hp, hobj]
    | some o => simp [memberCallee, hp, hobj, (ho o hobj).2]

theorem callee_eq_some_iff {call : Node} {name : String} :
    calleeOf.callee call = some name ↔ ∃ f, call.child? "function" = some f ∧ Names f name := by
  unfold calleeOf.callee
  rw [Option.bind_eq_bind, Option.bind_eq_some_iff]
  refine exists_congr fun f => and_congr_right fun _ => ?_
  by_cases hi : f.kind = "identifier"
  · have heq : (f.kind == "identifier") = true := beq_iff_eq.mpr hi
    rw [heq]
    constructor
    · intro h
      cases h
      exact .identifier hi
    · intro h
      cases h with
      | identifier _ => rfl
      | ofThis kind _ _ _ => rw [hi] at kind; exact absurd kind (by decide)
      | ofName kind _ _ _ => rw [hi] at kind; exact absurd kind (by decide)
      | ofOther kind _ _ => rw [hi] at kind; exact absurd kind (by decide)
  · have hne : (f.kind == "identifier") = false := beq_eq_false_iff_ne.mpr hi
    rw [hne]
    by_cases hm : f.kind = "member_expression"
    · have heq : (f.kind == "member_expression") = true := beq_iff_eq.mpr hm
      rw [heq]
      exact ⟨names_of_memberCallee hm, memberCallee_of_names hm⟩
    · have hne : (f.kind == "member_expression") = false := beq_eq_false_iff_ne.mpr hm
      rw [hne]
      constructor
      · intro h
        cases h
      · intro h
        cases h with
        | identifier kind => exact absurd kind hi
        | ofThis kind _ _ _ => exact absurd kind hm
        | ofName kind _ _ _ => exact absurd kind hm
        | ofOther kind _ _ => exact absurd kind hm

theorem calleeOf_eq_some_iff {call : Node} {name : String} : calleeOf call = some name ↔ CallsBy call name := by
  unfold calleeOf CallsBy IsTagged
  rw [← callee_eq_some_iff]
  cases call.child? "arguments" with
  | none => simp
  | some a =>
    by_cases ha : a.kind = "template_string"
    · simp [ha]
    · simp [ha]

/-! ### The search of a whole tree -/

/-- The call site that a node is, wherever it starts. -/
def siteOf? (file : SourceFile) (n : Node) : Option CallSite :=
  if n.kind = "call_expression" then
    (presentName (calleeOf n)).map fun name =>
      { callee := name, line := n.start.row + 1, column := file.columnOf n.start }
  else none

def siteWithin? (file : SourceFile) (r : LineRange) (n : Node) : Option CallSite :=
  (siteOf? file n).filter (·.line ∈ r)

/-- A call site of a file: the place of a call expression that calls by a name, with its line and its column. -/
def SiteAt (file : SourceFile) (p : Place) (c : CallSite) : Prop :=
  ∃ n, file.root.at? p = some n ∧ n.kind = "call_expression" ∧ CallsBy n c.callee ∧ c.callee ≠ "" ∧
    c.line = n.start.row + 1 ∧ c.column = file.columnOf n.start ∧ c.resolved = false ∧ c.target = none

theorem presentName_eq_some_iff {name : Option String} {s : String} :
    presentName name = some s ↔ name = some s ∧ s ≠ "" := by
  rw [presentName, Option.filter_eq_some_iff]
  simp

theorem siteOf?_eq_some_iff {file : SourceFile} {n : Node} {c : CallSite} :
    siteOf? file n = some c ↔ n.kind = "call_expression" ∧ CallsBy n c.callee ∧ c.callee ≠ "" ∧
      c.line = n.start.row + 1 ∧ c.column = file.columnOf n.start ∧ c.resolved = false ∧ c.target = none := by
  unfold siteOf?
  by_cases hk : n.kind = "call_expression"
  · rw [if_pos hk, Option.map_eq_some_iff]
    constructor
    · rintro ⟨name, hname, rfl⟩
      obtain ⟨hcallee, hne⟩ := presentName_eq_some_iff.mp hname
      exact ⟨hk, calleeOf_eq_some_iff.mp hcallee, hne, rfl, rfl, rfl, rfl⟩
    · rintro ⟨-, hcallee, hne, hline, hcolumn, hresolved, htarget⟩
      refine ⟨c.callee, presentName_eq_some_iff.mpr ⟨calleeOf_eq_some_iff.mpr hcallee, hne⟩, ?_⟩
      cases c
      simp_all
  · rw [if_neg hk]
    constructor
    · intro h
      cases h
    · rintro ⟨h, -⟩
      exact absurd h hk

theorem siteWithin?_eq_some_iff {file : SourceFile} {r : LineRange} {n : Node} {c : CallSite} :
    siteWithin? file r n = some c ↔ siteOf? file n = some c ∧ c.line ∈ r := by
  rw [siteWithin?, Option.filter_eq_some_iff, decide_eq_true_eq]

theorem callAt?_eq_some_iff {file : SourceFile} {r : LineRange} {n : Node} {c : CallSite} :
    callAt? file r n = some c ↔ siteOf? file n = some c ∧ r.first ≤ c.line := by
  unfold callAt? siteOf?
  by_cases hk : n.kind = "call_expression"
  · by_cases hr : r.first ≤ (n.start.row : Int) + 1
    · simp only [hk, hr, BEq.rfl, decide_true, Bool.and_self, if_true]
      constructor
      · intro h
        obtain ⟨name, hname, he⟩ := Option.bind_eq_some_iff.mp h
        cases he
        exact ⟨Option.map_eq_some_iff.mpr ⟨name, hname, rfl⟩, hr⟩
      · rintro ⟨h, -⟩
        obtain ⟨name, hname, rfl⟩ := Option.map_eq_some_iff.mp h
        exact Option.bind_eq_some_iff.mpr ⟨name, hname, rfl⟩
    · simp only [hk, hr, BEq.rfl, decide_false, Bool.and_false, Bool.false_eq_true, if_false, if_true]
      constructor
      · intro h
        cases h
      · rintro ⟨h, hline⟩
        obtain ⟨name, -, rfl⟩ := Option.map_eq_some_iff.mp h
        exact absurd hline hr
  · have hne : (n.kind == "call_expression") = false := beq_eq_false_iff_ne.mpr hk
    simp [hne, hk]

/-- At a node that is not passed over, the search finds what there is. -/
theorem callAt?_eq_siteWithin? {file : SourceFile} {r : LineRange} {n : Node} (h : outside r n = false) :
    callAt? file r n = siteWithin? file r n := by
  have hlast : (n.start.row : Int) + 1 ≤ r.last := by
    simp only [outside, Bool.or_eq_false_iff, decide_eq_false_iff_not] at h
    omega
  ext c
  rw [callAt?_eq_some_iff, siteWithin?_eq_some_iff]
  refine and_congr_right fun hc => ?_
  have hline : c.line = n.start.row + 1 := (siteOf?_eq_some_iff.mp hc).2.2.2.1
  constructor
  · intro hfirst
    exact ⟨hfirst, by omega⟩
  · rintro ⟨hfirst, -⟩
    exact hfirst

/-! ### Nodes that are passed over -/

/-- The rows of every node hold the rows on which its children start and end. -/
def RowsNested (root : Node) : Prop :=
  ∀ n ∈ root.preorder, ∀ c ∈ n.children,
    (n.start.row ≤ c.start.row ∧ c.start.row ≤ n.stop.row) ∧ n.start.row ≤ c.stop.row ∧ c.stop.row ≤ n.stop.row

instance (root : Node) : Decidable (RowsNested root) :=
  inferInstanceAs (Decidable (∀ n ∈ root.preorder, ∀ c ∈ n.children, _))

theorem self_mem_preorder (n : Node) : n ∈ n.preorder := by
  rw [Node.preorder_eq]
  exact List.mem_cons_self

theorem RowsNested.child {n c : Node} (h : RowsNested n) (hc : c ∈ n.children) : RowsNested c := by
  intro m hm
  apply h
  rw [Node.preorder_eq]
  exact List.mem_cons_of_mem _ (List.mem_flatMap.mpr ⟨c, hc, hm⟩)

theorem RowsNested.start_mem {n : Node} (h : RowsNested n) :
    ∀ m ∈ n.preorder, m = n ∨ n.start.row ≤ m.start.row ∧ m.start.row ≤ n.stop.row := by
  induction hk : n.preorder.length using Nat.strong_induction_on generalizing n with
  | _ k ih =>
    intro m hm
    rw [Node.preorder_eq, List.mem_cons, List.mem_flatMap] at hm
    rcases hm with rfl | ⟨c, hc, hm⟩
    · exact .inl rfl
    · obtain ⟨⟨hs, hs'⟩, he, he'⟩ := h n (self_mem_preorder n) c hc
      obtain ⟨i, hi⟩ := List.mem_iff_getElem?.mp hc
      have hlt : c.preorder.length < k :=
        hk ▸ Node.descent.size_lt (Node.mem_inside_descent.mpr ⟨i, rfl, hi⟩)
      rcases ih _ hlt (h.child hc) rfl m hm with rfl | hin
      · exact .inr ⟨hs, hs'⟩
      · exact .inr ⟨by omega, by omega⟩

theorem mem_children_of_child? {n c : Node} {field : String} (h : n.child? field = some c) : c ∈ n.children :=
  List.mem_of_find?_eq_some h

/-- A call that calls by a name has a child, so its rows are in order. -/
theorem RowsNested.start_le_stop {file : SourceFile} {n : Node} {c : CallSite} (h : RowsNested n)
    (hc : siteOf? file n = some c) : n.start.row ≤ n.stop.row := by
  obtain ⟨-, ⟨-, f, hf, -⟩, -⟩ := siteOf?_eq_some_iff.mp hc
  obtain ⟨⟨hs, hs'⟩, -⟩ := h n (self_mem_preorder n) f (mem_children_of_child? hf)
  omega

/-- Nothing in a node that is passed over starts in the range. -/
theorem RowsNested.siteWithin?_of_outside {file : SourceFile} {r : LineRange} {n : Node} (h : RowsNested n)
    (hout : outside r n = true) : n.preorder.filterMap (siteWithin? file r) = [] := by
  rw [List.filterMap_eq_nil_iff]
  intro m hm
  cases hsite : siteWithin? file r m with
  | none => rfl
  | some c =>
    obtain ⟨hc, hfirst, hlast⟩ := siteWithin?_eq_some_iff.mp hsite
    have hline : c.line = m.start.row + 1 := (siteOf?_eq_some_iff.mp hc).2.2.2.1
    have hrows : n.start.row ≤ m.start.row ∧ m.start.row ≤ n.stop.row := by
      rcases h.start_mem m hm with rfl | hin
      · exact ⟨Nat.le_refl _, h.start_le_stop hc⟩
      · exact hin
    simp only [outside, Bool.or_eq_true, decide_eq_true_eq] at hout
    omega

/-! ### The search and the whole tree -/

theorem callsAmong_eq (file : SourceFile) (r : LineRange) (ns : List Node) :
    callsAmong file r ns = ns.flatMap (callsIn file r) := by
  induction ns with
  | nil => rw [callsAmong, List.flatMap_nil]
  | cons n ns ih => rw [callsAmong, ih, List.flatMap_cons]

theorem callsIn_eq (file : SourceFile) (r : LineRange) (n : Node) :
    callsIn file r n =
      if outside r n then [] else (callAt? file r n).toList ++ n.children.flatMap (callsIn file r) := by
  cases n with
  | mk l cs =>
    rw [callsIn, callsAmong_eq]
    rfl

/-- Whatever the rows of the tree, all that is found starts in the range. -/
theorem exists_siteWithin_of_mem_callsIn {file : SourceFile} {r : LineRange} {n : Node} {c : CallSite}
    (h : c ∈ callsIn file r n) : ∃ m, siteWithin? file r m = some c := by
  induction hk : n.preorder.length using Nat.strong_induction_on generalizing n with
  | _ k ih =>
    rw [callsIn_eq] at h
    cases hout : outside r n with
    | true => simp [hout] at h
    | false =>
      rw [hout, if_neg Bool.false_ne_true, callAt?_eq_siteWithin? hout, List.mem_append, Option.mem_toList,
        List.mem_flatMap] at h
      rcases h with h | ⟨m, hm, h⟩
      · exact ⟨n, h⟩
      · obtain ⟨i, hi⟩ := List.mem_iff_getElem?.mp hm
        have hlt : m.preorder.length < k :=
          hk ▸ Node.descent.size_lt (Node.mem_inside_descent.mpr ⟨i, rfl, hi⟩)
        exact ih _ hlt h rfl

theorem fresh_of_mem_callsOf {file : SourceFile} {r : LineRange} {c : CallSite} (h : c ∈ callsOf file r) :
    c.line ∈ r ∧ c.resolved = false ∧ c.target = none := by
  obtain ⟨m, hm⟩ := exists_siteWithin_of_mem_callsIn h
  obtain ⟨hsite, hline⟩ := siteWithin?_eq_some_iff.mp hm
  obtain ⟨-, -, -, -, -, hresolved, htarget⟩ := siteOf?_eq_some_iff.mp hsite
  exact ⟨hline, hresolved, htarget⟩

theorem RowsNested.callsIn_eq_filterMap {file : SourceFile} {n : Node} (h : RowsNested n) (r : LineRange) :
    callsIn file r n = n.preorder.filterMap (siteWithin? file r) := by
  induction hk : n.preorder.length using Nat.strong_induction_on generalizing n with
  | _ k ih =>
    rw [callsIn_eq]
    cases hout : outside r n with
    | true => rw [if_pos rfl, h.siteWithin?_of_outside hout]
    | false =>
      have hchildren : n.children.flatMap (callsIn file r) =
          (n.children.flatMap Node.preorder).filterMap (siteWithin? file r) := by
        rw [List.filterMap_flatMap]
        apply List.flatMap_congr
        intro c hc
        obtain ⟨i, hi⟩ := List.mem_iff_getElem?.mp hc
        have hlt : c.preorder.length < k :=
          hk ▸ Node.descent.size_lt (Node.mem_inside_descent.mpr ⟨i, rfl, hi⟩)
        exact ih _ hlt (h.child hc) rfl
      rw [if_neg Bool.false_ne_true, callAt?_eq_siteWithin? hout, hchildren, Node.preorder_eq, List.filterMap_cons]
      cases siteWithin? file r n with
      | none => rfl
      | some c => rfl

theorem siteWithin?_of_subset {file : SourceFile} {r r' : LineRange} (sub : ∀ line ∈ r, line ∈ r') (n : Node) :
    siteWithin? file r n = (siteWithin? file r' n).filter (·.line ∈ r) := by
  ext c
  rw [Option.filter_eq_some_iff, siteWithin?_eq_some_iff, siteWithin?_eq_some_iff, decide_eq_true_eq]
  constructor
  · rintro ⟨hc, hr⟩
    exact ⟨⟨hc, sub c.line hr⟩, hr⟩
  · rintro ⟨⟨hc, -⟩, hr⟩
    exact ⟨hc, hr⟩

/-- In a tree with nested rows the calls found for a range are all call sites that start in it, in the order of the
text; and the calls found for a range are those found for a wider one whose lines are in it. -/
theorem callsOf_inOrder {file : SourceFile} (rows : RowsNested file.root) (r : LineRange) :
    InOrder (fun p c => SiteAt file p c ∧ c.line ∈ r) (callsOf file r) ∧
      ∀ r' : LineRange, (∀ line ∈ r, line ∈ r') → callsOf file r = (callsOf file r').filter (·.line ∈ r) := by
  constructor
  · rw [callsOf, rows.callsIn_eq_filterMap]
    refine (file.root.inOrder_preorder.filterMap (siteWithin? file r)).congr fun p c => ?_
    simp only [siteWithin?_eq_some_iff, siteOf?_eq_some_iff, SiteAt]
    constructor
    · rintro ⟨n, hn, hsite, hr⟩
      exact ⟨⟨n, hn, hsite⟩, hr⟩
    · rintro ⟨⟨n, hn, hsite⟩, hr⟩
      exact ⟨n, hn, hsite, hr⟩
  · intro r' sub
    rw [callsOf, callsOf, rows.callsIn_eq_filterMap, rows.callsIn_eq_filterMap, List.filter_filterMap]
    apply List.filterMap_congr
    intro n _
    exact siteWithin?_of_subset sub n

namespace Sample

def part (kind : String) (first last : Nat) (field text : String) (children : List Node) : Node :=
  .mk { kind, start := ⟨first, 0⟩, stop := ⟨last, 0⟩, field := some field, text := some text } children

/-- The call `a.b(c(), this.d())` with its parts on three rows, and a tagged template on the last of them. -/
def chain : SourceFile := .ofLines "a.js" ["a", ".b(c(),", "this.d(), e())"] <|
  part "call_expression" 0 2 "" "" [
    part "member_expression" 0 1 "function" "" [
      part "identifier" 0 0 "object" "a" [], part "property_identifier" 1 1 "property" "b" []],
    part "arguments" 1 2 "arguments" "" [
      part "call_expression" 1 1 "" "" [part "identifier" 1 1 "function" "c" []],
      part "call_expression" 2 2 "" "" [
        part "member_expression" 2 2 "function" "" [
          part "this" 2 2 "object" "this" [], part "property_identifier" 2 2 "property" "d" []]],
      part "call_expression" 2 2 "" "" [
        part "identifier" 2 2 "function" "e" [], part "template_string" 2 2 "arguments" "" []]]]

end Sample

/-- The call that starts on the row before the range is left out, and the two that start in it are found. -/
theorem callsOf_inOrder_chain :
    RowsNested Sample.chain.root ∧
    (callsOf Sample.chain ⟨2, 3, by decide⟩).map (·.callee) = ["c", "d"] ∧
    InOrder (fun p c => SiteAt Sample.chain p c ∧ c.line ∈ (⟨2, 3, by decide⟩ : LineRange))
      (callsOf Sample.chain ⟨2, 3, by decide⟩) ∧
    callsOf Sample.chain ⟨2, 3, by decide⟩ =
      (callsOf Sample.chain ⟨1, 3, by decide⟩).filter (·.line ∈ (⟨2, 3, by decide⟩ : LineRange)) := by
  have rows : RowsNested Sample.chain.root := by decide
  obtain ⟨found, narrowed⟩ := callsOf_inOrder rows ⟨2, 3, by decide⟩
  refine ⟨rows, by decide, found, narrowed ⟨1, 3, by decide⟩ ?_⟩
  rintro line ⟨hfirst, hlast⟩
  exact ⟨Int.le_trans (by decide) hfirst, hlast⟩

end ChangeGraph
