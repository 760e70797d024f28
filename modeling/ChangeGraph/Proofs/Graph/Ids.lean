import ChangeGraph.Graph.Basic
import ChangeGraph.Proofs.Text.Digits
import Mathlib.Data.List.Infix

/-! # Ids of nodes and edges

An edge id is read back from the left up to its arrow and from the right up to its colon, so it tells its source, its
target and its line, as long as no arrow occurs in the source. An id of a function outside tells the name. -/

namespace ChangeGraph

/-! ### Cutting lists at a mark -/

theorem append_cons_inj_of_notMem_left {α : Type} {c : α} {a a' b b' : List α} (ha : c ∉ a) (ha' : c ∉ a')
    (h : a ++ c :: b = a' ++ c :: b') : a = a' ∧ b = b' := by
  induction a generalizing a' with
  | nil =>
    cases a' with
    | nil => exact ⟨rfl, (List.cons.inj h).2⟩
    | cons x xs => exact absurd (List.cons.inj h).1 (fun he => ha' (he ▸ List.mem_cons_self))
  | cons x xs ih =>
    cases a' with
    | nil => exact absurd (List.cons.inj h).1 (fun he => ha (he ▸ List.mem_cons_self))
    | cons y ys =>
      obtain ⟨rfl, ht⟩ := List.cons.inj h
      obtain ⟨hx, hb⟩ := ih (fun hm => ha (List.mem_cons_of_mem _ hm)) (fun hm => ha' (List.mem_cons_of_mem _ hm)) ht
      exact ⟨by rw [hx], hb⟩

theorem append_cons_inj_of_notMem_right {α : Type} {c : α} {a a' b b' : List α} (hb : c ∉ b) (hb' : c ∉ b')
    (h : a ++ c :: b = a' ++ c :: b') : a = a' ∧ b = b' := by
  have hr : b.reverse ++ c :: a.reverse = b'.reverse ++ c :: a'.reverse := by
    have := congrArg List.reverse h
    simpa only [List.reverse_append, List.reverse_cons, List.append_assoc, List.singleton_append] using this
  have hm : c ∉ b.reverse := fun hm => hb (List.mem_reverse.mp hm)
  have hm' : c ∉ b'.reverse := fun hm => hb' (List.mem_reverse.mp hm)
  obtain ⟨he, ha⟩ := append_cons_inj_of_notMem_left hm hm' hr
  exact ⟨List.reverse_injective ha, List.reverse_injective he⟩

/-- The arrow of an edge id. -/
def arrow : List Char := ['-', '>']

theorem not_arrow_infix_tail {c : Char} {cs : List Char} (h : ¬ arrow <:+: c :: cs) : ¬ arrow <:+: cs :=
  fun hi => h (hi.trans (List.suffix_cons c cs).isInfix)

/-- A list without an arrow cannot reach into an arrow that follows it, since the two signs of an arrow differ. -/
theorem arrow_append_ne {c : Char} {cs t t' : List Char} (h : ¬ arrow <:+: c :: cs) :
    arrow ++ t ≠ (c :: cs) ++ (arrow ++ t') := by
  intro he
  cases cs with
  | nil =>
    have hd := (List.cons.inj (List.cons.inj he).2).1
    exact absurd hd (by decide)
  | cons d ds =>
    obtain ⟨hc, ht⟩ := List.cons.inj he
    obtain ⟨hd, -⟩ := List.cons.inj ht
    subst hc hd
    exact h ⟨[], ds, rfl⟩

theorem append_arrow_inj {s s' t t' : List Char} (hs : ¬ arrow <:+: s) (hs' : ¬ arrow <:+: s')
    (h : s ++ (arrow ++ t) = s' ++ (arrow ++ t')) : s = s' ∧ t = t' := by
  induction s generalizing s' with
  | nil =>
    cases s' with
    | nil => exact ⟨rfl, List.append_cancel_left h⟩
    | cons c cs => exact absurd h (arrow_append_ne hs')
  | cons c cs ih =>
    cases s' with
    | nil => exact absurd h.symm (arrow_append_ne hs)
    | cons d ds =>
      obtain ⟨rfl, ht⟩ := List.cons.inj h
      obtain ⟨he, hr⟩ := ih (not_arrow_infix_tail hs) (not_arrow_infix_tail hs') ht
      exact ⟨by rw [he], hr⟩

/-! ### Edge ids -/

theorem colon_notMem_repr (n : Int) : ':' ∉ n.repr.toList := Text.notMem_toString (by decide) (by decide) n

theorem toList_edgeId (s t : String) (n : Int) :
    (edgeId s t n).toList = s.toList ++ (arrow ++ (t.toList ++ ':' :: n.repr.toList)) := by
  have h : edgeId s t n = s ++ "->" ++ t ++ ":" ++ n.repr := rfl
  rw [h]
  simp only [String.toList_append, List.append_assoc]
  rfl

theorem edgeId_inj {s s' t t' : String} {n n' : Int} (hs : ¬ arrow <:+: s.toList) (hs' : ¬ arrow <:+: s'.toList)
    (h : edgeId s t n = edgeId s' t' n') : s = s' ∧ t = t' ∧ n = n' := by
  have hl := congrArg String.toList h
  rw [toList_edgeId, toList_edgeId] at hl
  obtain ⟨hsource, hrest⟩ := append_arrow_inj hs hs' hl
  obtain ⟨htarget, hline⟩ :=
    append_cons_inj_of_notMem_right (colon_notMem_repr n) (colon_notMem_repr n') hrest
  exact ⟨String.toList_injective hsource, String.toList_injective htarget,
    Text.eq_of_toString_eq hline⟩

/-! ### Ids of functions outside -/

theorem toList_externalId (callee : String) : (externalId callee).toList = externalMark.toList ++ callee.toList :=
  String.toList_append

theorem externalMark_isPrefixOf (callee : String) : externalMark.toList <+: (externalId callee).toList :=
  ⟨callee.toList, (toList_externalId callee).symm⟩

theorem externalId_injective : Function.Injective externalId := by
  intro a b h
  have hl := congrArg String.toList h
  rw [toList_externalId, toList_externalId] at hl
  exact String.toList_injective (List.append_cancel_left hl)

/-- The name comes back when the mark in front is dropped. -/
theorem drop_externalId (callee : String) :
    String.ofList ((externalId callee).toList.drop externalMark.length) = callee := by
  have hm : externalMark.toList.length = externalMark.length := String.length_toList
  rw [toList_externalId, ← hm, List.drop_left, String.ofList_toList]

end ChangeGraph
