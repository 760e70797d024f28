import Mathlib.Algebra.GroupWithZero.Nat
import Mathlib.Algebra.Order.BigOperators.Group.List
import Mathlib.Algebra.Order.Group.Nat
import Mathlib.Tactic.Common
import ChangeGraph.Source.Shape

/-!
# Places in a tree

A node is known by its place, the numbers of the children on the way to it from the root. The order of the text is the
lexicographic order of places: a node comes before what is inside it, and what is inside it before the next node.
-/

namespace ChangeGraph.Syntax

abbrev Place := List Nat

def Node.at? (n : Node) : Place → Option Node
  | [] => some n
  | i :: p => n.children[i]?.bind fun c => c.at? p

theorem Node.at?_append (n : Node) (p q : Place) : n.at? (p ++ q) = (n.at? p).bind fun m => m.at? q := by
  induction p generalizing n with
  | nil => rfl
  | cons i p ih =>
    rw [List.cons_append, Node.at?, Node.at?]
    cases n.children[i]? with
    | none => rfl
    | some c => exact ih c

theorem Node.at?_append_of {n m : Node} {p : Place} (h : n.at? p = some m) (q : Place) : n.at? (p ++ q) = m.at? q := by
  rw [at?_append, h, Option.bind_some]

theorem Node.at?_singleton (n : Node) (i : Nat) : n.at? [i] = n.children[i]? := by
  rw [at?]
  cases n.children[i]? with
  | none => rfl
  | some c => rfl

theorem Node.at?_pair {n b : Node} {i : Nat} (h : n.children[i]? = some b) (j : Nat) :
    n.at? [i, j] = b.children[j]? := by
  rw [at?, h, Option.bind_some, at?_singleton]

/-- Of two places neither of which is inside the other, what is inside the earlier one comes first. -/
theorem append_lt_append {p q : Place} (h : p < q) (apart : ¬p <+: q) (x y : Place) : p ++ x < q ++ y := by
  induction p generalizing q with
  | nil => exact absurd List.nil_prefix apart
  | cons i p ih =>
    cases q with
    | nil => exact absurd h (List.not_lt_nil _)
    | cons j q =>
      rw [List.cons_lt_cons_iff] at h
      rw [List.cons_append, List.cons_append, List.cons_lt_cons_iff]
      rcases h with h | ⟨rfl, h⟩
      · exact .inl h
      · have apart' : ¬p <+: q := fun hc => apart ((List.prefix_cons_inj i).mpr hc)
        exact .inr ⟨rfl, ih h apart'⟩

theorem append_lt_append_left (p : Place) {x y : Place} (h : x < y) : p ++ x < p ++ y := by
  induction p with
  | nil => exact h
  | cons i p ih => exact List.cons_lt_cons_iff.mpr (.inr ⟨rfl, ih⟩)

/-! ### Values in the order of their places -/

/-- The values that a relation gives to places, one to each place that has one, in the order of the text. -/
def InOrder {β : Type} (R : Place → β → Prop) (bs : List β) : Prop :=
  ∃ xs : List (Place × β), xs.Pairwise (fun x y => x.1 < y.1) ∧ (∀ p b, (p, b) ∈ xs ↔ R p b) ∧ xs.map (·.2) = bs

namespace InOrder

variable {β γ : Type} {R : Place → β → Prop} {bs : List β}

theorem congr {S : Place → β → Prop} (h : InOrder R bs) (same : ∀ p b, R p b ↔ S p b) : InOrder S bs := by
  obtain ⟨xs, sorted, mem, hmap⟩ := h
  exact ⟨xs, sorted, fun p b => (mem p b).trans (same p b), hmap⟩

theorem mem (h : InOrder R bs) {p : Place} {b : β} (hb : R p b) : b ∈ bs := by
  obtain ⟨xs, -, mem, rfl⟩ := h
  exact List.mem_map_of_mem (f := Prod.snd) ((mem p b).mpr hb)

theorem filterMap (h : InOrder R bs) (f : β → Option γ) :
    InOrder (fun p c => ∃ b, R p b ∧ f b = some c) (bs.filterMap f) := by
  obtain ⟨xs, sorted, mem, rfl⟩ := h
  let valued (x : Place × β) : Option (Place × γ) := (f x.2).map fun c => (x.1, c)
  refine ⟨xs.filterMap valued, ?_, ?_, ?_⟩
  · rw [List.pairwise_filterMap]
    refine sorted.imp ?_
    intro x y hlt a ha b hb
    obtain ⟨_, -, rfl⟩ := Option.map_eq_some_iff.mp ha
    obtain ⟨_, -, rfl⟩ := Option.map_eq_some_iff.mp hb
    exact hlt
  · intro p c
    rw [List.mem_filterMap]
    constructor
    · rintro ⟨⟨q, b⟩, hb, he⟩
      obtain ⟨c', hc, he⟩ := Option.map_eq_some_iff.mp he
      cases he
      exact ⟨b, (mem q b).mp hb, hc⟩
    · rintro ⟨b, hb, hc⟩
      exact ⟨(p, b), (mem p b).mpr hb, Option.map_eq_some_iff.mpr ⟨c, hc, rfl⟩⟩
  · rw [List.map_filterMap, List.filterMap_map]
    apply List.filterMap_congr
    intro x _
    cases hf : f x.2 with
    | none => simp only [valued, hf, Option.map_none, Function.comp_apply]
    | some c => simp only [valued, hf, Option.map_some, Function.comp_apply]

/-- All that stands at an earlier place than some value is among the values before it. -/
theorem mem_before {before after : List β} {b : β} (h : InOrder R (before ++ b :: after)) :
    ∃ p, R p b ∧ ∀ q c, q < p → R q c → c ∈ before := by
  obtain ⟨xs, sorted, mem, hmap⟩ := h
  obtain ⟨as, ys, rfl, rfl, hys⟩ := List.map_eq_append_iff.mp hmap
  obtain ⟨⟨p, _⟩, cs, rfl, rfl, -⟩ := List.map_eq_cons_iff.mp hys
  refine ⟨p, (mem p _).mp (List.mem_append_right _ List.mem_cons_self), ?_⟩
  intro q c hlt hq
  rcases List.mem_append.mp ((mem q c).mpr hq) with has | hcs
  · exact List.mem_map_of_mem has
  · -- what comes from the value on is not earlier than it
    have hafter := List.pairwise_cons.mp (List.pairwise_append.mp sorted).2.1
    rcases List.mem_cons.mp hcs with he | hcs
    · cases he
      exact absurd hlt (List.lt_irrefl _)
    · exact absurd hlt (List.lt_asymm (hafter.1 _ hcs))

end InOrder

/-! ### Going down a tree

A walk sees certain things inside each thing it comes to, in order and each at a place of its own. The things that it
comes to on the whole are those it sees, and what it comes to inside them. -/

structure Descent (σ : Type) where
  inside : σ → List (Place × σ)
  size : σ → Nat
  smaller : ∀ s, ((inside s).map fun x => size x.2).sum < size s
  proper : ∀ s, ∀ x ∈ inside s, x.1 ≠ []
  ordered : ∀ s, (inside s).Pairwise fun x y => x.1 < y.1 ∧ ¬x.1 <+: y.1

namespace Descent

variable {σ : Type} (d : Descent σ)

theorem size_lt {s : σ} {x : Place × σ} (h : x ∈ d.inside s) : d.size x.2 < d.size s := by
  have hm : d.size x.2 ∈ (d.inside s).map fun x => d.size x.2 := List.mem_map.mpr ⟨x, h, rfl⟩
  have hle := List.le_sum_of_mem hm
  have hlt := d.smaller s
  omega

def visits (s : σ) : List (Place × σ) :=
  ([], s) :: (d.inside s).attach.flatMap fun x => (visits x.1.2).map fun y => (x.1.1 ++ y.1, y.2)
termination_by d.size s
decreasing_by exact d.size_lt x.2

theorem visits_eq (s : σ) :
    d.visits s = ([], s) :: (d.inside s).flatMap fun x => (d.visits x.2).map fun y => (x.1 ++ y.1, y.2) := by
  rw [visits, List.flatMap_subtype (g := fun x => (d.visits x.2).map fun y => (x.1 ++ y.1, y.2)) fun _ _ => rfl,
    List.unattach_attach]

theorem mem_visits_iff {s t : σ} {p : Place} :
    (p, t) ∈ d.visits s ↔ (p = [] ∧ t = s) ∨
      ∃ q u r, (q, u) ∈ d.inside s ∧ (r, t) ∈ d.visits u ∧ p = q ++ r := by
  rw [visits_eq, List.mem_cons, List.mem_flatMap, Prod.mk.injEq]
  refine or_congr Iff.rfl ⟨?_, ?_⟩
  · rintro ⟨⟨q, u⟩, hu, hp⟩
    obtain ⟨⟨r, t'⟩, hr, he⟩ := List.mem_map.mp hp
    cases he
    exact ⟨q, u, r, hu, hr, rfl⟩
  · rintro ⟨q, u, r, hu, hr, rfl⟩
    exact ⟨(q, u), hu, List.mem_map.mpr ⟨(r, t), hr, rfl⟩⟩

theorem self_mem_visits (s : σ) : ([], s) ∈ d.visits s := (d.mem_visits_iff).mpr (.inl ⟨rfl, rfl⟩)

/-- What is inside a thing that is come to is come to as well. -/
theorem append_mem_visits {s t u : σ} {p q : Place} (ht : (p, t) ∈ d.visits s) (hu : (q, u) ∈ d.inside t) :
    (p ++ q, u) ∈ d.visits s := by
  induction hn : d.size s using Nat.strong_induction_on generalizing s p with
  | _ n ih =>
    rcases (d.mem_visits_iff).mp ht with ⟨rfl, rfl⟩ | ⟨a, v, r, hv, hr, rfl⟩
    · exact (d.mem_visits_iff).mpr (.inr ⟨q, u, [], hu, d.self_mem_visits u, (List.append_nil q).symm⟩)
    · have hlt : d.size v < n := hn ▸ d.size_lt hv
      have hrest := ih (d.size v) hlt hr rfl
      exact (d.mem_visits_iff).mpr (.inr ⟨a, v, r ++ q, hv, hrest, List.append_assoc a r q⟩)

/-- What holds at the start, and inside a thing if it holds of the thing, holds of all that is come to. -/
theorem visits_induction {s : σ} {P : Place → σ → Prop} (start : P [] s)
    (step : ∀ p t q u, (p, t) ∈ d.visits s → P p t → (q, u) ∈ d.inside t → P (p ++ q) u) :
    ∀ p t, (p, t) ∈ d.visits s → P p t := by
  -- the way down is cut after the part `a` that is behind, so that the hypothesis is about the rest of it
  suffices h : ∀ n u a, d.size u = n → (a, u) ∈ d.visits s → P a u → ∀ r t, (r, t) ∈ d.visits u → P (a ++ r) t from
    fun p t ht => h _ s [] rfl (d.self_mem_visits s) start p t ht
  intro n
  induction n using Nat.strong_induction_on with
  | _ n ih =>
    intro u a hn ha hP r t hr
    rcases (d.mem_visits_iff).mp hr with ⟨rfl, rfl⟩ | ⟨q, v, r', hv, hr', rfl⟩
    · rw [List.append_nil]
      exact hP
    · have hlt : d.size v < n := hn ▸ d.size_lt hv
      have hnext := ih (d.size v) hlt v (a ++ q) rfl (d.append_mem_visits ha hv) (step a u q v ha hP hv) r' t hr'
      rwa [List.append_assoc] at hnext

theorem pairwise_visits (s : σ) : (d.visits s).Pairwise fun x y => x.1 < y.1 := by
  induction hn : d.size s using Nat.strong_induction_on generalizing s with
  | _ n ih =>
    rw [visits_eq, List.pairwise_cons, List.pairwise_flatMap]
    refine ⟨?_, ?_, ?_⟩
    · intro y hy
      obtain ⟨x, hx, hy⟩ := List.mem_flatMap.mp hy
      obtain ⟨z, -, rfl⟩ := List.mem_map.mp hy
      obtain ⟨i, q, hq⟩ := List.exists_cons_of_ne_nil (d.proper s x hx)
      rw [hq]
      exact List.nil_lt_cons i _
    · intro x hx
      have hlt : d.size x.2 < n := hn ▸ d.size_lt hx
      exact List.pairwise_map.mpr ((ih _ hlt x.2 rfl).imp fun h => append_lt_append_left x.1 h)
    · refine (d.ordered s).imp ?_
      rintro x y ⟨hlt, apart⟩ a ha b hb
      obtain ⟨a', -, rfl⟩ := List.mem_map.mp ha
      obtain ⟨b', -, rfl⟩ := List.mem_map.mp hb
      exact append_lt_append hlt apart a'.1 b'.1

theorem inOrder_visits (s : σ) : InOrder (fun p t => (p, t) ∈ d.visits s) ((d.visits s).map (·.2)) :=
  ⟨d.visits s, d.pairwise_visits s, fun _ _ => Iff.rfl, rfl⟩

end Descent

/-! ### All nodes -/

theorem preorderAll_eq (ns : List Node) : preorderAll ns = ns.flatMap Node.preorder := by
  induction ns with
  | nil => rfl
  | cons n ns ih => rw [preorderAll, ih, List.flatMap_cons]

theorem Node.preorder_eq (n : Node) : n.preorder = n :: n.children.flatMap Node.preorder := by
  cases n with
  | mk l cs =>
    rw [preorder, preorderAll_eq]
    rfl

theorem Node.length_preorder (n : Node) :
    n.preorder.length = (n.children.map fun c => c.preorder.length).sum + 1 := by
  rw [preorder_eq, List.length_cons, List.length_flatMap]

theorem pairwise_zipIdx {α : Type} (l : List α) (k : Nat) : (l.zipIdx k).Pairwise fun x y => x.2 < y.2 := by
  induction l generalizing k with
  | nil => exact List.Pairwise.nil
  | cons a l ih =>
    rw [List.zipIdx_cons, List.pairwise_cons]
    exact ⟨fun x hx => List.le_snd_of_mem_zipIdx hx, ih (k + 1)⟩

theorem map_fst_zipIdx {α β : Type} (f : α → β) (l : List α) (k : Nat) :
    (l.zipIdx k).map (fun x => f x.1) = l.map f := by
  have h : (l.zipIdx k).map (fun x => f x.1) = ((l.zipIdx k).map Prod.fst).map f := (List.map_map ..).symm
  rw [h, List.zipIdx_map_fst]

theorem siblings_apart (p : Place) {i j : Nat} (h : i < j) : p ++ [i] < p ++ [j] ∧ ¬p ++ [i] <+: p ++ [j] := by
  refine ⟨append_lt_append_left p (List.cons_lt_cons_iff.mpr (.inl h)), ?_⟩
  intro hp
  have heq : p ++ [i] = p ++ [j] := hp.eq_of_length (by rw [List.length_append, List.length_append]; rfl)
  have hij : i = j := by simpa using heq
  omega

def Node.descent : Descent Node where
  inside n := n.children.zipIdx.map fun x => ([x.2], x.1)
  size n := n.preorder.length
  smaller n := by
    have hsum : (n.children.zipIdx.map fun x => x.1.preorder.length) = n.children.map fun c => c.preorder.length :=
      map_fst_zipIdx (fun c : Node => c.preorder.length) n.children 0
    rw [List.map_map]
    show (n.children.zipIdx.map fun x => x.1.preorder.length).sum < n.preorder.length
    rw [hsum, Node.length_preorder]
    omega
  proper n x hx := by
    obtain ⟨y, -, rfl⟩ := List.mem_map.mp hx
    exact List.cons_ne_nil _ _
  ordered n := by
    rw [List.pairwise_map]
    exact (pairwise_zipIdx n.children 0).imp fun h => siblings_apart [] h

theorem Node.mem_inside_descent {n m : Node} {q : Place} :
    (q, m) ∈ descent.inside n ↔ ∃ i, q = [i] ∧ n.children[i]? = some m := by
  constructor
  · intro h
    obtain ⟨⟨c, i⟩, hc, he⟩ := List.mem_map.mp h
    cases he
    exact ⟨i, rfl, List.mem_zipIdx_iff_getElem?.mp hc⟩
  · rintro ⟨i, rfl, hm⟩
    exact List.mem_map.mpr ⟨(m, i), List.mem_zipIdx_iff_getElem?.mpr hm, rfl⟩

theorem Node.preorder_eq_visits (n : Node) : n.preorder = (descent.visits n).map (·.2) := by
  induction hk : n.preorder.length using Nat.strong_induction_on generalizing n with
  | _ k ih =>
    have hinside : (descent.inside n).flatMap (fun x => x.2.preorder) = n.children.flatMap Node.preorder := by
      show (n.children.zipIdx.map fun x => ([x.2], x.1)).flatMap (fun x : Place × Node => x.2.preorder) = _
      rw [List.flatMap_map, List.flatMap_def, List.flatMap_def]
      exact congrArg List.flatten (map_fst_zipIdx Node.preorder n.children 0)
    rw [Descent.visits_eq, List.map_cons, List.map_flatMap, preorder_eq, ← hinside]
    congr 1
    apply List.flatMap_congr
    intro x hx
    have hlt : x.2.preorder.length < k := hk ▸ descent.size_lt hx
    rw [ih _ hlt x.2 rfl, List.map_map]
    rfl

theorem Node.mem_visits_iff {n m : Node} {p : Place} : (p, m) ∈ descent.visits n ↔ n.at? p = some m := by
  induction p generalizing n with
  | nil =>
    rw [descent.mem_visits_iff]
    constructor
    · rintro (⟨-, rfl⟩ | ⟨q, u, r, hu, -, he⟩)
      · rfl
      · obtain ⟨i, rfl, -⟩ := mem_inside_descent.mp hu
        cases he
    · intro h
      cases h
      exact .inl ⟨rfl, rfl⟩
  | cons i p ih =>
    rw [descent.mem_visits_iff, at?, Option.bind_eq_some_iff]
    constructor
    · rintro (⟨he, -⟩ | ⟨q, u, r, hu, hr, he⟩)
      · cases he
      · obtain ⟨j, rfl, hj⟩ := mem_inside_descent.mp hu
        cases he
        exact ⟨u, hj, ih.mp hr⟩
    · rintro ⟨c, hc, hm⟩
      exact .inr ⟨[i], c, p, mem_inside_descent.mpr ⟨i, rfl, hc⟩, ih.mpr hm, rfl⟩

theorem Node.inOrder_preorder (n : Node) : InOrder (fun p m => n.at? p = some m) n.preorder := by
  rw [preorder_eq_visits]
  exact (descent.inOrder_visits n).congr fun p m => mem_visits_iff

end ChangeGraph.Syntax
