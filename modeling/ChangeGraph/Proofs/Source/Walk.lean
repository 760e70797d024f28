import ChangeGraph.Proofs.FirstByKey
import ChangeGraph.Proofs.Outcome
import ChangeGraph.Proofs.Syntax.Places
import ChangeGraph.Source.Symbols

/-!
# The walk for symbols

The functions of a tree are met on a descent that goes from a class declaration to the named children of its body, and
from any other node to all its children. A stack of what has still to be looked at gives the same symbols.
-/

namespace ChangeGraph

open ChangeGraph.Syntax

/-- The body of a class with its number among the children. -/
def bodyOf? (c : Node) : Option (Node × Nat) := c.children.zipIdx.find? fun x => x.1.label.field == some "body"

theorem getElem?_of_bodyOf? {c b : Node} {i : Nat} (h : bodyOf? c = some (b, i)) : c.children[i]? = some b :=
  List.mem_zipIdx_iff_getElem?.mp (List.mem_of_find?_eq_some h)

theorem find?_body_eq (c : Node) :
    c.children.find? (fun n => n.label.field == some "body") = (bodyOf? c).map (·.1) := by
  have h := List.find?_map (f := Prod.fst) (p := fun n : Node => n.label.field == some "body")
    (l := c.children.zipIdx)
  rw [List.zipIdx_map_fst] at h
  exact h

/-! ### Sightings as lists -/

theorem sightingsAmong_eq (cls parent : Option String) (ns : List Node) :
    sightingsAmong cls parent ns = ns.flatMap (sightings cls parent) := by
  induction ns with
  | nil => rw [sightingsAmong, List.flatMap_nil]
  | cons n ns ih => rw [sightingsAmong, ih, List.flatMap_cons]

theorem sightingsAmongNamed_eq (cls parent : Option String) (ns : List Node) :
    sightingsAmongNamed cls parent ns = (ns.filter (·.label.named)).flatMap (sightings cls parent) := by
  induction ns with
  | nil => rw [sightingsAmongNamed, List.filter_nil, List.flatMap_nil]
  | cons n ns ih =>
    rw [sightingsAmongNamed, ih]
    by_cases h : n.label.named = true
    · simp only [h, if_true, List.filter_cons, List.flatMap_cons]
    · simp only [h, if_false, List.filter_cons, List.nil_append, Bool.false_eq_true]

theorem sightingsInBody_eq (cls : String) (ns : List Node) :
    sightingsInBody cls ns = ((ns.find? fun n => n.label.field == some "body").map fun b =>
      b.namedChildren.flatMap (sightings (some cls) (some b.kind))).getD [] := by
  induction ns with
  | nil => rw [sightingsInBody, List.find?_nil, Option.map_none, Option.getD_none]
  | cons n ns ih =>
    cases n with
    | mk l cs =>
      rw [sightingsInBody, List.find?_cons]
      by_cases h : (l.field == some "body") = true
      · have hn : ((Node.mk l cs).label.field == some "body") = true := h
        rw [if_pos h, hn, sightingsAmongNamed_eq]
        rfl
      · have hn : ((Node.mk l cs).label.field == some "body") = false := Bool.eq_false_iff.mpr h
        rw [if_neg h, hn, ih]

/-! ### The descent -/

/-- A node that is to be looked at, with the name of the class around it and the kind of its parent. -/
structure Pending where
  cls : Option String
  parent : Option String
  node : Node

namespace Pending

def start (root : Node) : Pending := ⟨none, none, root⟩

def sighting? (s : Pending) : Option Sighting := ChangeGraph.sighting? s.cls s.parent s.node

def sightings (s : Pending) : List Sighting := ChangeGraph.sightings s.cls s.parent s.node

def inside (s : Pending) : List (Place × Pending) :=
  if Shape.of? s.node = some .classDeclaration then
    match bodyOf? s.node with
    | some (b, i) => (b.children.zipIdx.filter (·.1.label.named)).map fun x =>
        ([i, x.2], ⟨some (fieldText s.node "name"), some b.kind, x.1⟩)
    | none => []
  else s.node.children.zipIdx.map fun x => ([x.2], ⟨s.cls, some s.node.kind, x.1⟩)

theorem mem_inside_iff {s u : Pending} {q : Place} :
    (q, u) ∈ s.inside ↔
      (Shape.of? s.node ≠ some .classDeclaration ∧
        ∃ i m, s.node.children[i]? = some m ∧ q = [i] ∧ u = ⟨s.cls, some s.node.kind, m⟩) ∨
      (Shape.of? s.node = some .classDeclaration ∧
        ∃ b i j m, bodyOf? s.node = some (b, i) ∧ b.children[j]? = some m ∧ m.label.named = true ∧ q = [i, j] ∧
          u = ⟨some (fieldText s.node "name"), some b.kind, m⟩) := by
  unfold inside
  by_cases hc : Shape.of? s.node = some .classDeclaration
  · simp only [hc, if_true, ne_eq, not_true_eq_false, false_and, false_or, true_and]
    cases hb : bodyOf? s.node with
    | none => simp
    | some x =>
      obtain ⟨b, i⟩ := x
      simp only [List.mem_map, List.mem_filter, List.mem_zipIdx_iff_getElem?]
      constructor
      · rintro ⟨⟨m, j⟩, ⟨hm, hn⟩, he⟩
        cases he
        exact ⟨b, i, j, m, rfl, hm, hn, rfl, rfl⟩
      · rintro ⟨b', i', j, m, he, hm, hn, rfl, rfl⟩
        cases he
        exact ⟨(m, j), ⟨hm, hn⟩, rfl⟩
  · simp only [hc, if_false, ne_eq, not_false_eq_true, false_and, or_false, true_and, List.mem_map,
      List.mem_zipIdx_iff_getElem?]
    constructor
    · rintro ⟨⟨m, i⟩, hm, he⟩
      cases he
      exact ⟨i, m, hm, rfl, rfl⟩
    · rintro ⟨i, m, hm, rfl, rfl⟩
      exact ⟨(m, i), hm, rfl⟩

theorem sum_inside_lt (s : Pending) :
    (s.inside.map fun x => x.2.node.preorder.length).sum < s.node.preorder.length := by
  have hlen := s.node.length_preorder
  unfold inside
  split
  · split
    · next b i hb =>
      have hbody : b.preorder.length ≤ (s.node.children.map fun c => c.preorder.length).sum :=
        List.le_sum_of_mem (List.mem_map_of_mem (List.mem_of_getElem? (getElem?_of_bodyOf? hb)))
      have hall : (b.children.zipIdx.map fun x => x.1.preorder.length).sum + 1 = b.preorder.length := by
        have hmap := map_fst_zipIdx (fun c : Node => c.preorder.length) b.children 0
        rw [hmap, Node.length_preorder]
      have hnamed : ((b.children.zipIdx.filter (·.1.label.named)).map fun x => x.1.preorder.length).sum ≤
          (b.children.zipIdx.map fun x => x.1.preorder.length).sum :=
        (List.filter_sublist.map _).sum_le_sum fun _ _ => Nat.zero_le _
      rw [List.map_map]
      show ((b.children.zipIdx.filter (·.1.label.named)).map fun x => x.1.preorder.length).sum < _
      omega
    · rw [List.map_nil, List.sum_nil]
      omega
  · rw [List.map_map]
    show (s.node.children.zipIdx.map fun x => x.1.preorder.length).sum < _
    have hmap := map_fst_zipIdx (fun c : Node => c.preorder.length) s.node.children 0
    rw [hmap]
    omega

def descent : Descent Pending where
  inside := inside
  size s := s.node.preorder.length
  smaller := sum_inside_lt
  proper s x hx := by
    rcases mem_inside_iff.mp hx with ⟨-, i, m, -, hq, -⟩ | ⟨-, b, i, j, m, -, -, -, hq, -⟩
    · rw [hq]
      exact List.cons_ne_nil _ _
    · rw [hq]
      exact List.cons_ne_nil _ _
  ordered s := by
    unfold inside
    split
    · split
      · next b i _ =>
        rw [List.pairwise_map]
        exact ((pairwise_zipIdx b.children 0).filter _).imp fun h => siblings_apart [i] h
      · exact List.Pairwise.nil
    · rw [List.pairwise_map]
      exact (pairwise_zipIdx s.node.children 0).imp fun h => siblings_apart [] h

theorem sightings_eq (s : Pending) :
    s.sightings = s.sighting?.toList ++ s.inside.flatMap fun x => x.2.sightings := by
  have hnode : s.node = .mk s.node.label s.node.children := by cases s.node; rfl
  unfold sightings
  rw [hnode, ChangeGraph.sightings, ← hnode]
  congr 1
  unfold inside
  split
  · rw [sightingsInBody_eq, find?_body_eq]
    cases hb : bodyOf? s.node with
    | none => rfl
    | some x =>
      obtain ⟨b, i⟩ := x
      have hnamed : b.namedChildren = (b.children.zipIdx.filter (·.1.label.named)).map Prod.fst := by
        have hfst := List.zipIdx_map_fst 0 b.children
        rw [Node.namedChildren, ← hfst, List.filter_map, hfst]
        rfl
      rw [Option.map_some, Option.map_some, Option.getD_some, hnamed, List.flatMap_map, List.flatMap_map]
  · have hfst := List.zipIdx_map_fst 0 s.node.children
    rw [sightingsAmong_eq, List.flatMap_map, ← hfst, List.flatMap_map, hfst]
    rfl

theorem sightings_eq_filterMap (s : Pending) :
    s.sightings = ((descent.visits s).map (·.2)).filterMap sighting? := by
  induction hk : descent.size s using Nat.strong_induction_on generalizing s with
  | _ k ih =>
    rw [sightings_eq, descent.visits_eq, List.map_cons, List.filterMap_cons, List.map_flatMap, List.filterMap_flatMap]
    have hinside : (s.inside.flatMap fun x => x.2.sightings) =
        (descent.inside s).flatMap fun x =>
          (((descent.visits x.2).map fun y => (x.1 ++ y.1, y.2)).map (·.2)).filterMap sighting? := by
      apply List.flatMap_congr
      intro x hx
      have hlt : descent.size x.2 < k := hk ▸ descent.size_lt hx
      rw [ih _ hlt x.2 rfl, List.map_map]
      rfl
    rw [hinside]
    cases s.sighting? with
    | none => rfl
    | some g => rfl

end Pending

/-! ### The walk with a stack

What has still to be looked at stands on a stack. A turn takes the top from it and puts what is inside in its place;
if the top is a function whose id is new, its symbol goes to the end of the symbols found so far. -/

/-- The ids met so far and the symbols kept so far. -/
structure Collected where
  seen : List String := []
  symbols : List Symbol := []

section Collect

variable (file : SourceFile) (changed : List LineRange) (budget : Int)

def Sighting.read (g : Sighting) : Except LineRange.Backward Symbol := do
  return g.symbol file changed budget (← nodeRange g.node)

theorem symbolsOf_eq : symbolsOf file changed budget = do
    let all ← (sightings none none file.root).mapM (Sighting.read file changed budget)
    return firstByKey Symbol.id [] all := rfl

def Collected.keep (c : Collected) (s : Symbol) : Collected :=
  if c.seen.contains s.id then c else ⟨s.id :: c.seen, c.symbols ++ [s]⟩

def Collected.look (c : Collected) (top : Pending) : Except LineRange.Backward Collected :=
  match top.sighting? with
  | some g => do return c.keep (← g.read file changed budget)
  | none => .ok c

def collect : List Pending → Collected → Except LineRange.Backward (List Symbol)
  | [], c => .ok c.symbols
  | top :: rest, c => do
    let c ← c.look file changed budget top
    collect (top.inside.map (·.2) ++ rest) c
termination_by stack => (stack.map fun s => s.node.preorder.length).sum
decreasing_by
  have hlt := top.sum_inside_lt
  rw [List.map_append, List.map_map, List.sum_append, List.map_cons, List.sum_cons]
  exact Nat.add_lt_add_right hlt _

theorem Collected.append_firstByKey (c : Collected) (s : Symbol) (ss : List Symbol) :
    c.symbols ++ firstByKey Symbol.id c.seen (s :: ss) =
      (c.keep s).symbols ++ firstByKey Symbol.id (c.keep s).seen ss := by
  unfold keep
  by_cases h : s.id ∈ c.seen
  · rw [if_pos (List.contains_iff_mem.mpr h), firstByKey_cons_seen Symbol.id h]
  · rw [if_neg (fun hc => h (List.contains_iff_mem.mp hc)), firstByKey_cons_new Symbol.id h, List.append_assoc]
    rfl

/-- A walk gives the symbols that it has and the new ones among those that are still to come. -/
theorem collect_eq (stack : List Pending) (c : Collected) :
    collect file changed budget stack c = do
      let all ← (stack.flatMap Pending.sightings).mapM (Sighting.read file changed budget)
      return c.symbols ++ firstByKey Symbol.id c.seen all := by
  induction hk : (stack.map fun s => s.node.preorder.length).sum using Nat.strong_induction_on generalizing stack c with
  | _ k ih =>
    cases stack with
    | nil =>
      rw [collect, List.flatMap_nil, List.mapM_nil, pure_bind, firstByKey, List.append_nil]
      rfl
    | cons top rest =>
      have hlt : ((top.inside.map (·.2) ++ rest).map fun s => s.node.preorder.length).sum < k := by
        have hinside := top.sum_inside_lt
        rw [List.map_cons, List.sum_cons] at hk
        rw [List.map_append, List.map_map, List.sum_append]
        show (top.inside.map fun x => x.2.node.preorder.length).sum + _ < k
        omega
      have hflat : (top :: rest).flatMap Pending.sightings =
          top.sighting?.toList ++ (top.inside.map (·.2) ++ rest).flatMap Pending.sightings := by
        rw [List.flatMap_cons, Pending.sightings_eq, List.flatMap_append, List.flatMap_map, List.append_assoc]
      rw [collect, hflat, Collected.look]
      cases top.sighting? with
      | none =>
        exact ih _ hlt _ c rfl
      | some g =>
        rw [Option.toList_some, List.singleton_append, List.mapM_cons]
        simp only [bind_assoc, pure_bind]
        cases g.read file changed budget with
        | error e => rfl
        | ok s =>
          have hnext := ih _ hlt (top.inside.map (·.2) ++ rest) (c.keep s) rfl
          simp only [← c.append_firstByKey] at hnext
          exact hnext

theorem collect_eq_symbolsOf :
    collect file changed budget [.start file.root] {} = symbolsOf file changed budget := by
  rw [collect_eq, symbolsOf_eq, List.flatMap_cons, List.flatMap_nil, List.append_nil]
  rfl

end Collect

end ChangeGraph
