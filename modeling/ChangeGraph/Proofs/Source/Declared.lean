import ChangeGraph.Proofs.Source.Calls
import ChangeGraph.Proofs.Source.Walk

/-!
# The symbols of a file, said of its tree

Which nodes of a tree are in sight, to which class they belong and which symbols they declare is said of their places
alone, without the walk. The symbols of a file are those declared by the nodes in sight.
-/

namespace ChangeGraph

open ChangeGraph.Syntax

/-! ### Shapes -/

def Shape.Fits : Shape → Node → Prop
  | .functionDeclaration, n => n.kind ∈ functionKinds ∧ (n.child? "name").isSome
  | .methodDeclaration, n => n.kind = "method_definition" ∧ (n.child? "name").isSome
  | .methodSignature, n => n.kind ∈ methodSignatureKinds ∧ (n.child? "name").isSome
  | .arrowVariable, n => n.kind = "variable_declarator" ∧ ∃ v, n.child? "value" = some v ∧ v.kind ∈ functionValueKinds
  | .classDeclaration, n => n.kind ∈ classKinds ∧ (n.child? "name").isSome

theorem Shape.of?_eq_some_iff {n : Node} {s : Shape} : Shape.of? n = some s ↔ s.Fits n := by
  cases s with
  | functionDeclaration => grind [Shape.of?, Shape.Fits, functionKinds]
  | methodDeclaration => grind [Shape.of?, Shape.Fits, functionKinds]
  | methodSignature => grind [Shape.of?, Shape.Fits, functionKinds, methodSignatureKinds]
  | arrowVariable => grind [Shape.of?, Shape.Fits, functionKinds, methodSignatureKinds]
  | classDeclaration => grind [Shape.of?, Shape.Fits, functionKinds, methodSignatureKinds, classKinds]

def IsClass (n : Node) : Prop := Shape.Fits .classDeclaration n

/-! ### Nodes in sight -/

/-- Whether a way down from a class declaration goes through a named child of its body. -/
def Enters (c : Node) (p : Place) : Prop :=
  ∃ b i j m, bodyOf? c = some (b, i) ∧ b.children[j]? = some m ∧ m.label.named = true ∧ [i, j] <+: p

/-- A node is in sight if the way to it passes every class declaration that is in sight through a named child of its
body. -/
def InSight (root : Node) (p : Place) : Prop :=
  (root.at? p).isSome ∧ ∀ k, k < p.length → InSight root (p.take k) →
    ∀ c, root.at? (p.take k) = some c → IsClass c → Enters c (p.drop k)
termination_by p.length
decreasing_by
  rw [List.length_take]
  omega

theorem inSight_iff {root : Node} {p : Place} :
    InSight root p ↔ (root.at? p).isSome ∧ ∀ k, k < p.length → InSight root (p.take k) →
      ∀ c, root.at? (p.take k) = some c → IsClass c → Enters c (p.drop k) := by
  rw [InSight]

theorem Enters.append {c : Node} {p : Place} (h : Enters c p) (q : Place) : Enters c (p ++ q) := by
  obtain ⟨b, i, j, m, hb, hm, hn, hp⟩ := h
  exact ⟨b, i, j, m, hb, hm, hn, hp.trans (List.prefix_append p q)⟩

section Extend

variable {root n : Node} {p : Place} (sight : InSight root p) (at_p : root.at? p = some n)

include sight

/-- The classes on the way to a node in sight are passed on any longer way as well. -/
theorem InSight.passed (q : Place) {k : Nat} (hk : k < p.length) (hs : InSight root ((p ++ q).take k)) {c : Node}
    (hc : root.at? ((p ++ q).take k) = some c) (cls : IsClass c) : Enters c ((p ++ q).drop k) := by
  rw [List.take_append_of_le_length (by omega)] at hs hc
  rw [List.drop_append_of_le_length (by omega)]
  exact ((inSight_iff.mp sight).2 k hk hs c hc cls).append q

include at_p

theorem InSight.child (plain : ¬IsClass n) {i : Nat} {m : Node} (hm : n.children[i]? = some m) :
    InSight root (p ++ [i]) := by
  rw [inSight_iff]
  constructor
  · rw [Node.at?_append_of at_p, Node.at?_singleton, hm]
    rfl
  · intro k hk hs c hc cls
    rw [List.length_append, List.length_singleton] at hk
    by_cases hlt : k < p.length
    · exact sight.passed [i] hlt hs hc cls
    · have heq : k = p.length := by omega
      rw [heq, List.take_left, at_p] at hc
      cases hc
      exact absurd cls plain

theorem InSight.not_body (cls : IsClass n) (i : Nat) : ¬InSight root (p ++ [i]) := by
  intro h
  have henters := (inSight_iff.mp h).2 p.length (by simp) (by rwa [List.take_left]) n (by rwa [List.take_left]) cls
  obtain ⟨b, i', j, m, -, -, -, hp⟩ := henters
  rw [List.drop_left] at hp
  have hlen := hp.length_le
  simp at hlen

/-- On the way from a class declaration to a member of its body only the class itself is in sight, not the body. -/
theorem InSight.eq_length (cls : IsClass n) {i j k : Nat} (hk : k < (p ++ [i, j]).length) (hle : ¬k < p.length)
    (hs : InSight root ((p ++ [i, j]).take k)) : k = p.length := by
  have hlen : (p ++ [i, j]).length = p.length + 2 := by simp
  by_contra hne
  have hk1 : k = p.length + 1 := by omega
  have htake : (p ++ [i, j]).take k = p ++ [i] := by
    rw [hk1, List.take_append]
    simp
  rw [htake] at hs
  exact sight.not_body at_p cls i hs

theorem InSight.member (cls : IsClass n) {b m : Node} {i j : Nat} (hb : bodyOf? n = some (b, i))
    (hm : b.children[j]? = some m) (named : m.label.named = true) : InSight root (p ++ [i, j]) := by
  rw [inSight_iff]
  constructor
  · rw [Node.at?_append_of at_p, Node.at?_pair (getElem?_of_bodyOf? hb), hm]
    rfl
  · intro k hk hs c hc hcls
    by_cases hlt : k < p.length
    · exact sight.passed [i, j] hlt hs hc hcls
    · have heq : k = p.length := sight.eq_length at_p cls hk hlt hs
      rw [heq, List.take_left, at_p] at hc
      cases hc
      rw [heq, List.drop_left]
      exact ⟨b, i, j, m, hb, hm, named, List.prefix_refl _⟩

end Extend

/-! ### The class around a node -/

/-- A class declaration in sight on the way to a place, so many steps from the root. -/
def Around (root : Node) (p : Place) (k : Nat) (c : Node) : Prop :=
  k < p.length ∧ InSight root (p.take k) ∧ root.at? (p.take k) = some c ∧ IsClass c

/-- The name of the innermost class declaration in sight around a place, if there is one. -/
def ClassAround (root : Node) (p : Place) : Option String → Prop
  | some name => ∃ k c, Around root p k c ∧ (∀ k' c', Around root p k' c' → k' ≤ k) ∧ fieldText c "name" = name
  | none => ∀ k c, ¬Around root p k c

theorem Around.unique {root : Node} {p : Place} {k : Nat} {c c' : Node} (h : Around root p k c)
    (h' : Around root p k c') : c = c' := Option.some.inj (h.2.2.1.symm.trans h'.2.2.1)

theorem ClassAround.unique {root : Node} {p : Place} {a b : Option String} (ha : ClassAround root p a)
    (hb : ClassAround root p b) : a = b := by
  cases a with
  | none =>
    cases b with
    | none => rfl
    | some y =>
      obtain ⟨k, c, hk, -, -⟩ := hb
      exact absurd hk (ha k c)
  | some x =>
    obtain ⟨k, c, hk, hmax, rfl⟩ := ha
    cases b with
    | none => exact absurd hk (hb k c)
    | some y =>
      obtain ⟨k', c', hk', hmax', rfl⟩ := hb
      have heq : k = k' := Nat.le_antisymm (hmax' k c hk) (hmax k' c' hk')
      subst heq
      rw [hk.unique hk']

section Extend

variable {root n : Node} {p : Place} (sight : InSight root p) (at_p : root.at? p = some n)

theorem around_append_of_lt {root : Node} {p : Place} (q : Place) {k : Nat} {c : Node} (hk : k < p.length) :
    Around root (p ++ q) k c ↔ Around root p k c := by
  unfold Around
  rw [List.take_append_of_le_length (by omega), List.length_append]
  constructor
  · rintro ⟨-, h⟩
    exact ⟨hk, h⟩
  · rintro ⟨-, h⟩
    exact ⟨by omega, h⟩

include at_p in
theorem around_child (plain : ¬IsClass n) (i k : Nat) (c : Node) :
    Around root (p ++ [i]) k c ↔ Around root p k c := by
  by_cases hk : k < p.length
  · exact around_append_of_lt [i] hk
  · constructor
    · rintro ⟨hlt, -, hc, cls⟩
      rw [List.length_append, List.length_singleton] at hlt
      have heq : k = p.length := by omega
      rw [heq, List.take_left, at_p] at hc
      cases hc
      exact absurd cls plain
    · rintro ⟨hlt, -⟩
      exact absurd hlt hk

include sight at_p in
theorem around_member (cls : IsClass n) (i j k : Nat) (c : Node) :
    Around root (p ++ [i, j]) k c ↔ Around root p k c ∨ (k = p.length ∧ c = n) := by
  have hlen : (p ++ [i, j]).length = p.length + 2 := by simp
  by_cases hk : k < p.length
  · rw [around_append_of_lt [i, j] hk]
    constructor
    · exact .inl
    · rintro (h | ⟨heq, -⟩)
      · exact h
      · omega
  · constructor
    · rintro ⟨hlt, hs, hc, -⟩
      have heq : k = p.length := sight.eq_length at_p cls hlt hk hs
      rw [heq, List.take_left, at_p] at hc
      cases hc
      exact .inr ⟨heq, rfl⟩
    · rintro (⟨hlt, -⟩ | ⟨rfl, rfl⟩)
      · exact absurd hlt hk
      · refine ⟨by omega, ?_, ?_, cls⟩
        · rwa [List.take_left]
        · rwa [List.take_left]

include at_p in
theorem ClassAround.child (plain : ¬IsClass n) (i : Nat) {cls : Option String} (h : ClassAround root p cls) :
    ClassAround root (p ++ [i]) cls := by
  cases cls with
  | none => exact fun k c hk => h k c ((around_child at_p plain i k c).mp hk)
  | some name =>
    obtain ⟨k, c, hk, hmax, hname⟩ := h
    exact ⟨k, c, (around_child at_p plain i k c).mpr hk,
      fun k' c' hk' => hmax k' c' ((around_child at_p plain i k' c').mp hk'), hname⟩

include sight at_p in
theorem ClassAround.member (cls : IsClass n) (i j : Nat) :
    ClassAround root (p ++ [i, j]) (some (fieldText n "name")) := by
  refine ⟨p.length, n, (around_member sight at_p cls i j _ _).mpr (.inr ⟨rfl, rfl⟩), ?_, rfl⟩
  intro k' c' hk'
  rcases (around_member sight at_p cls i j k' c').mp hk' with ⟨hlt, -⟩ | ⟨rfl, -⟩
  · omega
  · exact Nat.le_refl _

end Extend

/-! ### What the walk comes to -/

def parentOf? (root : Node) (p : Place) : Option Node := if p = [] then none else root.at? p.dropLast

/-- What the walk knows of a node that it comes to. -/
structure Seen (root : Node) (p : Place) (s : Pending) : Prop where
  sight : InSight root p
  at_p : root.at? p = some s.node
  cls : ClassAround root p s.cls
  parent : s.parent = (parentOf? root p).map (·.kind)

theorem seen_start (root : Node) : Seen root [] (.start root) where
  sight := by
    rw [inSight_iff]
    exact ⟨rfl, fun k hk => absurd hk (Nat.not_lt_zero k)⟩
  at_p := rfl
  cls := fun k c h => Nat.not_lt_zero k h.1
  parent := rfl

theorem Seen.step {root : Node} {p q : Place} {s u : Pending} (h : Seen root p s) (hu : (q, u) ∈ s.inside) :
    Seen root (p ++ q) u := by
  rcases Pending.mem_inside_iff.mp hu with ⟨hc, i, m, hm, rfl, rfl⟩ | ⟨hc, b, i, j, m, hb, hm, hn, rfl, rfl⟩
  · have plain : ¬IsClass s.node := fun hcls => hc (Shape.of?_eq_some_iff.mpr hcls)
    refine ⟨h.sight.child h.at_p plain hm, ?_, h.cls.child h.at_p plain i, ?_⟩
    · rw [Node.at?_append_of h.at_p, Node.at?_singleton, hm]
    · simp [parentOf?, h.at_p]
  · have cls : IsClass s.node := Shape.of?_eq_some_iff.mp hc
    have hbody := getElem?_of_bodyOf? hb
    refine ⟨h.sight.member h.at_p cls hb hm hn, ?_, .member h.sight h.at_p cls i j, ?_⟩
    · rw [Node.at?_append_of h.at_p, Node.at?_pair hbody, hm]
    · have hlast : (p ++ [i, j]).dropLast = p ++ [i] := by
        rw [List.dropLast_append_of_ne_nil (by simp)]
        rfl
      simp [parentOf?, hlast, Node.at?_append_of h.at_p, Node.at?_singleton, hbody]

theorem seen_of_mem_visits {root : Node} {p : Place} {s : Pending} (h : (p, s) ∈ Pending.descent.visits (.start root)) :
    Seen root p s :=
  Pending.descent.visits_induction (P := Seen root) (seen_start root) (fun _ _ _ _ _ ht hu => ht.step hu) p s h

/-- The walk comes to every node in sight. On the way to it, step by step, the walk has come to the node of the step,
or to the class declaration of which that node is the body. -/
theorem exists_mem_visits_of_inSight {root : Node} {p : Place} (h : InSight root p) :
    ∃ s, (p, s) ∈ Pending.descent.visits (.start root) := by
  suffices reach : ∀ k ≤ p.length, (∃ s, (p.take k, s) ∈ Pending.descent.visits (.start root)) ∨
      ∃ j s, k = j + 1 ∧ k < p.length ∧ (p.take j, s) ∈ Pending.descent.visits (.start root) ∧ IsClass s.node by
    rcases reach p.length (Nat.le_refl _) with ⟨s, hs⟩ | ⟨j, s, -, hlt, -⟩
    · rw [List.take_length] at hs
      exact ⟨s, hs⟩
    · omega
  intro k
  induction k with
  | zero =>
    intro _
    exact .inl ⟨.start root, Pending.descent.self_mem_visits _⟩
  | succ k ih =>
    intro hk
    have hsplit : p.take (k + 1) = p.take k ++ [p[k]] := (List.take_append_getElem (by omega)).symm
    rcases ih (by omega) with ⟨s, hs⟩ | ⟨j, s, rfl, -, hs, cls⟩
    · have seen := seen_of_mem_visits hs
      by_cases cls : IsClass s.node
      · obtain ⟨b, i, j, m, -, -, -, hpre⟩ := (inSight_iff.mp h).2 k (by omega) seen.sight s.node seen.at_p cls
        have hlen := hpre.length_le
        rw [List.length_drop] at hlen
        simp only [List.length_cons, List.length_nil] at hlen
        exact .inr ⟨k, s, rfl, by omega, hs, cls⟩
      · have hat : (root.at? (p.take (k + 1))).isSome := by
          have hp := (inSight_iff.mp h).1
          rw [← List.take_append_drop (k + 1) p, Node.at?_append] at hp
          exact Option.isSome_of_isSome_bind hp
        rw [hsplit, Node.at?_append_of seen.at_p, Node.at?_singleton] at hat
        obtain ⟨m, hm⟩ := Option.isSome_iff_exists.mp hat
        have hin := Pending.mem_inside_iff.mpr (.inl ⟨mt Shape.of?_eq_some_iff.mp cls, p[k], m, hm, rfl, rfl⟩)
        rw [hsplit]
        exact .inl ⟨_, Pending.descent.append_mem_visits hs hin⟩
    · have seen := seen_of_mem_visits hs
      obtain ⟨b, i, j', m, hb, hm, hn, rest, hrest⟩ :=
        (inSight_iff.mp h).2 j (by omega) seen.sight s.node seen.at_p cls
      have htake : p.take (j + 1 + 1) = p.take j ++ [i, j'] := by
        rw [List.take_add (i := j) (j := 2), ← hrest]
        rfl
      have hin := Pending.mem_inside_iff.mpr
        (.inr ⟨Shape.of?_eq_some_iff.mpr cls, b, i, j', m, hb, hm, hn, rfl, rfl⟩)
      rw [htake]
      exact .inl ⟨_, Pending.descent.append_mem_visits hs hin⟩

/-! ### Declarations -/

/-- The function that the node at a place declares. -/
inductive Declares (root : Node) (p : Place) : Sighting → Prop
  | function {n : Node} (at_p : root.at? p = some n) (fits : Shape.Fits .functionDeclaration n) :
    Declares root p ⟨n, n, fieldText n "name", fieldText n "name", .function, none⟩
  | member {n : Node} {c : String} (at_p : root.at? p = some n) (fits : Shape.Fits .methodDeclaration n)
    (around : ClassAround root p (some c)) (named : c ≠ "") :
    Declares root p ⟨n, n, fieldText n "name", c ++ "." ++ fieldText n "name", .method, some c⟩
  | bareMember {n : Node} {cls : Option String} (at_p : root.at? p = some n) (fits : Shape.Fits .methodDeclaration n)
    (around : ClassAround root p cls) (bare : cls = none ∨ cls = some "") :
    Declares root p ⟨n, n, fieldText n "name", fieldText n "name", .method, cls⟩
  | signature {n b : Node} {c : String} (at_p : root.at? p = some n) (fits : Shape.Fits .methodSignature n)
    (parent : parentOf? root p = some b) (body : b.kind = "class_body") (around : ClassAround root p (some c))
    (named : c ≠ "") :
    Declares root p ⟨n, n, fieldText n "name", c ++ "." ++ fieldText n "name", .method, some c⟩
  | arrow {n v : Node} (at_p : root.at? p = some n) (fits : Shape.Fits .arrowVariable n)
    (value : n.child? "value" = some v) :
    Declares root p ⟨n, v, fieldText n "name", fieldText n "name", .arrow, none⟩

theorem Declares.shape {root : Node} {p : Place} {g : Sighting} (h : Declares root p g) :
    root.at? p = some g.node ∧ ∃ s, Shape.of? g.node = some s ∧ s ≠ .classDeclaration := by
  cases h with
  | function at_p fits => exact ⟨at_p, _, Shape.of?_eq_some_iff.mpr fits, nofun⟩
  | member at_p fits _ _ => exact ⟨at_p, _, Shape.of?_eq_some_iff.mpr fits, nofun⟩
  | bareMember at_p fits _ _ => exact ⟨at_p, _, Shape.of?_eq_some_iff.mpr fits, nofun⟩
  | signature at_p fits _ _ _ _ => exact ⟨at_p, _, Shape.of?_eq_some_iff.mpr fits, nofun⟩
  | arrow at_p fits _ => exact ⟨at_p, _, Shape.of?_eq_some_iff.mpr fits, nofun⟩

theorem presentName_eq_none_iff {cls : Option String} : presentName cls = none ↔ cls = none ∨ cls = some "" := by
  cases cls with
  | none => simp [presentName]
  | some c => simp [presentName, Option.filter]

theorem memberName_of_ne {c : String} (h : c ≠ "") (name : String) : memberName (some c) name = c ++ "." ++ name := by
  rw [memberName, presentName_eq_some_iff.mpr ⟨rfl, h⟩]

theorem memberName_of_none {cls : Option String} (h : cls = none ∨ cls = some "") (name : String) :
    memberName cls name = name := by
  rw [memberName, presentName_eq_none_iff.mpr h]

/-- A class around a node has a name, or there is none or it has none. -/
theorem named_or_bare (cls : Option String) : (∃ c, cls = some c ∧ c ≠ "") ∨ cls = none ∨ cls = some "" := by
  cases cls with
  | none => exact .inr (.inl rfl)
  | some c =>
    by_cases h : c = ""
    · exact .inr (.inr (congrArg some h))
    · exact .inl ⟨c, rfl, h⟩

theorem Seen.declares_of_sighting? {root : Node} {p : Place} {s : Pending} (h : Seen root p s) {g : Sighting}
    (hg : s.sighting? = some g) : Declares root p g := by
  obtain ⟨cls, parent, n⟩ := s
  have around : ClassAround root p cls := h.cls
  have hparent : parent = (parentOf? root p).map (·.kind) := h.parent
  unfold Pending.sighting? sighting? at hg
  cases hs : Shape.of? n with
  | none =>
    rw [hs] at hg
    cases hg
  | some shape =>
    have fits : shape.Fits n := Shape.of?_eq_some_iff.mp hs
    rw [hs] at hg
    cases shape with
    | functionDeclaration =>
      cases hg
      exact .function h.at_p fits
    | methodDeclaration =>
      cases hg
      rcases named_or_bare cls with ⟨c, rfl, hc⟩ | hbare
      · rw [memberName_of_ne hc]
        exact .member h.at_p fits around hc
      · rw [memberName_of_none hbare]
        exact .bareMember h.at_p fits around hbare
    | methodSignature =>
      simp only [Bool.and_eq_true, beq_iff_eq, Option.ite_none_right_eq_some] at hg
      obtain ⟨⟨hpresent, hbody⟩, he⟩ := hg
      rw [hparent] at hbody
      obtain ⟨b, hb, hkind⟩ := Option.map_eq_some_iff.mp hbody
      cases he
      rcases named_or_bare cls with ⟨c, rfl, hc⟩ | hbare
      · rw [memberName_of_ne hc]
        exact .signature h.at_p fits hb hkind around hc
      · rw [presentName_eq_none_iff.mpr hbare] at hpresent
        cases hpresent
    | arrowVariable =>
      obtain ⟨v, hv, he⟩ := Option.map_eq_some_iff.mp hg
      cases he
      exact .arrow h.at_p fits hv
    | classDeclaration => cases hg

theorem Seen.sighting?_of_declares {root : Node} {p : Place} {s : Pending} (h : Seen root p s) {g : Sighting}
    (hg : Declares root p g) : s.sighting? = some g := by
  obtain ⟨cls, parent, n⟩ := s
  have hparent : parent = (parentOf? root p).map (·.kind) := h.parent
  have same {m : Node} (hm : root.at? p = some m) : m = n := Option.some.inj (hm.symm.trans h.at_p)
  unfold Pending.sighting? sighting?
  cases hg with
  | function hm fits =>
    obtain rfl := same hm
    simp only [Shape.of?_eq_some_iff.mpr fits]
  | member hm fits around hc =>
    obtain rfl := same hm
    obtain rfl := around.unique h.cls
    simp only [Shape.of?_eq_some_iff.mpr fits, memberName_of_ne hc]
  | bareMember hm fits around hbare =>
    obtain rfl := same hm
    obtain rfl := around.unique h.cls
    simp only [Shape.of?_eq_some_iff.mpr fits, memberName_of_none hbare]
  | signature hm fits hb hkind around hc =>
    obtain rfl := same hm
    obtain rfl := around.unique h.cls
    have hbody : parent = some "class_body" := by rw [hparent, hb, Option.map_some, hkind]
    simp [Shape.of?_eq_some_iff.mpr fits, memberName_of_ne hc, presentName_eq_some_iff.mpr ⟨rfl, hc⟩, hbody]
  | arrow hm fits hv =>
    obtain rfl := same hm
    simp only [Shape.of?_eq_some_iff.mpr fits, hv, Option.map_some]

theorem sightings_inOrder (root : Node) :
    InOrder (fun p g => InSight root p ∧ Declares root p g) (sightings none none root) := by
  have hall := (Pending.descent.inOrder_visits (.start root)).filterMap Pending.sighting?
  rw [← Pending.sightings_eq_filterMap] at hall
  refine hall.congr fun p g => ?_
  constructor
  · rintro ⟨s, hs, hg⟩
    have seen := seen_of_mem_visits hs
    exact ⟨seen.sight, seen.declares_of_sighting? hg⟩
  · rintro ⟨sight, hg⟩
    obtain ⟨s, hs⟩ := exists_mem_visits_of_inSight sight
    exact ⟨s, hs, (seen_of_mem_visits hs).sighting?_of_declares hg⟩

/-! ### Symbols -/

/-- Of the values with one key the first in the order of the text is kept. -/
theorem Syntax.InOrder.firstByKey {β : Type} {R : Place → β → Prop} {bs : List β} (h : InOrder R bs)
    (key : β → String) :
    InOrder (fun p b => R p b ∧ ∀ q c, q < p → R q c → key c ≠ key b) (firstByKey key [] bs) := by
  obtain ⟨xs, sorted, mem, rfl⟩ := h
  let kept := ChangeGraph.firstByKey (fun x : Place × β => key x.2) [] xs
  have first : ∀ p b, (p, b) ∈ kept → ∀ q c, q < p → (q, c) ∈ xs → key c ≠ key b := by
    intro p b hb q c hlt hc heq
    obtain ⟨-, as, ys, rfl, hbefore⟩ := List.find?_eq_some_iff_append.mp (find?_of_mem_firstByKey hb)
    have hafter := List.pairwise_cons.mp (List.pairwise_append.mp sorted).2.1
    rcases List.mem_append.mp hc with hc | hc
    · have hne := hbefore (q, c) hc
      simp [heq] at hne
    · rcases List.mem_cons.mp hc with he | hc
      · cases he
        exact List.lt_irrefl _ hlt
      · exact List.lt_asymm hlt (hafter.1 _ hc)
  refine ⟨kept, sorted.sublist (firstByKey_sublist _), ?_, map_firstByKey Prod.snd key [] xs⟩
  intro p b
  constructor
  · intro hb
    exact ⟨(mem p b).mp (mem_of_mem_firstByKey hb), fun q c hlt hc => first p b hb q c hlt ((mem q c).mpr hc)⟩
  · rintro ⟨hb, hfirst⟩
    have hx : (p, b) ∈ xs := (mem p b).mpr hb
    obtain ⟨⟨q, c⟩, hc, heq⟩ := exists_mem_firstByKey (fun x : Place × β => key x.2) hx List.not_mem_nil
    have hq : (q, c) ∈ xs := mem_of_mem_firstByKey hc
    have hnotq : ¬q < p := fun hlt => hfirst q c hlt ((mem q c).mp hq) heq
    have hnotp : ¬p < q := fun hlt => first q c hc p b hlt hx heq.symm
    have hpq : p = q := List.le_antisymm (List.not_lt.mp hnotq) (List.not_lt.mp hnotp)
    have hplaces : (xs.map (·.1)).Nodup := by
      refine List.pairwise_map.mpr (sorted.imp ?_)
      intro x y hlt he
      rw [he] at hlt
      exact List.lt_irrefl _ hlt
    rw [List.inj_on_of_nodup_map hplaces hx hq hpq]
    exact hc

/-- The lines of a node, counted from one. -/
def Spans (n : Node) (r : LineRange) : Prop := r.first = n.start.row + 1 ∧ r.last = n.stop.row + 1

theorem nodeRange_eq_ok_iff {n : Node} {r : LineRange} : nodeRange n = .ok r ↔ Spans n r := by
  obtain ⟨first, last, ordered⟩ := r
  unfold nodeRange LineRange.between Spans
  constructor
  · intro h
    split at h
    · cases h
      exact ⟨rfl, rfl⟩
    · cases h
  · rintro ⟨rfl, rfl⟩
    rw [dif_pos ordered]

theorem nodeRange_eq_error_iff {n : Node} {e : LineRange.Backward} :
    nodeRange n = .error e ↔ n.stop.row < n.start.row ∧ e = ⟨n.start.row + 1, n.stop.row + 1⟩ := by
  unfold nodeRange LineRange.between
  constructor
  · intro h
    split at h
    · cases h
    · cases h
      exact ⟨by omega, rfl⟩
  · rintro ⟨hlt, rfl⟩
    rw [dif_neg (by omega)]

/-- A symbol of the file, with the place of the node in sight that declares it. -/
def SymbolAt (file : SourceFile) (changed : List LineRange) (budget : Int) (p : Place) (s : Symbol) : Prop :=
  ∃ g r, InSight file.root p ∧ Declares file.root p g ∧ Spans g.node r ∧ s = g.symbol file changed budget r

section

variable {file : SourceFile} {changed : List LineRange} {budget : Int}

theorem Sighting.read_eq_ok_iff {g : Sighting} {s : Symbol} :
    g.read file changed budget = .ok s ↔ ∃ r, Spans g.node r ∧ s = g.symbol file changed budget r := by
  unfold Sighting.read
  rw [bind_eq_ok_iff]
  constructor
  · rintro ⟨r, hr, he⟩
    cases he
    exact ⟨r, nodeRange_eq_ok_iff.mp hr, rfl⟩
  · rintro ⟨r, hr, rfl⟩
    exact ⟨r, nodeRange_eq_ok_iff.mpr hr, rfl⟩

theorem Sighting.read_eq_error_iff {g : Sighting} {e : LineRange.Backward} :
    g.read file changed budget = .error e ↔
      g.node.stop.row < g.node.start.row ∧ e = ⟨g.node.start.row + 1, g.node.stop.row + 1⟩ := by
  rw [← nodeRange_eq_error_iff]
  unfold Sighting.read
  cases nodeRange g.node with
  | ok r => exact ⟨nofun, nofun⟩
  | error e' => exact ⟨fun h => by cases h; rfl, fun h => by cases h; rfl⟩

theorem Sighting.forward_of_read_eq_ok {g : Sighting} {s : Symbol} (h : g.read file changed budget = .ok s) :
    g.node.start.row ≤ g.node.stop.row := by
  obtain ⟨r, ⟨hfirst, hlast⟩, -⟩ := read_eq_ok_iff.mp h
  have hordered := r.ordered
  omega

end

/-- The walk with a stack ends and gives the symbols of the file. Where each declaring node in sight ends on a row not
before its first, these are the symbols that the nodes in sight declare, in the order of the text and of those with one
id the first; otherwise it fails at the first node that ends before it starts. -/
theorem collect_declared (file : SourceFile) (changed : List LineRange) (budget : Int) :
    collect file changed budget [.start file.root] {} = symbolsOf file changed budget ∧
      match symbolsOf file changed budget with
      | .ok symbols =>
        (∀ p g, InSight file.root p → Declares file.root p g → g.node.start.row ≤ g.node.stop.row) ∧
        (symbols.map (·.id)).Nodup ∧
        InOrder (fun p s => SymbolAt file changed budget p s ∧
          ∀ q s', q < p → SymbolAt file changed budget q s' → s'.id ≠ s.id) symbols
      | .error e => ∃ p g, InSight file.root p ∧ Declares file.root p g ∧ g.node.stop.row < g.node.start.row ∧
          e = ⟨g.node.start.row + 1, g.node.stop.row + 1⟩ ∧
          ∀ q g', q < p → InSight file.root q → Declares file.root q g' → g'.node.start.row ≤ g'.node.stop.row := by
  refine ⟨collect_eq_symbolsOf file changed budget, ?_⟩
  have declared := sightings_inOrder file.root
  rw [symbolsOf_eq]
  cases hall : (sightings none none file.root).mapM (Sighting.read file changed budget) with
  | ok all =>
    refine ⟨?_, nodup_map_firstByKey Symbol.id, ?_⟩
    · intro p g sight hg
      obtain ⟨s, hs⟩ := exists_ok_of_mapM_eq_ok hall (declared.mem ⟨sight, hg⟩)
      exact g.forward_of_read_eq_ok hs
    · have hsymbols : InOrder (SymbolAt file changed budget) all := by
        rw [filterMap_of_mapM_eq_ok hall]
        refine (declared.filterMap _).congr fun p s => ?_
        simp only [toOption_eq_some_iff, Sighting.read_eq_ok_iff, SymbolAt]
        constructor
        · rintro ⟨g, ⟨sight, hg⟩, r, hr, he⟩
          exact ⟨g, r, sight, hg, hr, he⟩
        · rintro ⟨g, r, sight, hg, hr, he⟩
          exact ⟨g, ⟨sight, hg⟩, r, hr, he⟩
      exact hsymbols.firstByKey Symbol.id
  | error e =>
    obtain ⟨before, g, after, hsplit, hg, hbefore⟩ := split_of_mapM_eq_error hall
    rw [hsplit] at declared
    obtain ⟨p, ⟨sight, hdeclares⟩, hearlier⟩ := declared.mem_before
    obtain ⟨hback, he⟩ := Sighting.read_eq_error_iff.mp hg
    refine ⟨p, g, sight, hdeclares, hback, he, ?_⟩
    intro q g' hlt hsight hg'
    obtain ⟨s, hs⟩ := hbefore g' (hearlier q g' hlt ⟨hsight, hg'⟩)
    exact g'.forward_of_read_eq_ok hs

/-! ### Classes out of sight

Only a class declaration in sight stands in the way. If the body of a class is itself a class declaration, the members
of the body are still in sight, though the way to them does not pass the body through a body of its own. -/

/-- The stricter rule by which every class declaration on the way counts. -/
def Unblocked (root : Node) (p : Place) : Prop :=
  ∀ k, k < p.length → ∀ c, root.at? (p.take k) = some c → IsClass c → Enters c (p.drop k)

namespace Sample

/-- A class `A` whose body is a class declaration `B` with a method `m`. -/
def classAsBody : SourceFile := .ofLines "a.js" ["m"] <|
  part "class_declaration" 0 0 "" "" [
    part "identifier" 0 0 "name" "A" [],
    part "class_declaration" 0 0 "body" "" [
      part "identifier" 0 0 "name" "B" [],
      part "method_definition" 0 0 "" "" [part "property_identifier" 0 0 "name" "m" []]]]

theorem not_unblocked_method : ¬Unblocked classAsBody.root [1, 1] := by
  intro h
  obtain ⟨b, i, j, m, -, -, -, hp⟩ := h 1 (by decide) _ rfl ⟨by decide, by decide⟩
  have hlen := hp.length_le
  simp at hlen

theorem eq_of_declares {p : Place} {g : Sighting} (h : Declares classAsBody.root p g) : p = [1, 1] := by
  obtain ⟨hat, s, hs, hne⟩ := h.shape
  generalize g.node = n at hat hs
  match p with
  | [] =>
    cases hat
    cases hs
    exact absurd rfl hne
  | [0] =>
    cases hat
    cases hs
  | 0 :: _ :: _ => cases hat
  | [1] =>
    cases hat
    cases hs
    exact absurd rfl hne
  | [1, 0] =>
    cases hat
    cases hs
  | 1 :: 0 :: _ :: _ => cases hat
  | [1, 1] => rfl
  | [1, 1, 0] =>
    cases hat
    cases hs
  | 1 :: 1 :: 0 :: _ :: _ => cases hat
  | 1 :: 1 :: (_ + 1) :: _ => cases hat
  | 1 :: (_ + 2) :: _ => cases hat
  | (_ + 2) :: _ => cases hat

end Sample

/-- By the stricter rule the class has no symbol, yet the method is found as its member. -/
theorem symbolsOf_class_as_body :
    (symbolsOf Sample.classAsBody [] 0).toOption.map (·.map (·.name)) = some ["A.m"] ∧
      ∀ p, Unblocked Sample.classAsBody.root p → ∀ g, ¬Declares Sample.classAsBody.root p g := by
  refine ⟨by decide +kernel, ?_⟩
  intro p hp g hg
  rw [Sample.eq_of_declares hg] at hp
  exact Sample.not_unblocked_method hp

end ChangeGraph
