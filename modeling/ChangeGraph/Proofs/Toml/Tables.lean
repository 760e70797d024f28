import ChangeGraph.Proofs.Value.Entries
import ChangeGraph.Toml.Reader
import Mathlib.Data.List.Basic
import Mathlib.Tactic.Common

/-!
# Tables by the ways into them

Settings are told apart by what stands at the end of each way of keys: a plain value, a table or nothing. Entering a new
table under a header and setting a new key change nothing else.
-/

namespace ChangeGraph

namespace Value

/-- What stands at the end of a way of keys. -/
def at? : List String → Value → Option Value
  | [], v => some v
  | k :: ks, .table es => (Entries.get? es k).bind (at? ks)
  | _ :: _, _ => none

theorem at?_append (p q : List String) (v : Value) : at? (p ++ q) v = (at? p v).bind (at? q) := by
  induction p generalizing v with
  | nil => rfl
  | cons k p ih =>
    cases v with
    | table es =>
      rw [List.cons_append, at?, at?]
      cases Entries.get? es k with
      | none => rfl
      | some w => exact ih w
    | _ => rfl

theorem exists_table_of_at? {k : String} {ks : List String} {v w : Value} (h : at? (k :: ks) v = some w) :
    ∃ es, v = .table es := by
  cases v with
  | table es => exact ⟨es, rfl⟩
  | _ => cases h

/-- A plain value, or that there is a table. -/
def face : Value → Value
  | .table _ => .table []
  | v => v

/-- What a way of keys leads to, as far as it shows by itself. -/
def look (v : Value) (path : List String) : Option Value := (at? path v).map face

theorem look_cons (k : String) (ks : List String) (es : Entries) :
    look (.table es) (k :: ks) = (Entries.get? es k).bind (look · ks) := by
  rw [look, at?]
  cases Entries.get? es k <;> rfl

theorem look_set (k key : String) (v : Value) (es : Entries) (ks : List String) :
    look (.table (Entries.set key v es)) (k :: ks) = if k = key then look v ks else look (.table es) (k :: ks) := by
  rw [look_cons, Entries.get?_set]
  by_cases h : k = key
  · simp [h]
  · simp [h, look_cons]

theorem exists_table_of_face {v : Value} (h : v.face = .table []) : ∃ es, v = .table es := by
  cases v with
  | table es => exact ⟨es, rfl⟩
  | _ => cases h

theorem exists_table_of_look {v : Value} {path : List String} (h : look v path = some (.table [])) :
    ∃ es, at? path v = some (.table es) := by
  obtain ⟨w, hat, hface⟩ := Option.map_eq_some_iff.mp h
  obtain ⟨es, rfl⟩ := exists_table_of_face hface
  exact ⟨es, hat⟩

theorem look_empty {path : List String} (h : path ≠ []) : look (.table []) path = none := by
  obtain ⟨k, ks, rfl⟩ := List.exists_cons_of_ne_nil h
  rfl

end Value

/-- Settings in which every way of keys leads to the same. -/
def Entries.Agree (es es' : Entries) : Prop := ∀ path, Value.look (.table es) path = Value.look (.table es') path

namespace Toml

open Value

/-! ### Headers -/

theorem enter_cons {passed passed₁ passed₂ : List String} {k : String} {ks : List String} {es : Entries}
    {child part : Value} {hops : List Hop} (hchild : childFor false passed k ks.isEmpty es = .ok (child, passed₁))
    (henter : enter false passed₁ ks child = .ok (part, hops, passed₂)) :
    enter false passed (k :: ks) (.table es) = .ok (.table (Entries.set k part es), .key k :: hops, passed₂) := by
  rw [enter, hchild]
  simp only [focus, bind, Except.bind, henter]
  rfl

/-- A child that changes only along the rest of a path changes its parent only along the whole path. -/
theorem look_set_frame {k : String} {ks : List String} {es : Entries} {child child' : Value}
    (hchild : ∀ r, ¬ r <+: ks → look child' r = look child r)
    (hold : ∀ r, r ≠ [] → look (.table es) (k :: r) = look child r) {q : List String} (hq : ¬ q <+: k :: ks) :
    look (.table (Entries.set k child' es)) q = look (.table es) q := by
  cases q with
  | nil => exact absurd List.nil_prefix hq
  | cons k' r =>
    rw [look_set]
    split
    next heq =>
      subst heq
      have hr : ¬ r <+: ks := fun h => hq ((List.prefix_cons_inj k').mpr h)
      have hne : r ≠ [] := by
        rintro rfl
        exact hr List.nil_prefix
      rw [hchild r hr, hold r hne]
    next => rfl

/-- A table is made under a key if it is made in what stands there, or in an empty table where nothing does. -/
theorem enter_below {passed passed₁ passed₂ : List String} {k : String} {ks : List String} {es : Entries}
    {child child' : Value} (hchild : childFor false passed k ks.isEmpty es = .ok (child, passed₁))
    (henter : enter false passed₁ ks child = .ok (child', ks.map Hop.key, passed₂))
    (hat : at? ks child' = some (.table [])) (hframe : ∀ r, ¬ r <+: ks → look child' r = look child r)
    (hold : ∀ r, r ≠ [] → look (.table es) (k :: r) = look child r) :
    ∃ root' passed', enter false passed (k :: ks) (.table es) = .ok (root', (k :: ks).map Hop.key, passed') ∧
      at? (k :: ks) root' = some (.table []) ∧ ∀ q, ¬ q <+: k :: ks → look root' q = look (.table es) q := by
  refine ⟨.table (Entries.set k child' es), passed₂, enter_cons hchild henter, ?_, ?_⟩
  · rw [at?, Entries.get?_set, if_pos rfl]
    exact hat
  · exact fun q hq => look_set_frame hframe hold hq

/-- A header of a table that is not there makes it, along with the tables on the way, and nothing else changes. -/
theorem enter_new {path : List String} (hpath : path ≠ []) {root : Value} (hroot : look root [] = some (.table []))
    (hway : ∀ q, q <+: path → look root q = none ∨ look root q = some (.table [])) (hnew : look root path = none)
    (passed : List String) :
    ∃ root' passed', enter false passed path root = .ok (root', path.map Hop.key, passed') ∧
      at? path root' = some (.table []) ∧ ∀ q, ¬ q <+: path → look root' q = look root q := by
  induction path generalizing root passed with
  | nil => exact absurd rfl hpath
  | cons k ks ih =>
    obtain ⟨es, rfl⟩ := exists_table_of_face (Option.some.inj hroot)
    cases hget : Entries.get? es k with
    | none =>
      have hold : ∀ r, r ≠ [] → look (.table es) (k :: r) = look (.table []) r := by
        intro r hr
        rw [look_cons, hget, look_empty hr]
        rfl
      cases ks with
      | nil => exact enter_below (by rw [childFor, hget]; rfl) rfl rfl (fun _ _ => rfl) hold
      | cons k' ks =>
        have hway' : ∀ q, q <+: k' :: ks → look (.table []) q = none ∨ look (.table []) q = some (.table []) := by
          intro q _
          by_cases hq : q = []
          · exact .inr (by rw [hq]; rfl)
          · exact .inl (look_empty hq)
        obtain ⟨child', passed', henter, hat, hframe⟩ :=
          ih (List.cons_ne_nil k' ks) rfl hway' (look_empty (List.cons_ne_nil k' ks)) (passed ++ [k])
        exact enter_below (by rw [childFor, hget]; rfl) henter hat hframe hold
    | some child =>
      have hold : ∀ r, look (.table es) (k :: r) = look child r := by
        intro r
        rw [look_cons, hget]
        rfl
      cases ks with
      | nil =>
        rw [hold] at hnew
        cases hnew
      | cons k' ks =>
        have hway' : ∀ q, q <+: k' :: ks → look child q = none ∨ look child q = some (.table []) := by
          intro q hq
          rw [← hold]
          exact hway (k :: q) ((List.prefix_cons_inj k).mpr hq)
        have hface : look child [] = some (.table []) := (hway' [] List.nil_prefix).resolve_left (Option.some_ne_none _)
        obtain ⟨child', passed', henter, hat, hframe⟩ :=
          ih (List.cons_ne_nil k' ks) hface hway' ((hold _).symm.trans hnew) passed
        exact enter_below (by rw [childFor, hget]; rfl) henter hat hframe fun r _ => hold r

/-! ### Keys -/

/-- A change of the table at a path changes nothing that does not lie behind the path. -/
theorem changeAt_table {f : Value → Except Fault (Value × Option LongText)} {path : List String} {root : Value}
    {es es' : Entries} (hat : at? path root = some (.table es)) (hf : f (.table es) = .ok (.table es', none)) :
    ∃ root', changeAt f (path.map Hop.key) root = .ok (root', none) ∧ at? path root' = some (.table es') ∧
      ∀ q, (¬ path <+: q ∨ q = path) → look root' q = look root q := by
  induction path generalizing root with
  | nil =>
    cases hat
    refine ⟨.table es', hf, rfl, ?_⟩
    rintro q (hq | rfl)
    · exact absurd List.nil_prefix hq
    · rfl
  | cons k ks ih =>
    cases root with
    | table rs =>
      rw [at?] at hat
      obtain ⟨child, hget, hchild⟩ := Option.bind_eq_some_iff.mp hat
      obtain ⟨child', hchange, hat', hframe⟩ := ih hchild
      refine ⟨.table (Entries.set k child' rs), ?_, ?_, ?_⟩
      · rw [List.map_cons, changeAt, hget, Option.getD_some, hchange]
        rfl
      · rw [at?, Entries.get?_set, if_pos rfl]
        exact hat'
      · intro q hq
        cases q with
        | nil => rfl
        | cons k' r =>
          rw [look_set]
          split
          next heq =>
            subst heq
            rw [look_cons, hget, Option.bind_some]
            refine hframe r (hq.imp (fun h hp => h ((List.prefix_cons_inj k').mpr hp)) fun h => ?_)
            exact (List.cons.inj h).2
          next => rfl
    | _ => cases hat

def addKey (k : String) (v t : Value) : Except Fault (Value × Option LongText) := do return (← setAt (some v) [k] t, none)

theorem addKey_new {es : Entries} {k : String} (h : Entries.get? es k = none) (v : Value) :
    addKey k v (.table es) = .ok (.table (Entries.set k v es), none) := by
  have hhas : Entries.has es k = false := by
    rw [Entries.has, Option.isSome_eq_false_iff, Option.isNone_iff_eq_none]
    exact h
  simp only [addKey, setAt, hhas]
  rfl

/-- Setting a key that is not there, in the table at a path. -/
theorem changeAt_set {path : List String} {root : Value} {es : Entries} (hat : at? path root = some (.table es))
    {k : String} (hnew : Entries.get? es k = none) (v : Value) :
    ∃ root', changeAt (addKey k v) (path.map Hop.key) root = .ok (root', none) ∧
      at? path root' = some (.table (Entries.set k v es)) ∧
      ∀ q, ¬ path ++ [k] <+: q → look root' q = look root q := by
  obtain ⟨root', hchange, hat', hframe⟩ := changeAt_table hat (addKey_new hnew v)
  refine ⟨root', hchange, hat', fun q hq => ?_⟩
  by_cases hpath : path <+: q
  · obtain ⟨r, rfl⟩ := hpath
    cases r with
    | nil => exact hframe _ (.inr (List.append_nil path))
    | cons k' r =>
      have hne : k' ≠ k := by
        rintro rfl
        exact hq ⟨r, by simp⟩
      rw [look, look, at?_append, at?_append, hat, hat', Option.bind_some, Option.bind_some]
      exact (look_set k' k v es r).trans (if_neg hne)
  · exact hframe q (.inl hpath)

end Toml

end ChangeGraph
