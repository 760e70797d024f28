import ChangeGraph.Value.Basic
import Mathlib.Data.List.Basic
import Mathlib.Tactic.Common

/-! # Entries by their keys -/

namespace ChangeGraph

namespace Entries

theorem get?_cons (k key : String) (v : Value) (es : Entries) :
    get? ((key, v) :: es) k = if k = key then some v else get? es k := by
  by_cases h : k = key
  · simp [get?, h]
  · have hb : (k == key) = false := beq_eq_false_iff_ne.mpr h
    simp [get?, List.lookup_cons, h, hb]

theorem get?_set (k key : String) (v : Value) (es : Entries) :
    get? (set key v es) k = if k = key then some v else get? es k := by
  induction es with
  | nil => rw [set, get?_cons]
  | cons e es ih =>
    obtain ⟨k', w⟩ := e
    by_cases hkey : k' = key
    · subst hkey
      rw [set, if_pos (by simp), get?_cons, get?_cons]
      by_cases h : k = k' <;> simp [h]
    · rw [set, if_neg (by simpa using hkey), get?_cons, get?_cons, ih]
      by_cases h : k = k'
      · simp [h, hkey]
      · simp [h]

theorem get?_eq_none {k : String} {es : Entries} (h : k ∉ es.map Prod.fst) : get? es k = none := by
  induction es with
  | nil => rfl
  | cons e es ih =>
    rw [List.map_cons, List.mem_cons, not_or] at h
    rw [get?_cons, if_neg h.1, ih h.2]

/-- A new key goes behind the entries that are there. -/
theorem set_of_notMem {k : String} {es : Entries} (h : k ∉ es.map Prod.fst) (v : Value) :
    set k v es = es ++ [(k, v)] := by
  induction es with
  | nil => rfl
  | cons e es ih =>
    rw [List.map_cons, List.mem_cons, not_or] at h
    rw [set, if_neg (by simpa using Ne.symm h.1), ih h.2, List.cons_append]

theorem notMem_of_nodup {done es : Entries} {k : String} {v : Value}
    (h : ((done ++ (k, v) :: es).map Prod.fst).Nodup) : k ∉ done.map Prod.fst := by
  rw [List.map_append, List.nodup_append] at h
  exact fun hk => h.2.2 k hk k List.mem_cons_self rfl

end Entries

end ChangeGraph
