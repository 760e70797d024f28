import ChangeGraph.Files.Tree
import ChangeGraph.Proofs.Outcome
import Mathlib.Data.List.Basic

/-!
# Files that are there

What a host has to do for a file that it holds, and that a tree in memory does it: opening a file empties it, adding puts
octets behind those that are there, and making directories leaves every file where it is, since a way through directories
stays one.
-/

namespace ChangeGraph

/-- A host that holds what is at a path. Asking changes nothing, and making a directory leaves the octets that are there.
Opening the file for writing takes them away, unless it fails; adding to it may fail when some of the octets are there. -/
structure Host.Holds {σ : Type} (host : Host (StateM σ)) (path : String) (held : σ → Option (List UInt8)) : Prop where
  kind : ∀ {s bs}, held s = some bs → ∃ k, host.kind path s = (some k, s)
  read : ∀ {s bs}, held s = some bs → host.read path s = (.ok bs, s)
  clear : ∀ {s bs}, held s = some bs →
    (∃ t, host.clear path s = (.ok (), t) ∧ held t = some []) ∨
      ∃ f t, host.clear path s = (.error f, t) ∧ held t = some bs
  append : ∀ {s bs} new, held s = some bs →
    (∃ t, host.append path new s = (.ok (), t) ∧ held t = some (bs ++ new)) ∨
      ∃ f t part, host.append path new s = (.error f, t) ∧ part <+: new ∧ held t = some (bs ++ part)
  makeDirectory : ∀ {s bs} directory, held s = some bs →
    ∃ r t, host.makeDirectory directory s = (r, t) ∧ held t = some bs

theorem Host.write_eq_ok_iff {σ : Type} {host : Host (StateM σ)} {path : String} {bs : List UInt8} {s u : σ} :
    host.write path bs s = (.ok (), u) ↔ ∃ t, host.clear path s = (.ok (), t) ∧ host.append path bs t = (.ok (), u) := by
  simp only [Host.write, bind, StateT.bind]
  rcases hclear : host.clear path s with ⟨f | ⟨⟩, t⟩
  · constructor
    · intro h
      cases h
    · rintro ⟨t', ht', -⟩
      cases ht'
  · constructor
    · intro h
      exact ⟨t, rfl, h⟩
    · rintro ⟨t', ht', h⟩
      cases ht'
      exact h

namespace FileTree

theorem kindAt_eq_directory {t : FileTree} {r : Route} :
    t.kindAt r = some .directory ↔ t.bytes? r = none ∧ t.isDirectory r = true := by
  unfold kindAt
  cases hbytes : t.bytes? r with
  | some bs => simp
  | none => cases hdir : t.isDirectory r <;> simp

theorem kindAt_of_bytes? {t : FileTree} {r : Route} {bs : List UInt8} (h : t.bytes? r = some bs) :
    t.kindAt r = some .file := by
  rw [kindAt, h]
  rfl

/-- A way through directories stays one where they stay directories. -/
theorem follow_mono {t u : FileTree} (h : ∀ r, t.kindAt r = some .directory → u.kindAt r = some .directory)
    {names : List String} {place r : Route} (hr : t.follow place names = .ok r) : u.follow place names = .ok r := by
  induction names generalizing place with
  | nil => exact hr
  | cons n ns ih =>
    rw [follow] at hr ⊢
    cases hkind : t.kindAt place with
    | none =>
      rw [hkind] at hr
      cases hr
    | some k =>
      rw [hkind] at hr
      cases k with
      | file => cases hr
      | directory =>
        rw [h place hkind]
        simp only at hr ⊢
        split_ifs at hr ⊢ <;> exact ih hr

theorem locate_mono {t u : FileTree} (h : ∀ r, t.kindAt r = some .directory → u.kindAt r = some .directory)
    {path : String} {r : Route} (hr : t.locate path = .ok r) : u.locate path = .ok r := by
  rw [locate] at hr ⊢
  split_ifs at hr ⊢
  exact follow_mono h hr

theorem read_eq_ok {t : FileTree} {path : String} {bs : List UInt8} :
    t.read path = .ok bs ↔ ∃ r, t.locate path = .ok r ∧ t.bytes? r = some bs := by
  unfold read
  cases t.locate path with
  | error cause => simp
  | ok r => cases hbytes : t.bytes? r <;> simp [hbytes]

/-! ### Writing to a file that is there -/

theorem lookup_map_put {files : List (Route × List UInt8)} {r r' : Route} {bs : List UInt8} :
    (files.map fun f => if f.1 == r then (r, bs) else f).lookup r' =
      (files.lookup r').map fun old => if r' = r then bs else old := by
  induction files with
  | nil => rfl
  | cons f files ih =>
    obtain ⟨r₀, bs₀⟩ := f
    have hkey : (if (r₀ == r) = true then (r, bs) else (r₀, bs₀)) = (r₀, if r₀ = r then bs else bs₀) := by
      by_cases hr : r₀ = r <;> simp [hr]
    rw [List.map_cons, hkey, List.lookup_cons, List.lookup_cons, ih]
    by_cases hr' : r' = r₀
    · simp [hr']
    · simp [beq_false_of_ne hr']

theorem bytes?_put {t : FileTree} {r : Route} (h : (t.bytes? r).isSome = true) (bs : List UInt8) (r' : Route) :
    (t.put r bs).bytes? r' = (t.bytes? r').map fun old => if r' = r then bs else old := by
  rw [put, if_pos h]
  exact lookup_map_put

theorem isDirectory_put {t : FileTree} {r : Route} (h : (t.bytes? r).isSome = true) (bs : List UInt8) (r' : Route) :
    (t.put r bs).isDirectory r' = t.isDirectory r' := by
  rw [put, if_pos h]
  simp only [isDirectory, List.any_map]
  congr 2
  funext f
  by_cases hf : f.1 = r <;> simp [hf]

theorem kindAt_put {t : FileTree} {r : Route} (h : (t.bytes? r).isSome = true) (bs : List UInt8) (r' : Route) :
    (t.put r bs).kindAt r' = t.kindAt r' := by
  rw [kindAt, kindAt, bytes?_put h, isDirectory_put h, Option.isSome_map]

theorem write_of_read {t : FileTree} {path : String} {old : List UInt8} (h : t.read path = .ok old)
    (new : List UInt8) : ∃ u, t.write path new = .ok u ∧ u.read path = .ok new := by
  obtain ⟨r, hlocate, hbytes⟩ := read_eq_ok.mp h
  have hsome : (t.bytes? r).isSome = true := by rw [hbytes]; rfl
  refine ⟨t.put r new, ?_, read_eq_ok.mpr ⟨r, ?_, ?_⟩⟩
  · rw [write, hlocate]
    simp only [kindAt_of_bytes? hbytes]
  · exact locate_mono (fun r' hr' => (kindAt_put hsome new r').trans hr') hlocate
  · simp [bytes?_put hsome, hbytes]

theorem append_of_read {t : FileTree} {path : String} {old : List UInt8} (h : t.read path = .ok old)
    (new : List UInt8) : ∃ u, t.append path new = .ok u ∧ u.read path = .ok (old ++ new) := by
  rw [append, h]
  exact write_of_read h (old ++ new)

/-! ### Making directories -/

theorem isDirectory_mono {t : FileTree} {r r' : Route} (h : t.isDirectory r' = true) :
    isDirectory { t with directories := t.directories ++ [r] } r' = true := by
  simp only [isDirectory, Bool.or_eq_true, List.any_append] at h ⊢
  rcases h with (h | h) | h
  · exact .inl (.inl h)
  · exact .inl (.inr (.inl h))
  · exact .inr h

theorem read_makeDirectory {t u : FileTree} {directory path : String} {bs : List UInt8}
    (hu : t.makeDirectory directory = .ok u) (h : t.read path = .ok bs) : u.read path = .ok bs := by
  rw [makeDirectory] at hu
  split at hu
  · cases hu
    exact h
  · cases hu
  · split at hu
    · cases hu
    · cases hu
      obtain ⟨r, hlocate, hbytes⟩ := read_eq_ok.mp h
      refine read_eq_ok.mpr ⟨r, locate_mono (fun r' hr' => ?_) hlocate, hbytes⟩
      obtain ⟨hnone, hdir⟩ := kindAt_eq_directory.mp hr'
      exact kindAt_eq_directory.mpr ⟨hnone, isDirectory_mono hdir⟩

end FileTree

namespace World

def held (path : String) (w : World) : Option (List UInt8) := (w.tree.read path).toOption

theorem held_eq_some {path : String} {w : World} {bs : List UInt8} :
    held path w = some bs ↔ w.tree.read path = .ok bs :=
  toOption_eq_some_iff

theorem change_ok {f : FileTree → Except FileFault FileTree} {w : World} {tree : FileTree} (h : f w.tree = .ok tree) :
    change f w = (.ok (), { w with tree }) := by
  simp only [change, bind, StateT.bind, get, getThe, MonadStateOf.get, StateT.get, pure]
  rw [h]
  rfl

theorem change_error {f : FileTree → Except FileFault FileTree} {w : World} {e : FileFault} (h : f w.tree = .error e) :
    change f w = (.error e, w) := by
  simp only [change, bind, StateT.bind, get, getThe, MonadStateOf.get, StateT.get, pure]
  rw [h]
  rfl

theorem holds (path : String) : host.Holds path (held path) where
  kind := by
    intro w bs h
    obtain ⟨r, hlocate, hbytes⟩ := FileTree.read_eq_ok.mp (held_eq_some.mp h)
    have hkind : w.tree.kind path = some .file := by
      rw [FileTree.kind, hlocate]
      exact FileTree.kindAt_of_bytes? hbytes
    exact ⟨.file, congrArg (·, w) hkind⟩
  read := fun {w} _ h => congrArg (·, w) (held_eq_some.mp h)
  clear := by
    intro w bs h
    obtain ⟨tree, hwrite, hread⟩ := FileTree.write_of_read (held_eq_some.mp h) []
    exact .inl ⟨{ w with tree }, change_ok (f := (·.write path [])) hwrite, held_eq_some.mpr hread⟩
  append := by
    intro w bs new h
    obtain ⟨tree, happend, hread⟩ := FileTree.append_of_read (held_eq_some.mp h) new
    exact .inl ⟨{ w with tree }, change_ok (f := (·.append path new)) happend, held_eq_some.mpr hread⟩
  makeDirectory := by
    intro w bs directory h
    cases hmake : w.tree.makeDirectory directory with
    | error f => exact ⟨.error f, w, change_error (f := (·.makeDirectory directory)) hmake, h⟩
    | ok tree =>
      have hread := FileTree.read_makeDirectory hmake (held_eq_some.mp h)
      exact ⟨.ok (), { w with tree }, change_ok (f := (·.makeDirectory directory)) hmake, held_eq_some.mpr hread⟩

end World

end ChangeGraph
