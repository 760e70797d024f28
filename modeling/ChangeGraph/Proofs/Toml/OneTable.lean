import ChangeGraph.Proofs.Toml.RoundTrip

/-!
# One table of plain values

Settings that are one table of plain values are read back entry by entry in their order, not only as far as ways of keys
tell.
-/

namespace ChangeGraph.Toml

open Value

variable {name : String} {es : Entries}

theorem plainEntries_of_plain (h : ∀ e ∈ es, isTable e.2 = false) : plainEntries es = es := by
  rw [plainEntries, List.filter_eq_self]
  intro e he
  rw [h e he]
  rfl

theorem levels_nil (n : Nat) : levels n [] = [] := by
  induction n with
  | zero => rfl
  | succ n ih => exact ih

theorem sections_oneTable (h : ∀ e ∈ es, isTable e.2 = false) : sections [(name, .table es)] = [⟨[name], es⟩] := by
  have hnone : (es.filter fun e => isTable e.2) = [] := by
    rw [List.filter_eq_nil_iff]
    intro e he
    rw [h e he]
    decide
  have hsub : Section.subtables ⟨[name], es⟩ = [] := by rw [Section.subtables, hnone, List.map_nil]
  have htop : (Section.top [(name, .table es)]).subtables = [⟨[name], es⟩] := rfl
  have hheader : Section.hasHeader ⟨[name], es⟩ = true := by simp [Section.hasHeader, hsub]
  rw [sections, htop, levels, List.flatMap_cons, hsub, List.flatMap_nil, List.append_nil, levels_nil, List.append_nil,
    List.filter_cons_of_pos hheader, List.filter_nil]

theorem changeAt_oneTable {done : Entries} {k : String} (hnew : k ∉ done.map Prod.fst) (v : Value) :
    changeAt (addKey k v) [.key name] (.table [(name, .table done)]) =
      .ok (.table [(name, .table (done ++ [(k, v)]))], none) := by
  have hhere : Entries.get? [(name, Value.table done)] name = some (.table done) := by
    rw [Entries.get?_cons, if_pos rfl]
  have hset : Entries.set name (.table (done ++ [(k, v)])) [(name, Value.table done)] =
      [(name, .table (done ++ [(k, v)]))] := by
    rw [Entries.set, if_pos (by simp)]
  rw [changeAt, hhere, Option.getD_some, changeAt, addKey_new (Entries.get?_eq_none hnew), Entries.set_of_notMem hnew]
  exact congrArg (fun fs => Except.ok (Value.table fs, none)) hset

theorem run_oneTable {done : Entries} (hes : ∀ e ∈ es, isBare e.1.toList = true ∧ WrittenAs e.2 (textOf e.2))
    (hnodup : ((done ++ es).map Prod.fst).Nodup) {s : State} (hlong : s.long = none) (hhere : s.here = [.key name])
    (hroot : s.root = .table [(name, .table done)]) :
    ∃ t : State, Run s (es.map fun e => entryLine e.1.toList (textOf e.2)) t ∧
      t.root = .table [(name, .table (done ++ es))] := by
  induction es generalizing s done with
  | nil => exact ⟨s, .nil hlong, by rw [hroot, List.append_nil]⟩
  | cons e es ih =>
    obtain ⟨k, v⟩ := e
    obtain ⟨hbare, hwritten⟩ := hes (k, v) List.mem_cons_self
    have hassoc : done ++ (k, v) :: es = (done ++ [(k, v)]) ++ es := by simp
    have hnew : k ∉ done.map Prod.fst := Entries.notMem_of_nodup hnodup
    have hstep : s.step (entryLine k.toList (textOf v)) =
        .ok { s with root := .table [(name, .table (done ++ [(k, v)]))], long := none } := by
      rw [State.step_entryLine hbare hwritten hlong, String.ofList_toList, hhere, hroot, changeAt_oneTable hnew]
      rfl
    rw [hassoc] at hnodup ⊢
    obtain ⟨t, hrun, ht⟩ := ih (fun e he => hes e (List.mem_cons_of_mem _ he)) hnodup
      (s := { s with root := .table [(name, .table (done ++ [(k, v)]))], long := none }) rfl hhere rfl
    exact ⟨t, .cons hlong hstep hrun, ht⟩

theorem read_write_oneTable (hname : isBare name.toList = true) (h : keepsEntries es = true)
    (hplain : ∀ e ∈ es, isTable e.2 = false) :
    ∃ text, write [(name, .table es)] = .ok text ∧ '\r' ∉ text.toList ∧ read text = .ok [(name, .table es)] := by
  have hkeeps : keepsEntries [(name, .table es)] = true := by
    rw [keepsEntries_cons]
    exact ⟨hname, by simp, h, rfl⟩
  obtain ⟨text, hwrite, hlines⟩ := write_eq hkeeps
  have hgood := goodLine_of_mem hkeeps
  have hwritten : ∀ e ∈ es, isBare e.1.toList = true ∧ WrittenAs e.2 (textOf e.2) := by
    have hmem := writtenAs_of_mem_plainEntries h
    rwa [plainEntries_of_plain hplain] at hmem
  have hstep : ({} : State).step (headerLine (nameOf [name])) =
      .ok { root := .table [(name, .table [])], here := [.key name], passed := [], long := none } := by
    rw [State.step_headerLine (by simp) (by simpa using hname) rfl]
    rfl
  have hnodup : ((([] : Entries) ++ es).map Prod.fst).Nodup := (keepsEntries_iff.mp h).2
  obtain ⟨t, hrun, hroot⟩ := run_oneTable hwritten hnodup
    (s := { root := .table [(name, .table [])], here := [.key name], passed := [], long := none }) rfl rfl rfl
  have hall : entryLines [(name, .table es)] ++ (sections [(name, .table es)]).flatMap Section.lines =
      headerLine (nameOf [name]) :: es.map fun e => entryLine e.1.toList (textOf e.2) := by
    rw [sections_oneTable hplain, List.flatMap_cons, List.flatMap_nil, List.append_nil, Section.lines, entryLines,
      entryLines, plainEntries_of_plain hplain]
    rfl
  rw [hall] at hlines hgood
  refine ⟨text, hwrite, hlines.notMem (by decide) fun l hl => (hgood l hl).noReturn, ?_⟩
  exact read_of_run hlines (fun l hl => ⟨(hgood l hl).passes, (hgood l hl).oneLine⟩) (.cons rfl hstep hrun) hroot

end ChangeGraph.Toml
