import ChangeGraph.Command.Run
import ChangeGraph.Proofs.Settings.Saving
import ChangeGraph.Proofs.Settings.Words
import ChangeGraph.Proofs.Toml.OneTable

/-!
# The last write wins

Setting options one after another, from no file of settings on, ends with each option as it was last set. Every command
reads the file that the one before it has written, so the file always holds all options and nothing else.
-/

namespace ChangeGraph

/-- A host where a file can be written at a path whether it is there or not. The states it goes through are `fine`. -/
structure Host.Stores {σ : Type} (host : Host (StateM σ)) (path : String) (held : σ → Option (List UInt8))
    (fine : σ → Prop) : Prop where
  kind : ∀ {s}, fine s → ∃ k, host.kind path s = (k, s) ∧ k.isSome = (held s).isSome
  read : ∀ {s bs}, fine s → held s = some bs → host.read path s = (.ok bs, s)
  store : ∀ {s} new, fine s → ∃ t u, host.makeDirectory (Path.parent path) s = (.ok (), t) ∧
    host.write path new t = (.ok (), u) ∧ fine u ∧ held u = some new

/-- Limits that a file of settings can hold. -/
def GraphOptions.Short (o : GraphOptions) : Prop :=
  ∀ key n, o.get key = .int n → (toString n.natAbs).length ≤ Text.digitLimit

namespace Settings

open GraphOptions (Key)

/-! ### The options in the file -/

def onlyOptions (o : GraphOptions) : Entries := [(tableName, .table o.entries)]

theorem lookup_entries (o : GraphOptions) (key : Key) : o.entries.lookup key.name = some (o.get key) := by
  cases key <;> rfl

theorem keepsEntries_entries {o : GraphOptions} (h : o.Short) : Toml.keepsEntries o.entries = true := by
  have hnames : (o.entries.map Prod.fst).Nodup := by
    have hlist : o.entries.map Prod.fst = Key.all.map Key.name := rfl
    rw [hlist]
    decide
  refine Toml.keepsEntries_iff.mpr ⟨fun e he => ?_, hnames⟩
  obtain ⟨key, -, rfl⟩ := List.mem_map.mp he
  have hbare : Toml.isBare key.name.toList = true := by cases key <;> decide
  refine ⟨hbare, ?_⟩
  have hshort := h key
  cases key with
  | showExternal => rfl
  | _ => exact decide_eq_true (hshort _ rfl)

theorem ofFile_onlyOptions {o : GraphOptions} (h : o.Short) (path : String) :
    ∃ text, Format.toml.write (onlyOptions o) = .ok text ∧
      ofFile .toml path (.ok (Text.Utf8.encode text)) = .ok (onlyOptions o, []) := by
  have hplain : ∀ e ∈ o.entries, Toml.isTable e.2 = false := by
    intro e he
    obtain ⟨key, -, rfl⟩ := List.mem_map.mp he
    cases key <;> rfl
  have hbare : Toml.isBare tableName.toList = true := by decide
  obtain ⟨text, hwrite, hreturn, hread⟩ := Toml.read_write_oneTable hbare (keepsEntries_entries h) hplain
  have hread : Format.toml.read text = .ok (onlyOptions o) := hread
  refine ⟨text, hwrite, ?_⟩
  rw [ofFile, Text.Utf8.read_encode]
  simp only
  rw [Text.withPlainLineEnds_of_notMem hreturn, ofText, hread]

theorem options_onlyOptions (o : GraphOptions) (path : String) : options path (onlyOptions o) = (.ok o, []) := by
  have hknown : ∀ e ∈ o.entries, (Key.ofName? e.1).isSome = true := by
    intro e he
    obtain ⟨key, -, rfl⟩ := List.mem_map.mp he
    rw [Key.ofName?_name]
    rfl
  have hall : o.entries.filter (fun e => (Key.ofName? e.1).isSome) = o.entries := List.filter_eq_self.mpr hknown
  have hnone : o.entries.filter (fun e => !(Key.ofName? e.1).isSome) = [] := by
    rw [List.filter_eq_nil_iff]
    intro e he
    simp [hknown e he]
  have hreplace : GraphOptions.replace {} o.entries = .ok o := by
    rw [GraphOptions.replace_eq_ok_iff]
    intro key
    rw [lookup_entries, Option.getD_some]
  have htable : (onlyOptions o).lookup tableName = some (.table o.entries) := by simp [onlyOptions]
  rw [options, htable, Option.getD_some]
  simp only [hall, hnone, hreplace]
  rfl

/-- The file is not there and the options are those by default, or it holds the options and nothing else. -/
structure Saved {σ : Type} (held : σ → Option (List UInt8)) (fine : σ → Prop) (o : GraphOptions) (s : σ) : Prop where
  isFine : fine s
  short : o.Short
  file : held s = none ∧ o = {} ∨
    ∃ text, Format.toml.write (onlyOptions o) = .ok text ∧ held s = some (Text.Utf8.encode text)

section File

variable {σ : Type} {host : Host (StateM σ)} {path : String} {held : σ → Option (List UInt8)} {fine : σ → Prop} {s : σ}
  {o o' : GraphOptions}

theorem result_loadAll (hhost : host.Stores path held fine) (h : Saved held fine o s) (ns : List Notice) :
    ∃ es, result (loadAll .toml host path) ns s = ((.ok es, ns), s) ∧ options path es = (.ok o, []) ∧
      ∀ o', withOptions o' es = onlyOptions o' := by
  obtain ⟨k, hkind, hsome⟩ := hhost.kind h.isFine
  rcases h.file with ⟨hnone, rfl⟩ | ⟨text, hwrite, hheld⟩
  · refine ⟨[], ?_, rfl, fun _ => rfl⟩
    rw [hnone, Option.isSome_none, Option.isSome_eq_false_iff, Option.isNone_iff_eq_none] at hsome
    rw [loadAll, result_bind_ok (result_lift hkind), hsome]
    rfl
  · obtain ⟨text', hwrite', hfile⟩ := ofFile_onlyOptions h.short path
    rw [hwrite] at hwrite'
    obtain rfl := Except.ok.inj hwrite'
    refine ⟨onlyOptions o, ?_, options_onlyOptions o path, fun o' => by simp [withOptions, onlyOptions, Entries.set]⟩
    rw [hheld, Option.isSome_some] at hsome
    obtain ⟨kind, rfl⟩ := Option.isSome_iff_exists.mp hsome
    rw [loadAll, result_bind_ok (result_lift hkind)]
    simp only
    rw [result_bind_ok (result_lift (hhost.read h.isFine hheld)), hfile]
    exact congrArg (fun told => ((Except.ok (onlyOptions o), told), s)) (List.append_nil ns)

theorem result_load (hhost : host.Stores path held fine) (h : Saved held fine o s) (ns : List Notice) :
    result (load .toml host path) ns s = ((.ok o, ns), s) := by
  obtain ⟨es, hload, hoptions, -⟩ := result_loadAll hhost h ns
  rw [load, result_bind_ok hload, hoptions]
  exact congrArg (fun told => ((Except.ok o, told), s)) (List.append_nil ns)

theorem result_save (hhost : host.Stores path held fine) (h : Saved held fine o s) (hshort : o'.Short)
    (ns : List Notice) : ∃ t, result (save .toml host path o') ns s = ((.ok true, ns), t) ∧ Saved held fine o' t := by
  obtain ⟨es, hload, -, hwith⟩ := result_loadAll hhost h ns
  obtain ⟨text, hwrite, -⟩ := ofFile_onlyOptions hshort path
  obtain ⟨t, u, hmake, hput, hu, hheld⟩ := hhost.store (Text.Utf8.encode text) h.isFine
  obtain ⟨v, hclear, happend⟩ := Host.write_eq_ok_iff.mp hput
  have hputs : result (put .toml host path (onlyOptions o')) ns s = ((.ok (.ok ()), ns), u) := by
    rw [put, result_bind_ok (result_lift hmake)]
    simp only
    rw [result_bind_ok (result_lift hclear)]
    simp only [hwrite]
    exact result_lift happend
  refine ⟨u, ?_, ⟨hu, hshort, .inr ⟨text, hwrite, hheld⟩⟩⟩
  rw [save, result_bind_ok hload, hwith, result_bind_ok hputs]
  rfl

end File

/-! ### One command -/

section Command

variable {ε τ σ α β : Type}

/-- What a computation answers after what was told before and in a state, with all that is told and the state then. -/
def outcome (x : ExceptT ε (StateT τ (StateM σ)) α) (told : τ) (s : σ) : (Except ε α × τ) × σ := (x.run.run told).run s

theorem outcome_bind (x : ExceptT ε (StateT τ (StateM σ)) α) (f : α → ExceptT ε (StateT τ (StateM σ)) β) (told : τ)
    (s : σ) : outcome (x >>= f) told s =
      (ExceptT.bindCont f (outcome x told s).1.1 (outcome x told s).1.2) (outcome x told s).2 := rfl

theorem outcome_bind_ok {x : ExceptT ε (StateT τ (StateM σ)) α} {f : α → ExceptT ε (StateT τ (StateM σ)) β} {a : α}
    {told told' : τ} {s s' : σ} (h : outcome x told s = ((.ok a, told'), s')) :
    outcome (x >>= f) told s = outcome (f a) told' s' := by
  rw [outcome_bind, h]
  rfl

theorem outcome_bind_error {x : ExceptT ε (StateT τ (StateM σ)) α} {f : α → ExceptT ε (StateT τ (StateM σ)) β} {e : ε}
    {told told' : τ} {s s' : σ} (h : outcome x told s = ((.error e, told'), s')) :
    outcome (x >>= f) told s = ((.error e, told'), s') := by
  rw [outcome_bind, h]
  rfl

theorem outcome_noting {x : ExceptT ε (StateT (List Notice) (StateM σ)) α} {r : Except ε α} {ns : List Notice} {s t : σ}
    (h : outcome x [] s = ((r, ns), t)) (stop : ε → Stop) (out : Output) :
    outcome (Command.noting stop x) out s = ((r.mapError stop, { out with notices := out.notices ++ ns }), t) := by
  have hnoting : outcome (Command.noting stop x) out s =
      (fun q : (Except ε α × List Notice) × σ =>
        ((q.1.1.mapError stop, { out with notices := out.notices ++ q.1.2 }), q.2)) (outcome x [] s) := rfl
  rw [hnoting, h]

variable {host : Host (StateM σ)} {path : String} {s : σ} {o : GraphOptions}

theorem outcome_changed_error {name word : String} {f : WordFault} (h : readWord name word = .error f)
    (ns : List Notice) : outcome (changed .toml host path name word) ns s = ((.error (.word f), ns), s) := by
  have hword : outcome (ExceptT.mk (pure ((readWord name word).mapError SetFault.word)) :
      ExceptT SetFault (StateT (List Notice) (StateM σ)) (Key × Value)) ns s = ((.error (.word f), ns), s) := by
    rw [h]
    rfl
  rw [changed, outcome_bind_error hword]

theorem outcome_changed {name word : String} {key : Key} {v : Value} (h : readWord name word = .ok (key, v))
    {ns : List Notice} (hload : result (load .toml host path) ns s = ((.ok o, ns), s)) :
    outcome (changed .toml host path name word) ns s = (((o.replace [(key.name, v)]).mapError .value, ns), s) := by
  have hword : outcome (ExceptT.mk (pure ((readWord name word).mapError SetFault.word)) :
      ExceptT SetFault (StateT (List Notice) (StateM σ)) (Key × Value)) ns s = ((.ok (key, v), ns), s) := by
    rw [h]
    rfl
  have hstore : outcome (ExceptT.adapt SetFault.store (load .toml host path)) ns s = ((.ok o, ns), s) := by
    have hadapt : outcome (ExceptT.adapt SetFault.store (load .toml host path)) ns s =
        (fun r : (Except Fault GraphOptions × List Notice) × σ => ((r.1.1.mapError SetFault.store, r.1.2), r.2))
          (result (load .toml host path) ns s) := rfl
    rw [hadapt, hload]
    rfl
  rw [changed, outcome_bind_ok hword]
  simp only
  rw [outcome_bind_ok hstore]
  rfl

end Command

/-! ### The options after a command -/

theorem lookup_singleton (key k : Key) (v : Value) :
    List.lookup k.name [(key.name, v)] = if k = key then some v else none := by
  cases key <;> cases k <;> rfl

theorem replace_eq_ok_iff {o o' : GraphOptions} {key : Key} {v : Value} :
    o.replace [(key.name, v)] = .ok o' ↔ ∀ k, o'.get k = if k = key then v else o.get k := by
  rw [GraphOptions.replace_eq_ok_iff]
  refine forall_congr' fun k => ?_
  rw [lookup_singleton]
  split <;> rfl

theorem exists_replace (o : GraphOptions) {c : String × String} {key : Key} {v : Value} (h : Sets c key v) :
    ∃ o', o.replace [(key.name, v)] = .ok o' := by
  cases h with
  | @flag word b _ => exact ⟨{ o with showExternal := b }, replace_eq_ok_iff.mpr fun k => by cases k <;> rfl⟩
  | @limit key word n hkey _ =>
    cases key with
    | maxNodes => exact ⟨{ o with maxNodes := n }, replace_eq_ok_iff.mpr fun k => by cases k <;> rfl⟩
    | maxEdges => exact ⟨{ o with maxEdges := n }, replace_eq_ok_iff.mpr fun k => by cases k <;> rfl⟩
    | showExternal => exact absurd rfl hkey
    | maxSnippetLines => exact ⟨{ o with maxSnippetLines := n }, replace_eq_ok_iff.mpr fun k => by cases k <;> rfl⟩

theorem short_of_sets {o o' : GraphOptions} {c : String × String} {key : Key} {v : Value} (h : Sets c key v)
    (hget : ∀ k, o'.get k = if k = key then v else o.get k) (hshort : o.Short) : o'.Short := by
  intro k m hm
  rw [hget] at hm
  split at hm
  next =>
    subst hm
    cases h with
    | limit _ hread =>
      have hdigits := Text.length_toDigits_of_readInteger? hread
      rwa [← Nat.toList_repr, String.length_toList] at hdigits
  next => exact hshort k m hm

theorem short_default : GraphOptions.Short {} := by
  intro key n h
  cases key <;> cases h <;> decide

theorem get_ne_of_neg (o : GraphOptions) (key : Key) {n : Int} (h : n < 0) : o.get key ≠ .int n := by
  intro hget
  cases key <;> cases hget <;> omega

/-! ### Many commands -/

section Runs

variable {σ : Type} {p : Place (StateM σ)} {held : σ → Option (List UInt8)} {fine : σ → Prop} {s : σ} {o : GraphOptions}

/-- What setting an option by a name and a word answers. -/
def answer (p : Place (StateM σ)) (s : σ) (c : String × String) : Except Stop Unit :=
  (outcome (Command.runSetSetting p c.1 c.2) {} s).1.1

def after (p : Place (StateM σ)) (s : σ) (c : String × String) : σ :=
  (outcome (Command.runSetSetting p c.1 c.2) {} s).2

theorem set_ok (hhost : p.host.Stores p.settingsPath held fine) (h : Saved held fine o s) {c : String × String}
    {key : Key} {v : Value} (hc : Sets c key v) :
    answer p s c = .ok () ∧
      ∃ o', Saved held fine o' (after p s c) ∧ ∀ k, o'.get k = if k = key then v else o.get k := by
  obtain ⟨o', hreplace⟩ := exists_replace o hc
  have hget := replace_eq_ok_iff.mp hreplace
  have hchanged : outcome (changed .toml p.host p.settingsPath c.1 c.2) [] s = ((.ok o', []), s) := by
    rw [outcome_changed (readWord_of_sets hc) (result_load hhost h []), hreplace]
    rfl
  obtain ⟨t, hsave, ht⟩ := result_save hhost h (short_of_sets hc hget h.short) []
  have hrun : outcome (Command.runSetSetting p c.1 c.2) {} s =
      ((.ok (), { results := "" ++ ("Set " ++ c.1 ++ " = " ++ c.2 ++ "\n") }), t) := by
    rw [Command.runSetSetting, outcome_bind_ok (outcome_noting hchanged Command.setStop {})]
    rw [outcome_bind_ok (outcome_noting hsave Command.settingsStop _)]
    rfl
  rw [answer, after, hrun]
  exact ⟨rfl, o', ht, hget⟩

theorem set_error (hhost : p.host.Stores p.settingsPath held fine) (h : Saved held fine o s) {c : String × String}
    (hc : ∀ key v, ¬ Sets c key v) : answer p s c ≠ .ok () ∧ after p s c = s := by
  have hfault : ∃ f, outcome (changed .toml p.host p.settingsPath c.1 c.2) [] s = ((.error f, []), s) := by
    cases hword : readWord c.1 c.2 with
    | error f => exact ⟨.word f, outcome_changed_error hword []⟩
    | ok r =>
      obtain ⟨key, v⟩ := r
      rcases sets_of_readWord hword with hsets | ⟨n, hneg, rfl⟩
      · exact absurd hsets (hc key v)
      · rw [outcome_changed hword (result_load hhost h [])]
        cases hreplace : o.replace [(key.name, .int n)] with
        | error f => exact ⟨.value f, rfl⟩
        | ok o' =>
          have hget := replace_eq_ok_iff.mp hreplace key
          rw [if_pos rfl] at hget
          exact absurd hget (get_ne_of_neg o' key hneg)
  obtain ⟨f, hf⟩ := hfault
  have hrun : outcome (Command.runSetSetting p c.1 c.2) {} s = ((.error (Command.setStop f), {}), s) := by
    rw [Command.runSetSetting, outcome_bind_error (outcome_noting hf Command.setStop {})]
    rfl
  rw [answer, after, hrun]
  exact ⟨nofun, rfl⟩

/-- The value of an option after some commands: that of the last one that sets it, or the one by default. -/
def Latest (cs : List (String × String)) (key : Key) (v : Value) : Prop :=
  (∃ before c later, cs = before ++ c :: later ∧ Sets c key v ∧ ∀ d ∈ later, ∀ w, ¬ Sets d key w) ∨
    (∀ d ∈ cs, ∀ w, ¬ Sets d key w) ∧ v = GraphOptions.get {} key

theorem latest_nil (key : Key) : Latest [] key (GraphOptions.get {} key) :=
  .inr ⟨fun _ hd => absurd hd List.not_mem_nil, rfl⟩

theorem eq_of_sets {c : String × String} {key key' : Key} {v v' : Value} (h : Sets c key v) (h' : Sets c key' v') :
    key' = key ∧ v' = v := by
  have hword := readWord_of_sets h
  rw [readWord_of_sets h'] at hword
  exact Prod.mk.inj (Except.ok.inj hword)

/-- One more command decides if it sets the option. -/
theorem latest_concat_iff {cs : List (String × String)} {c : String × String} {key : Key} {v : Value} :
    Latest (cs ++ [c]) key v ↔ Sets c key v ∨ (∀ w, ¬ Sets c key w) ∧ Latest cs key v := by
  constructor
  · rintro (⟨before, d, later, heq, hd, hlater⟩ | ⟨hnone, hv⟩)
    · obtain rfl | ⟨ds, e, rfl⟩ := List.eq_nil_or_concat later
      · obtain ⟨-, hc⟩ := List.append_inj' heq rfl
        obtain rfl := (List.cons.inj hc).1
        exact .inl hd
      · rw [List.concat_eq_append, ← List.cons_append, ← List.append_assoc] at heq
        obtain ⟨rfl, hc⟩ := List.append_inj' heq rfl
        obtain rfl := (List.cons.inj hc).1
        rw [List.concat_eq_append, List.forall_mem_append, List.forall_mem_singleton] at hlater
        exact .inr ⟨hlater.2, .inl ⟨before, d, ds, rfl, hd, hlater.1⟩⟩
    · rw [List.forall_mem_append, List.forall_mem_singleton] at hnone
      exact .inr ⟨hnone.2, .inr ⟨hnone.1, hv⟩⟩
  · rintro (hc | ⟨hc, ⟨before, d, later, rfl, hd, hlater⟩ | ⟨hnone, hv⟩⟩)
    · exact .inl ⟨cs, c, [], rfl, hc, fun _ hd => absurd hd List.not_mem_nil⟩
    · refine .inl ⟨before, d, later ++ [c], by simp, hd, ?_⟩
      rw [List.forall_mem_append, List.forall_mem_singleton]
      exact ⟨hlater, hc⟩
    · refine .inr ⟨?_, hv⟩
      rw [List.forall_mem_append, List.forall_mem_singleton]
      exact ⟨hnone, hc⟩

theorem saved_foldl (hhost : p.host.Stores p.settingsPath held fine) (hfine : fine s) (hnone : held s = none)
    (cs : List (String × String)) :
    ∃ o, Saved held fine o (cs.foldl (after p) s) ∧ ∀ key, Latest cs key (o.get key) := by
  induction cs using List.reverseRecOn with
  | nil => exact ⟨{}, ⟨hfine, short_default, .inl ⟨hnone, rfl⟩⟩, latest_nil⟩
  | append_singleton cs c ih =>
    obtain ⟨o, hsaved, hlatest⟩ := ih
    rw [List.foldl_append, List.foldl_cons, List.foldl_nil]
    by_cases hc : ∃ key v, Sets c key v
    · obtain ⟨key, v, hsets⟩ := hc
      obtain ⟨-, o', hsaved', hget⟩ := set_ok hhost hsaved hsets
      refine ⟨o', hsaved', fun k => ?_⟩
      rw [hget]
      split
      next heq =>
        subst heq
        exact latest_concat_iff.mpr (.inl hsets)
      next hne => exact latest_concat_iff.mpr (.inr ⟨fun w hw => hne (eq_of_sets hsets hw).1, hlatest k⟩)
    · have hnot : ∀ key v, ¬ Sets c key v := fun key v hsets => hc ⟨key, v, hsets⟩
      rw [(set_error hhost hsaved hnot).2]
      exact ⟨o, hsaved, fun k => latest_concat_iff.mpr (.inr ⟨hnot k, hlatest k⟩)⟩

/-- From no file on, the options are those by default with each as it was last set. A command sets an option if and only
if its name is one and its word suits it, and one that does not leaves everything as it was. -/
theorem last_write_wins (hhost : p.host.Stores p.settingsPath held fine) (hfine : fine s) (hnone : held s = none)
    (cs : List (String × String)) :
    (∃ o, result (load .toml p.host p.settingsPath) [] (cs.foldl (after p) s) = ((.ok o, []), cs.foldl (after p) s) ∧
      ∀ key, Latest cs key (o.get key)) ∧
    ∀ c, (answer p (cs.foldl (after p) s) c = .ok () ↔ ∃ key v, Sets c key v) ∧
      (answer p (cs.foldl (after p) s) c ≠ .ok () → after p (cs.foldl (after p) s) c = cs.foldl (after p) s) := by
  obtain ⟨o, hsaved, hlatest⟩ := saved_foldl hhost hfine hnone cs
  refine ⟨⟨o, result_load hhost hsaved [], hlatest⟩, fun c => ?_⟩
  by_cases hc : ∃ key v, Sets c key v
  · obtain ⟨key, v, hsets⟩ := hc
    have hok := (set_ok hhost hsaved hsets).1
    exact ⟨iff_of_true hok ⟨key, v, hsets⟩, fun hne => absurd hok hne⟩
  · obtain ⟨hne, hsame⟩ := set_error hhost hsaved fun key v hsets => hc ⟨key, v, hsets⟩
    exact ⟨iff_of_false hne hc, fun _ => hsame⟩

end Runs

/-! ### A tree with nothing in it -/

def desk : Place (StateM World) where
  host := World.host
  settingsPath := "home/config.toml"
  columns := 80

def bare : World where
  program := fun _ _ => .exited 0 "" ""

/-- There is nothing, or there are the settings alone. -/
def Tidy (w : World) : Prop :=
  w.tree = {} ∨ ∃ bs, w.tree = { files := [(["home", "config.toml"], bs)], directories := [["home"]] }

theorem stores_desk : desk.host.Stores desk.settingsPath (World.held "home/config.toml") Tidy where
  kind := by
    intro w h
    refine ⟨w.tree.kind "home/config.toml", rfl, ?_⟩
    rcases h with h | ⟨bs, h⟩
    · rw [World.held, h]
      rfl
    · rw [World.held, h]
      rfl
  read := by
    intro w bs _ h
    exact congrArg (·, w) (World.held_eq_some.mp h)
  store := by
    intro w new h
    have hmake : ∃ t u : FileTree, w.tree.makeDirectory "home" = .ok t ∧ t.write "home/config.toml" [] = .ok u ∧
        u.append "home/config.toml" new =
          .ok { files := [(["home", "config.toml"], new)], directories := [["home"]] } := by
      rcases h with h | ⟨bs, h⟩
      · rw [h]
        exact ⟨_, _, rfl, rfl, rfl⟩
      · rw [h]
        exact ⟨_, _, rfl, rfl, rfl⟩
    obtain ⟨t, u, hmake, hclear, happend⟩ := hmake
    have hparent : Path.parent desk.settingsPath = "home" := rfl
    rw [hparent]
    refine ⟨{ w with tree := t },
      { w with tree := { files := [(["home", "config.toml"], new)], directories := [["home"]] } },
      World.change_ok (f := (·.makeDirectory "home")) hmake,
      Host.write_eq_ok_iff.mpr ⟨{ w with tree := u }, ?_, ?_⟩, .inr ⟨new, rfl⟩, rfl⟩
    · exact World.change_ok (f := (·.write "home/config.toml" [])) hclear
    · exact World.change_ok (f := (·.append "home/config.toml" new)) happend

theorem held_bare : World.held "home/config.toml" bare = none := rfl

def threeWords : List (String × String) := [("max_nodes", "12"), ("show_external", " Off\n"), ("max_nodes", "-3")]

theorem last_write_wins_fourWords :
    Tidy bare ∧ World.held "home/config.toml" bare = none ∧
    ∃ o, result (load .toml desk.host desk.settingsPath) []
          ((threeWords ++ [("max_nodes", "+0_7")]).foldl (after desk) bare) =
        ((.ok o, []), (threeWords ++ [("max_nodes", "+0_7")]).foldl (after desk) bare) ∧ o.maxNodes = 7 := by
  have htidy : Tidy bare := .inl rfl
  have hseven : Sets ("max_nodes", "+0_7") .maxNodes (.int (7 : Nat)) :=
    @Sets.limit .maxNodes "+0_7" 7 (by decide) (by decide)
  obtain ⟨⟨o, hload, hlatest⟩, -⟩ := last_write_wins stores_desk htidy held_bare (threeWords ++ [("max_nodes", "+0_7")])
  refine ⟨htidy, held_bare, o, hload, ?_⟩
  rcases latest_concat_iff.mp (hlatest .maxNodes) with hsets | ⟨hnot, -⟩
  · have hvalue := (eq_of_sets hseven hsets).2
    rw [GraphOptions.get, Value.int.injEq] at hvalue
    exact_mod_cast hvalue
  · exact absurd hseven (hnot _)

end Settings

end ChangeGraph
