import ChangeGraph.Proofs.Settings.Saving
import ChangeGraph.Proofs.Settings.Words
import ChangeGraph.Proofs.Text.Bytes

/-!
# Loading options

Reading the settings can end in six ways, by what stands at their path, whatever the format. The main statement says
which of them fail: the file is no text, or the reader runs into a gap on it. Where all settings are read, the options
among them fail only for an option that has a value which does not suit it.
-/

namespace ChangeGraph

/-! ### Values that suit an option -/

namespace GraphOptions

/-- A limit is a number that is not below zero, and the flag is a truth value. -/
def Suits : Key → Value → Prop
  | .showExternal, v => ∃ b, v = .bool b
  | _, v => ∃ n : Nat, v = .int n

/-- The option that a fault is about, with the value it has. -/
def Fault.about : Fault → Key × Value
  | .notInteger k v => (k, v)
  | .negative k n => (k, .int n)
  | .notBoolean k v => (k, v)

theorem limit_eq_error {k : Key} {v : Value} {g : Fault} (h : limit k v = .error g) :
    g.about = (k, v) ∧ ¬ ∃ n : Nat, v = .int n := by
  refine ⟨?_, ?_⟩
  · cases v with
    | int n =>
      rw [limit] at h
      split at h
      next => cases h
      next =>
        obtain rfl := Except.error.inj h
        rfl
    | _ =>
      obtain rfl := Except.error.inj h
      rfl
  · rintro ⟨n, rfl⟩
    rw [limit_eq_ok_iff.mpr rfl] at h
    cases h

theorem flag_eq_error {k : Key} {v : Value} {g : Fault} (h : flag k v = .error g) :
    g.about = (k, v) ∧ ¬ ∃ b, v = .bool b := by
  refine ⟨?_, ?_⟩
  · cases v with
    | bool b => cases h
    | _ =>
      obtain rfl := Except.error.inj h
      rfl
  · rintro ⟨b, rfl⟩
    cases h

/-- Values that make no options do so for one of them, which the fault is about. -/
theorem ofValues_eq_error {value : Key → Value} {g : Fault} (h : ofValues value = .error g) :
    g.about.2 = value g.about.1 ∧ ¬ Suits g.about.1 g.about.2 := by
  simp only [ofValues, bind_eq_error_iff] at h
  have hclose {k : Key} (habout : g.about = (k, value k) ∧ ¬ Suits k (value k)) :
      g.about.2 = value g.about.1 ∧ ¬ Suits g.about.1 g.about.2 := by
    rw [habout.1]
    exact ⟨rfl, habout.2⟩
  -- in the order in which the options are checked
  obtain h | ⟨-, -, h | ⟨-, -, h | ⟨-, -, h | ⟨-, -, ⟨⟩⟩⟩⟩⟩ := h
  · exact hclose (limit_eq_error h)
  · exact hclose (limit_eq_error h)
  · exact hclose (limit_eq_error h)
  · exact hclose (flag_eq_error h)

theorem suits_get (o : GraphOptions) (k : Key) : Suits k (o.get k) := by
  cases k with
  | showExternal => exact ⟨o.showExternal, rfl⟩
  | maxNodes => exact ⟨o.maxNodes, rfl⟩
  | maxEdges => exact ⟨o.maxEdges, rfl⟩
  | maxSnippetLines => exact ⟨o.maxSnippetLines, rfl⟩

theorem suits_of_ofValues {value : Key → Value} {o : GraphOptions} (h : ofValues value = .ok o) (k : Key) :
    Suits k (value k) := by
  rw [← ofValues_eq_ok_iff.mp h k]
  exact o.suits_get k

end GraphOptions

namespace Settings

open GraphOptions (Key Suits)

/-! ### The options among all settings -/

/-- An option that has a value which does not suit it. -/
def Unsuited (es : Entries) (key : Key) (v : Value) : Prop :=
  ∃ os, es.lookup tableName = some (.table os) ∧ os.lookup key.name = some v ∧ ¬ Suits key v

theorem lookup_filter {p : String → Bool} {name : String} (h : p name = true) (es : Entries) :
    (es.filter fun e => p e.1).lookup name = es.lookup name := by
  induction es with
  | nil => rfl
  | cons e es ih =>
    rw [List.filter_cons, List.lookup_cons]
    by_cases hname : name = e.1
    · rw [if_pos (hname ▸ h), List.lookup_cons, beq_iff_eq.mpr hname]
    · rw [beq_eq_false_iff_ne.mpr hname]
      split
      · rw [List.lookup_cons, beq_eq_false_iff_ne.mpr hname]
        exact ih
      · exact ih

theorem lookup_known (os : Entries) (key : Key) :
    (os.filter fun e => (Key.ofName? e.1).isSome).lookup key.name = os.lookup key.name :=
  lookup_filter (p := fun name => (Key.ofName? name).isSome) (by rw [Key.ofName?_name]; rfl) os

theorem unsuited_of_options {path : String} {es : Entries} {f : Fault} (h : (options path es).1 = .error f) :
    ∃ g : GraphOptions.Fault, f = .badOption path g ∧ Unsuited es g.about.1 g.about.2 := by
  rw [options] at h
  split at h
  next os htable =>
    obtain ⟨g, hg, rfl⟩ := mapError_eq_error_iff.mp h
    obtain ⟨hvalue, hnot⟩ := GraphOptions.ofValues_eq_error hg
    rw [lookup_known] at hvalue
    -- a default suits its option, so the value is from the table
    cases hlookup : os.lookup g.about.1.name with
    | none =>
      rw [hvalue, hlookup] at hnot
      exact absurd (GraphOptions.suits_get {} _) hnot
    | some v =>
      rw [hlookup] at hvalue
      refine ⟨g, rfl, os, ?_, hlookup.trans (congrArg some hvalue.symm), hnot⟩
      cases hes : es.lookup tableName with
      | none =>
        rw [hes] at htable
        cases htable
        cases hlookup
      | some w =>
        rw [hes] at htable
        exact congrArg some htable
  next => cases h

theorem options_of_unsuited {path : String} {es : Entries} {key : Key} {v : Value} (h : Unsuited es key v) :
    ∃ f, (options path es).1 = .error f := by
  obtain ⟨os, htable, hlookup, hnot⟩ := h
  cases hoptions : (options path es).1 with
  | error f => exact ⟨f, rfl⟩
  | ok o =>
    simp only [options, htable, Option.getD_some, mapError_eq_ok_iff] at hoptions
    have hsuits := GraphOptions.suits_of_ofValues hoptions key
    rw [lookup_known, hlookup] at hsuits
    exact absurd hsuits hnot

/-! ### The file -/

/-- What stands at the path of the settings. -/
inductive Found where
  | absent
  | refused (fault : FileFault)
  | bytes (bs : List UInt8)

/-- A file is readable unless it is no text or the reader runs into a gap on it. -/
def Found.Readable (format : Format) : Found → Prop
  | .bytes bs => ∃ text, bs = Text.Utf8.encode text ∧
      ∀ f, format.read (Text.withPlainLineEnds text) = .error f → f = .malformed
  | _ => True

/-- All settings that come of what is found, and the notices told. -/
inductive Reads (format : Format) (path : String) : Found → Except Fault Entries → List Notice → Prop where
  | absent : Reads format path .absent (.ok []) []
  | refused (fault : FileFault) : Reads format path (.refused fault) (.ok []) [.unreadSettings path]
  | table {text : String} {es : Entries} (h : format.read (Text.withPlainLineEnds text) = .ok es) :
    Reads format path (.bytes (Text.Utf8.encode text)) (.ok es) []
  | malformed {text : String} (h : format.read (Text.withPlainLineEnds text) = .error .malformed) :
    Reads format path (.bytes (Text.Utf8.encode text)) (.ok []) [.unreadSettings path]
  | noText {bs : List UInt8} (h : ∀ text, bs ≠ Text.Utf8.encode text) (fault : Text.Utf8.Fault) :
    Reads format path (.bytes bs) (.error (.noText fault)) []
  | gap {text : String} {fault : Toml.Fault} (h : format.read (Text.withPlainLineEnds text) = .error fault)
    (hfault : fault ≠ .malformed) : Reads format path (.bytes (Text.Utf8.encode text)) (.error (.gap fault)) []

theorem reads_ofFile (format : Format) (path : String) (bs : List UInt8) :
    (∃ es told, ofFile format path (.ok bs) = .ok (es, told) ∧ Reads format path (.bytes bs) (.ok es) told) ∨
      ∃ f, ofFile format path (.ok bs) = .error f ∧ Reads format path (.bytes bs) (.error f) [] := by
  rw [ofFile]
  cases htext : Text.Utf8.read bs with
  | error fault =>
    refine .inr ⟨.noText fault, rfl, .noText (fun text hbs => ?_) fault⟩
    rw [Text.Utf8.read_eq_ok_iff.mpr hbs] at htext
    cases htext
  | ok text =>
    obtain rfl := Text.Utf8.read_eq_ok_iff.mp htext
    simp only [ofText]
    split
    next es hread => exact .inl ⟨es, [], rfl, .table hread⟩
    next hread => exact .inl ⟨[], [.unreadSettings path], rfl, .malformed hread⟩
    next fault hfault hread => exact .inr ⟨.gap fault, rfl, .gap hread hfault⟩

theorem Reads.exists_ok_iff {format : Format} {path : String} {found : Found} {r : Except Fault Entries}
    {told : List Notice} (h : Reads format path found r told) : (∃ es, r = .ok es) ↔ found.Readable format := by
  cases h with
  | absent => exact ⟨fun _ => trivial, fun _ => ⟨[], rfl⟩⟩
  | refused => exact ⟨fun _ => trivial, fun _ => ⟨[], rfl⟩⟩
  | @table text es hread =>
    refine ⟨fun _ => ⟨text, rfl, fun f hf => ?_⟩, fun _ => ⟨es, rfl⟩⟩
    rw [hread] at hf
    cases hf
  | @malformed text hread =>
    refine ⟨fun _ => ⟨text, rfl, fun f hf => ?_⟩, fun _ => ⟨[], rfl⟩⟩
    rw [hread] at hf
    exact (Except.error.inj hf).symm
  | noText hnone =>
    constructor
    · rintro ⟨es, hes⟩
      cases hes
    · rintro ⟨text, htext, -⟩
      exact absurd htext (hnone text)
  | @gap text fault hread hfault =>
    constructor
    · rintro ⟨es, hes⟩
      cases hes
    · rintro ⟨text', htext, hmalformed⟩
      -- the bytes are those of one text only
      have hsame := Text.Utf8.read_eq_ok_iff.mpr htext
      rw [Text.Utf8.read_encode] at hsame
      obtain rfl := Except.ok.inj hsame
      exact absurd (hmalformed fault hread) hfault

section Host

variable {σ : Type} (format : Format) (host : Host (StateM σ)) (path : String)

def find (s : σ) : Found × σ :=
  match host.kind path s with
  | (none, s) => (.absent, s)
  | (some _, s) =>
    match host.read path s with
    | (.error fault, s) => (.refused fault, s)
    | (.ok bs, s) => (.bytes bs, s)

theorem reads_loadAll (ns : List Notice) (s : σ) :
    ∃ r told, result (loadAll format host path) ns s = ((r, ns ++ told), (find host path s).2) ∧
      Reads format path (find host path s).1 r told := by
  rcases hkind : host.kind path s with ⟨_ | k, t⟩
  · refine ⟨.ok [], [], ?_, ?_⟩
    · rw [loadAll, result_bind_ok (result_lift hkind), find, hkind, List.append_nil]
      rfl
    · rw [find, hkind]
      exact .absent
  · rcases hread : host.read path t with ⟨fault | bs, u⟩
    all_goals
      rw [loadAll, result_bind_ok (result_lift hkind)]
      simp only
      rw [result_bind_ok (result_lift hread)]
      simp only [find, hkind, hread]
    · exact ⟨.ok [], [.unreadSettings path], rfl, .refused fault⟩
    · obtain ⟨es, told, hfile, hreads⟩ | ⟨f, hfile, hreads⟩ := reads_ofFile format path bs
      · rw [hfile]
        exact ⟨.ok es, told, rfl, hreads⟩
      · rw [hfile]
        exact ⟨.error f, [], by rw [List.append_nil]; rfl, hreads⟩

theorem result_load_ok {ns ns' : List Notice} {s t : σ} {es : Entries}
    (h : result (loadAll format host path) ns s = ((.ok es, ns'), t)) :
    result (load format host path) ns s = (((options path es).1, ns' ++ (options path es).2), t) := by
  rw [load, result_bind_ok h]
  rfl

/-- All settings are read if and only if the file is readable, the table that it holds or, with one notice unless there
is no file, the empty one. Then loading the options fails if and only if one of them has a value that does not suit it,
and says which. -/
theorem load_eq_error_iff (ns : List Notice) (s : σ) :
    ∃ r told r' told',
      result (loadAll format host path) ns s = ((r, ns ++ told), (find host path s).2) ∧
      Reads format path (find host path s).1 r told ∧
      ((∃ es, r = .ok es) ↔ (find host path s).1.Readable format) ∧
      result (load format host path) ns s = ((r', ns ++ told ++ told'), (find host path s).2) ∧
      (∀ es, r = .ok es → ((∃ f, r' = .error f) ↔ ∃ key v, Unsuited es key v) ∧
        ∀ f, r' = .error f → ∃ g : GraphOptions.Fault, f = .badOption path g ∧ Unsuited es g.about.1 g.about.2) ∧
      ∀ f, r = .error f → r' = .error f := by
  obtain ⟨r, told, hall, hreads⟩ := reads_loadAll format host path ns s
  cases r with
  | error f =>
    refine ⟨.error f, told, .error f, [], hall, hreads, hreads.exists_ok_iff, ?_, ?_, ?_⟩
    · rw [load, result_bind_error hall, List.append_nil]
    · intro es hes
      cases hes
    · intro f' hf'
      obtain rfl := Except.error.inj hf'
      rfl
  | ok es =>
    refine ⟨.ok es, told, (options path es).1, (options path es).2, hall, hreads, hreads.exists_ok_iff,
      result_load_ok format host path hall, ?_, ?_⟩
    · intro es' hes
      obtain rfl := Except.ok.inj hes
      refine ⟨⟨fun ⟨f, hf⟩ => ?_, fun ⟨key, v, h⟩ => options_of_unsuited h⟩, fun f hf => unsuited_of_options hf⟩
      obtain ⟨g, -, h⟩ := unsuited_of_options hf
      exact ⟨g.about.1, g.about.2, h⟩
    · intro f hf
      cases hf

end Host

/-! ### Two files that are not read -/

/-- A home whose settings begin with a byte that no character begins with. -/
def strayHome : World where
  tree := { files := [(["home", "config.toml"], [0xFF])] }
  program := fun _ _ => .exited 0 "" ""

def listText : String := "a = 1\n[[a]]\n"

/-- No format is asked about a file that is no text. The reader has a gap where a list of tables is to go on and there is
a number. -/
theorem loadAll_fails :
    (∀ format : Format, result (loadAll format World.host "home/config.toml") [] strayHome =
        ((.error (.noText (.strayLead 0 0xFF)), []), strayHome)) ∧
      result (loadAll .toml World.host "home/config.toml") [] (home listText) =
        ((.error (.gap .notAppendable), []), home listText) := by
  refine ⟨fun _ => rfl, result_loadAll_error (World.holds "home/config.toml") (held_home listText) [] ?_⟩
  have hplain : '\r' ∉ listText.toList := by decide
  have hgap : (Toml.read listText).map (fun _ => ()) = .error .notAppendable := by decide +kernel
  have hread : Format.toml.read listText = .error .notAppendable := map_eq_error_iff.mp hgap
  rw [ofFile, Text.Utf8.read_encode]
  simp only [Text.withPlainLineEnds_of_notMem hplain, ofText, hread]

end Settings

end ChangeGraph
