import ChangeGraph.Proofs.Files.Held
import ChangeGraph.Proofs.Text.Utf8
import ChangeGraph.Proofs.Toml.RoundTrip
import ChangeGraph.Settings.Store

/-!
# Saving options

Saving goes through a whole file: it reads all settings, sets the table of options among them and writes them all. The
main statement says what becomes of the other settings, in any format that reads some settings as it wrote them and on any
host that can read the file and may fail at any step of writing it. Such settings are kept if and only if the file was not
malformed; those that cannot be written are lost with the file, and so is all that the file held when it cannot be filled
again.
-/

namespace ChangeGraph.Settings

open Value (look look_set)

/-! ### Steps -/

section Steps

variable {σ α β : Type} {x : Noting (StateM σ) α} {f : α → Noting (StateM σ) β} {ns ns' : List Notice} {s s' : σ}

/-- What a computation answers after notices and in a state, with all notices and the state then. -/
def result (x : Noting (StateM σ) α) (ns : List Notice) (s : σ) : (Except Fault α × List Notice) × σ :=
  (x.run.run ns).run s

theorem result_bind : result (x >>= f) ns s =
    (fun r : (Except Fault α × List Notice) × σ => (ExceptT.bindCont f r.1.1 r.1.2) r.2) (result x ns s) := rfl

theorem result_bind_ok {a : α} (h : result x ns s = ((.ok a, ns'), s')) :
    result (x >>= f) ns s = result (f a) ns' s' := by
  rw [result_bind, h]
  rfl

theorem result_bind_error {e : Fault} (h : result x ns s = ((.error e, ns'), s')) :
    result (x >>= f) ns s = ((.error e, ns'), s') := by
  rw [result_bind, h]
  rfl

theorem result_lift {y : StateM σ α} {a : α} (h : y s = (a, s')) : result (liftM y) ns s = ((.ok a, ns), s') := by
  have hlift : result (liftM y) ns s = ((.ok (y s).1, ns), (y s).2) := rfl
  rw [hlift, h]

end Steps

section File

variable {σ : Type} {format : Format} {host : Host (StateM σ)} {path : String} {held : σ → Option (List UInt8)} {s : σ}
  {old : List UInt8}

theorem result_loadAll_error (hhost : host.Holds path held) (hold : held s = some old) (ns : List Notice) {f : Fault}
    (h : ofFile format path (.ok old) = .error f) : result (loadAll format host path) ns s = ((.error f, ns), s) := by
  obtain ⟨k, hkind⟩ := hhost.kind hold
  rw [loadAll, result_bind_ok (result_lift hkind)]
  simp only
  rw [result_bind_ok (result_lift (hhost.read hold)), h]
  rfl

theorem result_loadAll_ok (hhost : host.Holds path held) (hold : held s = some old) (ns : List Notice) {es : Entries}
    {told : List Notice} (h : ofFile format path (.ok old) = .ok (es, told)) :
    result (loadAll format host path) ns s = ((.ok es, ns ++ told), s) := by
  obtain ⟨k, hkind⟩ := hhost.kind hold
  rw [loadAll, result_bind_ok (result_lift hkind)]
  simp only
  rw [result_bind_ok (result_lift (hhost.read hold)), h]
  rfl

/-- How writing settings over a file may end: with an answer, and with what the file holds then. -/
inductive Puts (format : Format) (es : Entries) (old : List UInt8) :
    Except Fault (Except FileFault Unit) → List UInt8 → Prop where
  | refused (f : FileFault) : Puts format es old (.ok (.error f)) old
  | cut {text : String} {part : List UInt8} (hwrite : format.write es = .ok text) (hpart : part <+: Text.Utf8.encode text)
    (f : FileFault) : Puts format es old (.ok (.error f)) part
  | written {text : String} (hwrite : format.write es = .ok text) :
    Puts format es old (.ok (.ok ())) (Text.Utf8.encode text)
  | emptied {fault : Toml.WriteFault} (hwrite : format.write es = .error fault) :
    Puts format es old (.error (.unwritable fault)) []

theorem puts_put (format : Format) (hhost : host.Holds path held) (hold : held s = some old) (ns : List Notice)
    (es : Entries) :
    ∃ r t new, result (put format host path es) ns s = ((r, ns), t) ∧ held t = some new ∧ Puts format es old r new := by
  -- Each of the three operations of the host may fail. Up to the second, a failure leaves the file as it was.
  obtain ⟨r, t, hmake, hheld⟩ := hhost.makeDirectory (Path.parent path) hold
  rw [put, result_bind_ok (result_lift hmake)]
  cases r with
  | error f => exact ⟨_, t, old, rfl, hheld, .refused f⟩
  | ok _ =>
    simp only
    obtain ⟨u, hclear, hu⟩ | ⟨f, u, hclear, hu⟩ := hhost.clear hheld
    · rw [result_bind_ok (result_lift hclear)]
      cases hwrite : format.write es with
      | error fault => exact ⟨_, u, [], rfl, hu, .emptied hwrite⟩
      | ok text =>
        obtain ⟨v, happend, hv⟩ | ⟨f, v, part, happend, hpart, hv⟩ := hhost.append (Text.Utf8.encode text) hu
        · exact ⟨_, v, _, result_lift happend, hv, .written hwrite⟩
        · exact ⟨_, v, part, result_lift happend, hv, .cut hwrite hpart f⟩
    · rw [result_bind_ok (result_lift hclear)]
      exact ⟨_, u, old, rfl, hu, .refused f⟩

/-- How saving options over a file may end: with an answer, with notices and with what the file holds then. -/
inductive Ends (format : Format) (path : String) (o : GraphOptions) (old : List UInt8) :
    Except Fault Bool → List Notice → List UInt8 → Prop where
  | unread {f : Fault} (h : ofFile format path (.ok old) = .error f) : Ends format path o old (.error f) [] old
  | refused {es : Entries} {told : List Notice} (h : ofFile format path (.ok old) = .ok (es, told)) (f : FileFault) :
    Ends format path o old (.ok false) (told ++ [.unwrittenSettings path f.message]) old
  | cut {es : Entries} {told : List Notice} {text : String} {part : List UInt8}
    (h : ofFile format path (.ok old) = .ok (es, told)) (hwrite : format.write (withOptions o es) = .ok text)
    (hpart : part <+: Text.Utf8.encode text) (f : FileFault) :
    Ends format path o old (.ok false) (told ++ [.unwrittenSettings path f.message]) part
  | written {es : Entries} {told : List Notice} {text : String} (h : ofFile format path (.ok old) = .ok (es, told))
    (hwrite : format.write (withOptions o es) = .ok text) :
    Ends format path o old (.ok true) told (Text.Utf8.encode text)
  | emptied {es : Entries} {told : List Notice} {fault : Toml.WriteFault}
    (h : ofFile format path (.ok old) = .ok (es, told)) (hwrite : format.write (withOptions o es) = .error fault) :
    Ends format path o old (.error (.unwritable fault)) told []

theorem ends_save (format : Format) (hhost : host.Holds path held) (hold : held s = some old) (o : GraphOptions)
    (ns : List Notice) :
    ∃ r told t new, result (save format host path o) ns s = ((r, ns ++ told), t) ∧ held t = some new ∧
      Ends format path o old r told new := by
  rw [save]
  cases hfile : ofFile format path (.ok old) with
  | error f =>
    rw [result_bind_error (result_loadAll_error hhost hold ns hfile)]
    exact ⟨.error f, [], s, old, by rw [List.append_nil], hold, .unread hfile⟩
  | ok p =>
    obtain ⟨es, told⟩ := p
    rw [result_bind_ok (result_loadAll_ok hhost hold ns hfile)]
    obtain ⟨r, t, new, hput, ht, hputs⟩ := puts_put format hhost hold (ns ++ told) (withOptions o es)
    cases hputs with
    | refused f =>
      refine ⟨.ok false, told ++ [.unwrittenSettings path f.message], t, old, ?_, ht, .refused hfile f⟩
      rw [result_bind_ok hput, ← List.append_assoc]
      rfl
    | cut hwrite hpart f =>
      refine ⟨.ok false, told ++ [.unwrittenSettings path f.message], t, new, ?_, ht, .cut hfile hwrite hpart f⟩
      rw [result_bind_ok hput, ← List.append_assoc]
      rfl
    | written hwrite => exact ⟨.ok true, told, t, _, by rw [result_bind_ok hput]; rfl, ht, .written hfile hwrite⟩
    | emptied hwrite => exact ⟨_, told, t, [], by rw [result_bind_error hput], ht, .emptied hfile hwrite⟩

/-! ### Settings that are kept -/

/-- Plain settings are read as they were written. -/
def Format.RoundTrips (format : Format) (plain : Entries → Prop) : Prop :=
  ∀ es, plain es → ∃ text es', format.write es = .ok text ∧ '\r' ∉ text.toList ∧ format.read text = .ok es' ∧ es'.Agree es

/-- The same settings but for the options. -/
structure Updated (o : GraphOptions) (es es' : Entries) : Prop where
  options : ∀ q, look (.table es') (tableName :: q) = look (.table o.entries) q
  others : ∀ k q, k ≠ tableName → look (.table es') (k :: q) = look (.table es) (k :: q)

theorem updated_of_agree {o : GraphOptions} {es es' : Entries} (h : es'.Agree (withOptions o es)) : Updated o es es' where
  options q := by rw [h, withOptions, look_set, if_pos rfl]
  others k q hk := by rw [h, withOptions, look_set, if_neg hk]

/-- Plain settings are in the file that they are written to. -/
theorem ofFile_encode {plain : Entries → Prop} (hformat : format.RoundTrips plain) {es : Entries} (h : plain es)
    (path : String) : ∃ text es', format.write es = .ok text ∧
      ofFile format path (.ok (Text.Utf8.encode text)) = .ok (es', []) ∧ es'.Agree es := by
  obtain ⟨text, es', hwrite, hreturn, hread, hagree⟩ := hformat es h
  refine ⟨text, es', hwrite, ?_, hagree⟩
  rw [ofFile, Text.Utf8.read_encode]
  simp only
  rw [Text.withPlainLineEnds_of_notMem hreturn, ofText, hread]

/-- No settings are lost: all are there with the new options, or the file is as it was. -/
def Kept (format : Format) (host : Host (StateM σ)) (path : String) (held : σ → Option (List UInt8)) (o : GraphOptions)
    (s : σ) (answer : Except Fault Bool) (t : σ) : Prop :=
  (answer = .ok true ∧ ∃ es es', result (loadAll format host path) [] s = ((.ok es, []), s) ∧
    result (loadAll format host path) [] t = ((.ok es', []), t) ∧ Updated o es es') ∨ held t = held s

/-- Where the answer is not that the options are saved, all depends on the file. -/
theorem kept_iff_eq (hold : held s = some old) {o : GraphOptions} {r : Except Fault Bool} (hr : r ≠ .ok true) {t : σ}
    {new : List UInt8} (hnew : held t = some new) : Kept format host path held o s r t ↔ new = old := by
  rw [Kept, hold, hnew, Option.some.injEq]
  exact or_iff_right fun h => hr h.1

theorem ofFile_of_loadAll (hhost : host.Holds path held) (hold : held s = some old) {es : Entries} {told : List Notice}
    (h : result (loadAll format host path) [] s = ((.ok es, told), s)) :
    ofFile format path (.ok old) = .ok (es, told) := by
  cases hfile : ofFile format path (.ok old) with
  | error f =>
    rw [result_loadAll_error hhost hold [] hfile] at h
    cases h
  | ok p =>
    rw [result_loadAll_ok hhost hold [] hfile, List.nil_append] at h
    cases h
    rfl

/-- Whether a file is a text that the reader finds malformed. -/
def isMalformed (format : Format) (bs : List UInt8) : Bool :=
  match Text.Utf8.read bs with
  | .error _ => false
  | .ok text =>
    match format.read (Text.withPlainLineEnds text) with
    | .error .malformed => true
    | _ => false

theorem ofFile_of_isMalformed (path : String) {bs : List UInt8} (h : isMalformed format bs = true) :
    ofFile format path (.ok bs) = .ok ([], [.unreadSettings path]) := by
  rw [isMalformed] at h
  split at h
  next => cases h
  next text htext =>
    split at h
    next hread => simp only [ofFile, htext, ofText, hread]
    next => cases h

theorem told_eq_nil_iff {bs : List UInt8} {es : Entries} {told : List Notice}
    (h : ofFile format path (.ok bs) = .ok (es, told)) : told = [] ↔ isMalformed format bs = false := by
  cases htext : Text.Utf8.read bs with
  | error f =>
    simp only [ofFile, htext] at h
    cases h
  | ok text =>
    simp only [ofFile, htext, ofText] at h
    simp only [isMalformed, htext]
    split at h <;> cases h
    next hread => simp [hread]
    next hread => simp [hread]

theorem kept_written_iff (hhost : host.Holds path held) (hold : held s = some old) {o : GraphOptions} {es es' : Entries}
    {told : List Notice} (hfile : ofFile format path (.ok old) = .ok (es, told)) {t : σ} {new : List UInt8}
    (hnew : held t = some new) (hfile' : ofFile format path (.ok new) = .ok (es', [])) (hupdated : Updated o es es') :
    Kept format host path held o s (.ok true) t ↔ isMalformed format old = false := by
  rw [← told_eq_nil_iff hfile]
  constructor
  · rintro (⟨-, es₁, es₂, hload, -, -⟩ | hsame)
    · have hagain := ofFile_of_loadAll hhost hold hload
      rw [hfile] at hagain
      cases hagain
      rfl
    · -- A file that is as it was would be read with the same warnings.
      rw [hnew, hold] at hsame
      cases hsame
      rw [hfile] at hfile'
      cases hfile'
      rfl
  · rintro rfl
    exact .inl ⟨rfl, es, es', result_loadAll_ok hhost hold [] hfile, result_loadAll_ok hhost hnew [] hfile', hupdated⟩

theorem Ends.of_plain {plain : Entries → Prop} (hformat : format.RoundTrips plain) {o : GraphOptions}
    {r : Except Fault Bool} {told : List Notice} {new : List UInt8} (h : Ends format path o old r told new) {es : Entries}
    {warned : List Notice} (hfile : ofFile format path (.ok old) = .ok (es, warned)) (hplain : plain (withOptions o es)) :
    r = .ok false ∨ (r = .ok true ∧ ∃ es', ofFile format path (.ok new) = .ok (es', []) ∧ Updated o es es') := by
  obtain ⟨text, es', hwrite, hfile', hagree⟩ := ofFile_encode hformat hplain path
  cases h with
  | unread h =>
    rw [h] at hfile
    cases hfile
  | refused => exact .inl rfl
  | cut => exact .inl rfl
  | written h hwrite' =>
    rw [h] at hfile
    cases hfile
    rw [hwrite] at hwrite'
    cases hwrite'
    exact .inr ⟨rfl, es', hfile', updated_of_agree hagree⟩
  | emptied h hwrite' =>
    rw [h] at hfile
    cases hfile
    rw [hwrite] at hwrite'
    cases hwrite'

theorem ofFile_ne_unwritable {r : Except FileFault (List UInt8)} {fault : Toml.WriteFault} :
    ofFile format path r ≠ .error (.unwritable fault) := by
  intro h
  cases r with
  | error _ => cases h
  | ok bs =>
    rw [ofFile] at h
    split at h
    · cases h
    · rw [ofText] at h
      split at h <;> cases h

theorem Ends.eq_nil {o : GraphOptions} {fault : Toml.WriteFault} {told : List Notice} {new : List UInt8}
    (h : Ends format path o old (.error (.unwritable fault)) told new) : new = [] := by
  cases h with
  | unread h => exact absurd h ofFile_ne_unwritable
  | emptied => rfl

/-- Saving over a file ends in one of five ways. Unless it answers that the options are saved, nothing is lost if and only
if the file is as it was; a file that could not be filled again has a part of the new text at most, and one whose settings
cannot be written is empty. Plain settings are all there with the new options if the answer is that these are saved: then
nothing is lost if and only if the file was not malformed, since of a malformed file no settings are read. -/
theorem save_kept_iff {plain : Entries → Prop} (hformat : format.RoundTrips plain) (hhost : host.Holds path held)
    (hold : held s = some old) (o : GraphOptions) (ns : List Notice) :
    ∃ r told t new, result (save format host path o) ns s = ((r, ns ++ told), t) ∧ held t = some new ∧
      Ends format path o old r told new ∧
      (r ≠ .ok true → (Kept format host path held o s r t ↔ new = old)) ∧
      (∀ fault, r = .error (.unwritable fault) → (Kept format host path held o s r t ↔ old = [])) ∧
      ∀ es warned, ofFile format path (.ok old) = .ok (es, warned) → plain (withOptions o es) →
        r = .ok false ∨
        (r = .ok true ∧ (∃ es', result (loadAll format host path) [] t = ((.ok es', []), t) ∧ Updated o es es') ∧
          (Kept format host path held o s r t ↔ isMalformed format old = false)) := by
  obtain ⟨r, told, t, new, hrun, hnew, hends⟩ := ends_save format hhost hold o ns
  refine ⟨r, told, t, new, hrun, hnew, hends, fun hr => kept_iff_eq hold hr hnew, ?_, ?_⟩
  · rintro fault rfl
    rw [kept_iff_eq hold (by simp) hnew, hends.eq_nil]
    exact eq_comm
  · intro es warned hfile hplain
    refine (hends.of_plain hformat hfile hplain).imp_right ?_
    rintro ⟨rfl, es', hfile', hupdated⟩
    exact ⟨rfl, ⟨es', result_loadAll_ok hhost hnew [] hfile', hupdated⟩,
      kept_written_iff hhost hold hfile hnew hfile' hupdated⟩

end File

/-! ### Two files -/

theorem Format.roundTrips_toml : Format.toml.RoundTrips (Toml.keepsEntries · = true) := by
  intro es h
  obtain ⟨text, hwrite, hreturn, es', hread, hagree⟩ := Toml.read_write h
  exact ⟨text, es', hwrite, hreturn, hread, hagree⟩

def home (text : String) : World where
  tree := { files := [(["home", "config.toml"], Text.Utf8.encode text)] }
  program := fun _ _ => .exited 0 "" ""

theorem held_home (text : String) : World.held "home/config.toml" (home text) = some (Text.Utf8.encode text) := rfl

def darkText : String := "ratio = 0.5\n\n[ui]\ntheme = \"dark\"\n"

theorem save_kept_dark :
    ∃ es t es',
      result (loadAll .toml World.host "home/config.toml") [] (home darkText) = ((.ok es, []), home darkText) ∧
      result (save .toml World.host "home/config.toml" { maxNodes := 5 }) [] (home darkText) = ((.ok true, []), t) ∧
      result (loadAll .toml World.host "home/config.toml") [] t = ((.ok es', []), t) ∧
      Updated { maxNodes := 5 } es es' := by
  have hhost := World.holds "home/config.toml"
  have hold := held_home darkText
  have hread : ((ofFile .toml "home/config.toml" (.ok (Text.Utf8.encode darkText))).toOption.map fun p =>
      (Toml.keepsEntries (withOptions { maxNodes := 5 } p.1), p.2.isEmpty)) = some (true, true) := by
    decide +kernel
  have hanswer : (result (save .toml World.host "home/config.toml" { maxNodes := 5 }) [] (home darkText)).1.1.toOption =
      some true := by
    decide +kernel
  obtain ⟨⟨es, warned⟩, hfile, hkinds⟩ := Option.map_eq_some_iff.mp hread
  rw [toOption_eq_some_iff] at hfile
  rw [Prod.mk.injEq, List.isEmpty_iff] at hkinds
  obtain ⟨hkeeps, hwarned⟩ := hkinds
  subst hwarned
  obtain ⟨r, told, t, new, hrun, -, hends, -, -, hsaved⟩ :=
    save_kept_iff Format.roundTrips_toml hhost hold { maxNodes := 5 } []
  rw [hrun] at hanswer
  obtain rfl := toOption_eq_some_iff.mp hanswer
  rcases hsaved es [] hfile hkeeps with hfalse | ⟨-, ⟨es', hload, hupdated⟩, -⟩
  · cases hfalse
  · cases hends with
    | written h _ =>
      rw [hfile] at h
      cases h
      exact ⟨es, t, es', result_loadAll_ok hhost hold [] hfile, hrun, hload, hupdated⟩

def brokenText : String := "[ui]\ntheme = \"dark\"\n\n[graph]\nmax_nodes = 1\nmax_nodes = 2\n"

/-- Files in memory that have no room for another octet. -/
def fullHost : Host (StateM World) :=
  { World.host with append := fun _ _ => pure (.error ⟨.other 28 "No space left on device", none⟩) }

/-- An option that is set twice makes the file malformed, and saving loses its other settings. Where there is no room, the
answer is that the options are not saved, and the file is empty. -/
theorem save_loses_settings :
    (∃ t, result (save .toml World.host "home/config.toml" {}) [] (home brokenText) =
        ((.ok true, [.unreadSettings "home/config.toml"]), t) ∧
      ¬ Kept .toml World.host "home/config.toml" (World.held "home/config.toml") {} (home brokenText) (.ok true) t) ∧
    ∃ t, result (save .toml fullHost "home/config.toml" {}) [] (home darkText) =
        ((.ok false, [.unwrittenSettings "home/config.toml" "[Errno 28] No space left on device"]), t) ∧
      World.held "home/config.toml" t = some [] ∧
      ¬ Kept .toml fullHost "home/config.toml" (World.held "home/config.toml") {} (home darkText) (.ok false) t := by
  constructor
  · have hhost := World.holds "home/config.toml"
    have hold := held_home brokenText
    have hbroken : isMalformed .toml (Text.Utf8.encode brokenText) = true := by decide +kernel
    have hanswer : (result (save .toml World.host "home/config.toml" {}) [] (home brokenText)).1.1.toOption =
        some true := by
      decide +kernel
    have hfile := ofFile_of_isMalformed "home/config.toml" hbroken
    obtain ⟨r, told, t, new, hrun, hnew, hends⟩ := ends_save .toml hhost hold {} []
    rw [hrun] at hanswer
    obtain rfl := toOption_eq_some_iff.mp hanswer
    rcases hends.of_plain Format.roundTrips_toml hfile (by decide +kernel) with hfalse | ⟨-, es', hfile', hupdated⟩
    · cases hfalse
    · have hiff := kept_written_iff hhost hold hfile hnew hfile' hupdated
      rw [hbroken] at hiff
      cases hends with
      | written h _ =>
        rw [hfile] at h
        cases h
        exact ⟨t, hrun, fun hkept => absurd (hiff.mp hkept) (by decide)⟩
  · have hall : (fun x => (x.1.1.toOption, x.1.2, World.held "home/config.toml" x.2))
        (result (save .toml fullHost "home/config.toml" {}) [] (home darkText)) =
        (some false, [.unwrittenSettings "home/config.toml" "[Errno 28] No space left on device"], some []) := by
      decide +kernel
    rcases hrun : result (save .toml fullHost "home/config.toml" {}) [] (home darkText) with ⟨⟨r, told⟩, t⟩
    rw [hrun] at hall
    simp only [Prod.mk.injEq] at hall
    obtain ⟨hanswer, rfl, hheld⟩ := hall
    obtain rfl := toOption_eq_some_iff.mp hanswer
    refine ⟨t, rfl, hheld, ?_⟩
    rw [kept_iff_eq (held_home darkText) (by simp) hheld]
    decide +kernel

end ChangeGraph.Settings
