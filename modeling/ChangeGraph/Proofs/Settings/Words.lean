import ChangeGraph.Proofs.Outcome
import ChangeGraph.Proofs.Text.Integers
import ChangeGraph.Settings.Word

/-!
# What a name and a word set

A name and a word set an option to a value, or they set nothing. The values that suit an option are those that options
can have.
-/

namespace ChangeGraph

namespace Text

/-! ### Blanks around a word -/

theorem toLower_of_isBlank {c : Char} (h : isBlank c = true) : c.toLower = c := by
  simp only [isBlank, isNumberBlank, isSeparator, Bool.or_eq_true, Bool.and_eq_true, decide_eq_true_eq, beq_iff_eq] at h
  refine dif_neg fun hupper => ?_
  simp only [ge_iff_le, UInt32.le_iff_toNat_le] at hupper
  have hcode : c.val.toNat = c.toNat := rfl
  simp only [hcode] at hupper
  have hlow : 65 ≤ c.toNat := hupper.1
  have hhigh : c.toNat ≤ 90 := hupper.2
  omega

end Text

namespace GraphOptions

theorem limit_eq_ok_iff {k : Key} {v : Value} {n : Nat} : limit k v = .ok n ↔ v = .int n := by
  constructor
  · intro h
    cases v with
    | int m =>
      rw [limit] at h
      split at h
      next hm =>
        obtain rfl := Except.ok.inj h
        rw [Int.toNat_of_nonneg hm]
      next => cases h
    | _ => cases h
  · rintro rfl
    simp [limit]

theorem flag_eq_ok_iff {k : Key} {v : Value} {b : Bool} : flag k v = .ok b ↔ v = .bool b := by
  constructor
  · intro h
    cases v with
    | bool c =>
      obtain rfl := Except.ok.inj h
      rfl
    | _ => cases h
  · rintro rfl
    rfl

/-- Values make options if and only if they are the values of some. -/
theorem ofValues_eq_ok_iff {value : Key → Value} {o : GraphOptions} :
    ofValues value = .ok o ↔ ∀ k, o.get k = value k := by
  simp only [ofValues, bind_eq_ok_iff, limit_eq_ok_iff, flag_eq_ok_iff]
  constructor
  · rintro ⟨n, hn, e, he, l, hl, b, hb, hpure⟩
    obtain rfl := Except.ok.inj hpure
    intro k
    cases k with
    | maxNodes => exact hn.symm
    | maxEdges => exact he.symm
    | showExternal => exact hb.symm
    | maxSnippetLines => exact hl.symm
  · intro h
    exact ⟨o.maxNodes, (h .maxNodes).symm, o.maxEdges, (h .maxEdges).symm, o.maxSnippetLines, (h .maxSnippetLines).symm,
      o.showExternal, (h .showExternal).symm, rfl⟩

theorem replace_eq_ok_iff {o o' : GraphOptions} {es : Entries} :
    o.replace es = .ok o' ↔ ∀ k : Key, o'.get k = (es.lookup k.name).getD (o.get k) :=
  ofValues_eq_ok_iff

theorem Key.ofName?_name (k : Key) : Key.ofName? k.name = some k := by
  cases k <;> decide

theorem Key.ofName?_eq_some_iff {s : String} {k : Key} : Key.ofName? s = some k ↔ k.name = s := by
  constructor
  · intro h
    have hname := List.find?_some (p := fun j : Key => j.name == s) h
    exact eq_of_beq hname
  · rintro rfl
    exact k.ofName?_name

end GraphOptions

namespace Settings

open GraphOptions (Key)

def flagWords : Bool → List String
  | true => yesWords
  | false => noWords

/-- The word is one of those that say yes or no, up to the case of letters and blanks around it. -/
def SaysFlag (word : String) (b : Bool) : Prop :=
  ∃ w ∈ flagWords b, ∃ front core back, word.toList = front ++ core ++ back ∧
    (∀ c ∈ front, Text.isBlank c = true) ∧ (∀ c ∈ back, Text.isBlank c = true) ∧ core.map Char.toLower = w.toList

/-- A name and a word set an option to a value. -/
inductive Sets : String × String → Key → Value → Prop where
  | flag {word : String} {b : Bool} : SaysFlag word b → Sets (Key.showExternal.name, word) .showExternal (.bool b)
  | limit {key : Key} {word : String} {n : Nat} : key ≠ .showExternal → Text.readInteger? word = some (n : Int) →
      Sets (key.name, word) key (.int n)

theorem isBlank_of_mem_words {w : String} (h : w ∈ yesWords ++ noWords) : ∀ c ∈ w.toList, Text.isBlank c = false := by
  simp only [yesWords, noWords, List.cons_append, List.nil_append, List.mem_cons, List.not_mem_nil, or_false] at h
  rcases h with rfl | rfl | rfl | rfl | rfl | rfl | rfl | rfl <;>
    simp [Text.isBlank, Text.isNumberBlank, Text.isSeparator]

theorem lower_strip_of_saysFlag {word w : String} (hw : w ∈ yesWords ++ noWords) {front core back : List Char}
    (hword : word.toList = front ++ core ++ back) (hfront : ∀ c ∈ front, Text.isBlank c = true)
    (hback : ∀ c ∈ back, Text.isBlank c = true) (hcore : core.map Char.toLower = w.toList) :
    Text.lower (Text.strip word) = w := by
  have hclean : ∀ c ∈ core, Text.isBlank c = false := by
    intro c hc
    -- a blank is its own lower case, and no word has one
    by_contra hblank
    have hself := Text.toLower_of_isBlank (Bool.not_eq_false _ ▸ hblank)
    have hmem : c ∈ w.toList := by
      rw [← hcore, ← hself]
      exact List.mem_map_of_mem hc
    exact hblank (isBlank_of_mem_words hw c hmem)
  rw [Text.lower, Text.strip, String.toList_ofList, hword, Text.trimBoth_append hfront hclean hback, hcore,
    String.ofList_toList]

theorem readFlag?_eq_some_iff {word : String} {b : Bool} : readFlag? word = some b ↔ SaysFlag word b := by
  constructor
  · intro h
    obtain ⟨front, back, hword, hfront, hback⟩ := Text.exists_of_trimBoth Text.isBlank word.toList
    refine ⟨Text.lower (Text.strip word), ?_, front, _, back, hword, hfront, hback, by simp [Text.lower, Text.strip]⟩
    simp only [readFlag?, List.contains_iff_mem] at h
    split_ifs at h with hyes hno
    · obtain rfl := Option.some.inj h
      exact hyes
    · obtain rfl := Option.some.inj h
      exact hno
  · rintro ⟨w, hw, front, core, back, hword, hfront, hback, hcore⟩
    have hall : w ∈ yesWords ++ noWords := by
      cases b with
      | false => exact List.mem_append_right _ hw
      | true => exact List.mem_append_left _ hw
    have hdisjoint : ∀ w ∈ noWords, w ∉ yesWords := by decide
    simp only [readFlag?, lower_strip_of_saysFlag hall hword hfront hback hcore, List.contains_iff_mem]
    cases b with
    | true => exact if_pos hw
    | false => exact (if_neg (hdisjoint w hw)).trans (if_pos hw)

theorem readWord_of_sets {c : String × String} {key : Key} {v : Value} (h : Sets c key v) :
    readWord c.1 c.2 = .ok (key, v) := by
  cases h with
  | flag hsays =>
    rw [readWord, Key.ofName?_name]
    simp only [wordFor, readFlag?_eq_some_iff.mpr hsays]
    rfl
  | limit hkey hread =>
    rw [readWord, Key.ofName?_name]
    cases key with
    | showExternal => exact absurd rfl hkey
    | _ =>
      simp only [wordFor, hread]
      rfl

/-- A word that is read sets its option, unless it is a number below zero. -/
theorem sets_of_readWord {name word : String} {key : Key} {v : Value} (h : readWord name word = .ok (key, v)) :
    Sets (name, word) key v ∨ ∃ n : Int, n < 0 ∧ v = .int n := by
  rw [readWord] at h
  cases hname : Key.ofName? name with
  | none =>
    rw [hname] at h
    cases h
  | some k =>
    rw [hname] at h
    obtain rfl := Key.ofName?_eq_some_iff.mp hname
    obtain ⟨w, hword, hpair⟩ := map_eq_ok_iff.mp h
    obtain ⟨rfl, rfl⟩ := Prod.mk.inj hpair
    by_cases hkey : k = .showExternal
    · subst hkey
      rw [wordFor] at hword
      split at hword
      next b hflag =>
        obtain rfl := Except.ok.inj hword
        exact .inl (.flag (readFlag?_eq_some_iff.mp hflag))
      next => cases hword
    · rw [wordFor.eq_2 _ _ hkey] at hword
      split at hword
      next n hread =>
        obtain rfl := Except.ok.inj hword
        rcases lt_or_ge n 0 with hneg | hpos
        · exact .inr ⟨n, hneg, rfl⟩
        · obtain ⟨m, rfl⟩ := Int.eq_ofNat_of_zero_le hpos
          exact .inl (.limit hkey hread)
      next => cases hword

end Settings

end ChangeGraph
