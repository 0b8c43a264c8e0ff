/-
**Generated names can be taken apart.**

A generated name is a prefix, a stem and a number, one behind the other with nothing in between, and
the prefix may itself end in digits or like a stem.  Still the three are determined, from the end of
the name on: no stem ends in a digit, so all the digits at the end are the number; no two stems end
in the same character, so the character in front of the number tells the stem; and the prefix is what
is left.  Two builds with different prefixes therefore have no generated name in common, and as long
as the prefix may be used, generated names are plain identifiers.

Main definitions:

* `CypherQuery.Names.parts` — **the prefix, the stem and the number of a generated name**;
* `CypherQuery.Environment.GivesNames` — what a session does to names.

Main results:

* `CypherQuery.Names.parts_generated` — a generated name is taken apart again;
* `CypherQuery.Names.isPlain_generated` — generated names are plain identifiers;
* `CypherQuery.Environment.mayBeNamed_of_lookup_after` — after a session identities have only names
  that they can be given;
* `CypherQuery.generated_names_after` — **the generated names of a session** are plain, and no
  other prefix leads to them.
-/

import CypherQuery.Proofs.BuildSuccess
import CypherQuery.Proofs.NumberText
import CypherQuery.Proofs.Session
import Mathlib.Data.List.DropRight

set_option autoImplicit false

namespace CypherQuery

/-! ### Taking a name apart -/

namespace Names

/-- The stem that ends in the given character. -/
def stemEndingIn : Option Char → String
  | some 's' => "this"
  | some 'r' => "var"
  | some 'm' => "param"
  | _ => "p"

/-- **The prefix, the stem and the number of a generated name**, from its end on. -/
def parts (name : String) : String × String × Nat :=
  let front := name.toList.rdropWhile Char.isDigit
  let stem := stemEndingIn front.getLast?
  (String.ofList (front.rdrop stem.length), stem,
    Nat.ofDigitChars 10 (name.toList.rtakeWhile Char.isDigit) 0)

/-- Every stem ends in a character that is no digit, and by which it is known. -/
theorem exists_getLast?_stem {nameClass : NameClass} {stem : String}
    (h : stem ∈ nameClass.stems) :
    ∃ c, stem.toList.getLast? = some c ∧ c.isDigit = false ∧ stemEndingIn (some c) = stem := by
  cases nameClass with
  | variableName =>
      simp only [NameClass.stems, List.mem_cons, List.not_mem_nil, or_false] at h
      rcases h with rfl | rfl | rfl
      · exact ⟨'s', rfl, rfl, rfl⟩
      · exact ⟨'r', rfl, rfl, rfl⟩
      · exact ⟨'p', rfl, rfl, rfl⟩
  | parameterName =>
      obtain rfl := List.mem_singleton.1 h
      exact ⟨'m', rfl, rfl, rfl⟩

/-- The digits at the end of a text are split off. -/
theorem rdropWhile_rtakeWhile_append {front digits : List Char} {c : Char}
    (hfront : front.getLast? = some c) (hc : c.isDigit = false)
    (hdigits : digits.all Char.isDigit = true) :
    (front ++ digits).rdropWhile Char.isDigit = front ∧
      (front ++ digits).rtakeWhile Char.isDigit = digits := by
  have hall : ∀ d ∈ digits.reverse, Char.isDigit d = true := fun d hd =>
    List.all_eq_true.1 hdigits d (List.mem_reverse.1 hd)
  obtain ⟨init, rfl⟩ := List.getLast?_eq_some_iff.1 hfront
  constructor
  · rw [List.rdropWhile, List.reverse_append, List.dropWhile_append_of_pos hall]
    simp [hc]
  · rw [List.rtakeWhile, List.reverse_append, List.takeWhile_append_of_pos hall]
    simp [hc]

/-- **A generated name is taken apart again**, whatever its prefix is. -/
theorem parts_generated {nameClass : NameClass} {stem : String} (h : stem ∈ nameClass.stems)
    (namePrefix : String) (k : Nat) :
    parts (generated namePrefix stem k) = (namePrefix, stem, k) := by
  obtain ⟨c, hlast, hdigit, hstem⟩ := exists_getLast?_stem h
  have hchars : (generated namePrefix stem k).toList =
      namePrefix.toList ++ stem.toList ++ (toString k).toList := by
    simp only [generated, String.toList_append]
  have hfront : (namePrefix.toList ++ stem.toList).getLast? = some c := by
    rw [List.getLast?_append, hlast, Option.some_or]
  obtain ⟨hdrop, htake⟩ :=
    rdropWhile_rtakeWhile_append hfront hdigit (all_isDigit_natural k)
  have hnumber : Nat.ofDigitChars 10 (toString k).toList 0 = k := by
    simp [Nat.ofDigitChars_ten_toDigits]
  have hprefix : (namePrefix.toList ++ stem.toList).rdrop stem.length = namePrefix.toList := by
    simp [List.rdrop, ← String.length_toList]
  simp only [parts, hchars, hdrop, htake, hfront, hstem, hnumber, hprefix, String.ofList_toList]

/-- **A generated name determines its prefix, its stem and its number.** -/
theorem generated_eq_generated {nameClass nameClass' : NameClass} {stem stem' : String}
    (hstem : stem ∈ nameClass.stems) (hstem' : stem' ∈ nameClass'.stems)
    {namePrefix namePrefix' : String} {k k' : Nat}
    (h : generated namePrefix stem k = generated namePrefix' stem' k') :
    namePrefix = namePrefix' ∧ stem = stem' ∧ k = k' := by
  have hparts := congrArg parts h
  rw [parts_generated hstem, parts_generated hstem'] at hparts
  simpa only [Prod.mk.injEq] using hparts

/-! ### Plain names -/

/-- A plain identifier stays plain when more letters, digits and underscores are added. -/
theorem isPlain_append {name more : String} (h : Identifier.isPlain name = true)
    (hmore : more.toList.all Identifier.isPart = true) :
    Identifier.isPlain (name ++ more) = true := by
  obtain ⟨c, cs, hname, hstart, hparts⟩ := Identifier.exists_cons_of_isPlain h
  rw [Identifier.isPlain, String.toList_append, hname, List.cons_append,
    Identifier.isPlainSpelling, List.all_append, hstart, hparts, hmore]
  rfl

theorem isPlain_stem {nameClass : NameClass} {stem : String} (h : stem ∈ nameClass.stems) :
    Identifier.isPlain stem = true := by
  cases nameClass with
  | variableName =>
      simp only [NameClass.stems, List.mem_cons, List.not_mem_nil, or_false] at h
      rcases h with rfl | rfl | rfl <;> rfl
  | parameterName =>
      obtain rfl := List.mem_singleton.1 h
      rfl

/-- **Generated names are plain identifiers** if the configuration may be used. -/
theorem isPlain_generated {config : BuildConfig} (hvalid : config.isValid = true)
    {nameClass : NameClass} {stem : String} (h : stem ∈ nameClass.stems) (k : Nat) :
    Identifier.isPlain (generated config.namePrefix stem k) = true := by
  have hstem := isPlain_stem h
  have hfront : Identifier.isPlain (config.namePrefix ++ stem) = true := by
    rw [BuildConfig.isValid, Bool.or_eq_true, String.isEmpty_iff] at hvalid
    rcases hvalid with hempty | hplain
    · rwa [hempty, String.empty_append]
    · exact isPlain_append hplain (Identifier.all_isPart_of_isPlain hstem)
  refine isPlain_append hfront (List.all_eq_true.2 fun c hc => ?_)
  have hdigit := List.all_eq_true.1 (all_isDigit_natural k) c hc
  simp [Identifier.isPart, Char.isAlphanum, hdigit]

end Names

/-! ### The names of a session -/

namespace Environment

/-- **What a session does to names**: the beginning of generated names stays, and an identity has
the name that it had, or one that it can be given. -/
structure GivesNames (env later : Environment) : Prop where
  /-- Generated names begin as before. -/
  namePrefix : later.names.namePrefix = env.names.namePrefix
  /-- New names are such as can be given. -/
  given : ∀ o name, o.lookup later = some name →
    o.lookup env = some name ∨ Occurrence.MayBeNamed env.names.namePrefix o name

theorem GivesNames.refl (env : Environment) : env.GivesNames env :=
  ⟨rfl, fun _ _ h => .inl h⟩

theorem GivesNames.trans {env mid later : Environment} (h₁ : env.GivesNames mid)
    (h₂ : mid.GivesNames later) : env.GivesNames later := by
  refine ⟨h₂.namePrefix.trans h₁.namePrefix, fun o name hname => ?_⟩
  rcases h₂.given o name hname with hmid | hnew
  · exact h₁.given o name hmid
  · exact .inr (h₁.namePrefix ▸ hnew)

/-- Naming an identity that has no name gives it one that it can be given, and no other identity
anything. -/
theorem givesNames_of_lookup {env later : Environment} {o : Occurrence} {name : String}
    {names : Names} (hchoice : env.choose o.nameClass o.explicitName o.stem = .ok (name, names))
    (hnames : later.names = names)
    (hlookup : ∀ other : Occurrence, other.lookup later =
      (other.lookup env).or (if other = o then some name else none)) :
    env.GivesNames later := by
  refine ⟨hnames ▸ (takes_of_choose hchoice).namePrefix, fun other found hfound => ?_⟩
  rw [hlookup, Option.or_eq_some_iff] at hfound
  rcases hfound with hold | ⟨-, hnew⟩
  · exact .inl hold
  · obtain ⟨rfl, hsame⟩ := Option.ite_none_right_eq_some.1 hnew
    cases hsame
    exact .inr (mayBeNamed_of_choose hchoice)

theorem givesNames_nameOf (v : Variable) (env : Environment) :
    env.GivesNames (nameOf v env).environment := by
  rcases nameOf_cases v env with ⟨name, -, h⟩ | ⟨e, -, -, h⟩ | ⟨name, names, -, hchoice, h⟩ <;>
    rw [h]
  · exact .refl env
  · exact .refl env
  · exact givesNames_of_lookup (o := .variableAt v) hchoice rfl (env.lookup_bindVariable v name names)

theorem givesNames_recordParameter (p : Parameter) (value : Value) (env : Environment) :
    env.GivesNames (recordParameter p value env).environment := by
  rcases recordParameter_cases p value env with
    ⟨name, -, h⟩ | ⟨e, -, -, h⟩ | ⟨name, names, -, hchoice, h⟩ <;> rw [h]
  · exact .refl env
  · exact .refl env
  · exact givesNames_of_lookup (o := .parameterAt p) hchoice rfl
      (env.lookup_bindParameter p name value names)

theorem givesNames_step (step : SessionStep) (env : Environment) :
    env.GivesNames (step.run env).environment := by
  cases step with
  | name v => exact givesNames_nameOf v env
  | record p value => exact givesNames_recordParameter p value env
  | write c =>
      rw [SessionStep.run, Construct.environment_render]
      refine Template.relates_run GivesNames.refl (fun _ _ _ => GivesNames.trans) ?_ c.template env
      intro o env
      cases o with
      | variableAt v => exact givesNames_nameOf v env
      | parameterAt p => exact givesNames_recordParameter p p.value env
  | askNamePrefix => exact .refl env
  | askLabelOperator => exact .refl env

theorem givesNames_after (steps : List SessionStep) :
    ∀ env : Environment, env.GivesNames (env.after steps) := by
  induction steps with
  | nil => exact GivesNames.refl
  | cons step rest ih => exact fun env => (givesNames_step step env).trans (ih _)

/-- **After a session identities have only names that they can be given.** -/
theorem mayBeNamed_of_lookup_after {namePrefix : String} {op : LabelOperator}
    {steps : List SessionStep} {o : Occurrence} {name : String}
    (h : o.lookup ((start namePrefix op).after steps) = some name) :
    o.MayBeNamed namePrefix name := by
  rcases (givesNames_after steps (start namePrefix op)).given o name h with hstart | hgiven
  · -- at the beginning no identity has a name
    cases o <;> cases hstart
  · exact hgiven

/-- After a session the name of an identity without an explicit name is a generated one. -/
theorem exists_generated_of_lookup_after {namePrefix : String} {op : LabelOperator}
    {steps : List SessionStep} {o : Occurrence} {name : String} (ho : o.explicitName = none)
    (h : o.lookup ((start namePrefix op).after steps) = some name) :
    ∃ k, name = Names.generated namePrefix o.stem k := by
  rcases mayBeNamed_of_lookup_after h with hexplicit | ⟨-, hgenerated⟩
  · rw [ho] at hexplicit
    cases hexplicit
  · exact hgenerated

end Environment

/-- **The generated names of a session**, those of the identities without an explicit name.  They are
plain identifiers and written as they are; each determines its prefix, its stem and its number; and
no session with another prefix generates any of them. -/
theorem generated_names_after {config : BuildConfig} (hvalid : config.isValid = true)
    (steps : List SessionStep) {o : Occurrence} {name : String} (ho : o.explicitName = none)
    (hname : o.lookup (config.environment.after steps) = some name) :
    Identifier.isPlain name = true ∧ Identifier.escape name = name ∧
      (∃ k, name = Names.generated config.namePrefix o.stem k ∧
        ∀ namePrefix (other : Occurrence) l, name = Names.generated namePrefix other.stem l →
          namePrefix = config.namePrefix ∧ other.stem = o.stem ∧ l = k) ∧
      ∀ config' : BuildConfig, config'.namePrefix ≠ config.namePrefix →
        ∀ (steps' : List SessionStep) (other : Occurrence), other.explicitName = none →
          other.lookup (config'.environment.after steps') ≠ some name := by
  obtain ⟨k, rfl⟩ := Environment.exists_generated_of_lookup_after ho hname
  have hplain := Names.isPlain_generated hvalid o.stem_mem_stems k
  refine ⟨hplain, Identifier.escape_of_isPlain hplain, ⟨k, rfl, ?_⟩, ?_⟩
  · intro namePrefix other l hsame
    exact Names.generated_eq_generated other.stem_mem_stems o.stem_mem_stems hsame.symm
  · intro config' hne steps' other hother hname'
    obtain ⟨l, hsame⟩ := Environment.exists_generated_of_lookup_after hother hname'
    exact hne
      (Names.generated_eq_generated other.stem_mem_stems o.stem_mem_stems hsame.symm).1

/-- A prefix that reads like a generated name itself, a number that is skipped, and a name that a
build with the beginning of that prefix does not generate. -/
theorem generated_names_after_skipping :
    let config : BuildConfig := ⟨"this1", .colon, []⟩
    let config' : BuildConfig := ⟨"this", .ampersand, []⟩
    let path : Variable := ⟨1, .path, none⟩
    let steps : List SessionStep := [.name ⟨0, .path, some "this1p0"⟩, .name path]
    let env := config.environment.after steps
    config.isValid = true ∧ Occurrence.lookup env (.variableAt path) = some "this1p1" ∧
      Identifier.escape "this1p1" = "this1p1" ∧ Names.parts "this1p1" = ("this1", "p", 1) ∧
      ∀ (c : Construct) (v : Variable), v.name = none →
        Occurrence.lookup (c.render config'.environment).environment (.variableAt v) ≠
          some "this1p1" := by
  intro config config' path steps env
  have hname : Occurrence.lookup env (.variableAt path) = some "this1p1" := by decide
  have hvalid : config.isValid = true := by decide
  obtain ⟨-, hescape, -, hothers⟩ :=
    generated_names_after hvalid steps (o := .variableAt path) rfl hname
  refine ⟨hvalid, hname, hescape, by decide, fun c v hv => ?_⟩
  -- writing a construct is a session of one step
  exact hothers config' (by decide) [.write c] (.variableAt v) hv

end CypherQuery
