/-
**When a build succeeds.**

As long as names do not get in each other's way, a build succeeds exactly if the construct can be
written.  Names do not, if no two different variables that are written have the same explicit name,
and no two different parameters; if no explicit name looks like a generated one; and if the extra
parameters have names of their own.

Main definitions:

* `CypherQuery.Construct.NamesFree` — names that do not get in each other's way.

Main results:

* `CypherQuery.Construct.exists_render_iff` — when a construct is written;
* `CypherQuery.build_succeeds_iff` — **when a build succeeds**.
-/

import CypherQuery.Proofs.NamesApart
import CypherQuery.Proofs.WellFormed

set_option autoImplicit false

namespace CypherQuery

/-! ### Names that do not get in each other's way -/

/-- The stems of the generated names of a class. -/
def NameClass.stems : NameClass → List String
  | .variableName => ["this", "var", "p"]
  | .parameterName => ["param"]

theorem Occurrence.stem_mem_stems (o : Occurrence) : o.stem ∈ o.nameClass.stems := by
  cases o with
  | variableAt v => simp only [stem, nameClass]; cases v.kind <;> decide
  | parameterAt p => exact List.mem_singleton_self _

/-- **Names that do not get in each other's way** in a build. -/
structure Construct.NamesFree (c : Construct) (config : BuildConfig) : Prop where
  /-- Different identities of a class that are written have no explicit name in common. -/
  explicit : ∀ o ∈ c.occurrences, ∀ other ∈ c.occurrences, o.nameClass = other.nameClass →
    o.explicitName.isSome = true → o.explicitName = other.explicitName → o = other
  /-- No explicit name of an identity that is written looks like a generated one of its class. -/
  generated : ∀ o ∈ c.occurrences, ∀ stem ∈ o.nameClass.stems, ∀ k,
    o.explicitName ≠ some (Names.generated config.namePrefix stem k)
  /-- The extra parameters have different names. -/
  extras : (config.extraParams.map Prod.fst).Nodup
  /-- No name of an extra parameter looks like a generated one. -/
  extrasGenerated : ∀ name ∈ config.extraParams.map Prod.fst, ∀ k,
    name ≠ Names.generated config.namePrefix "param" k
  /-- No name of an extra parameter is the explicit name of one that is written. -/
  extrasExplicit : ∀ name ∈ config.extraParams.map Prod.fst, ∀ o ∈ c.occurrences,
    o.nameClass = .parameterName → o.explicitName ≠ some name

namespace Construct

variable {c : Construct} {config : BuildConfig}

/-- Names that begin otherwise than the generated ones do not look like them. -/
theorem namesFree_of_not_isPrefix
    (explicit : ∀ o ∈ c.occurrences, ∀ other ∈ c.occurrences, o.nameClass = other.nameClass →
      o.explicitName.isSome = true → o.explicitName = other.explicitName → o = other)
    (begins : ∀ o ∈ c.occurrences, ∀ name ∈ o.explicitName,
      ¬ config.namePrefix.toList <+: name.toList)
    (extras : (config.extraParams.map Prod.fst).Nodup)
    (extrasBegin : ∀ name ∈ config.extraParams.map Prod.fst,
      ¬ config.namePrefix.toList <+: name.toList)
    (extrasExplicit : ∀ name ∈ config.extraParams.map Prod.fst, ∀ o ∈ c.occurrences,
      o.nameClass = .parameterName → o.explicitName ≠ some name) : c.NamesFree config := by
  have hgenerated : ∀ stem k,
      config.namePrefix.toList <+: (Names.generated config.namePrefix stem k).toList := by
    intro stem k
    rw [Names.generated, String.append_assoc, String.toList_append]
    exact List.prefix_append _ _
  refine ⟨explicit, ?_, extras, ?_, extrasExplicit⟩
  · intro o ho stem _ k hname
    exact begins o ho _ hname (hgenerated stem k)
  · rintro name hname k rfl
    exact extrasBegin _ hname (hgenerated "param" k)

/-- An explicit name is given to no other identity, be it explicit or generated. -/
theorem NamesFree.namesApart (h : c.NamesFree config) :
    Occurrence.NamesApart config.namePrefix c.occurrences := by
  intro o ho other hother hclass name hexplicit hname
  rcases hname with hsame | ⟨-, k, rfl⟩
  · refine (h.explicit o ho other hother hclass ?_ (hexplicit.trans hsame.symm)).symm
    rw [hexplicit]
    rfl
  · have hstem : other.stem ∈ o.nameClass.stems := hclass ▸ other.stem_mem_stems
    exact absurd hexplicit (h.generated o ho _ hstem k)

/-- **When a construct is written**, if the names are apart: when it is well formed. -/
theorem exists_render_iff {namePrefix : String} (op : LabelOperator)
    (hapart : Occurrence.NamesApart namePrefix c.occurrences) :
    (∃ text, (c.render (.start namePrefix op)).result = .ok text) ↔ c.isWellFormed = true := by
  rw [isWellFormed_iff, result_render]
  constructor
  · rintro ⟨text, htext⟩
    exact Template.fault_not_mem_of_ok htext
  · intro hfaultless
    obtain ⟨names, hnames⟩ := Occurrence.exists_nameAll
      (Environment.isOfBuild_start namePrefix op)
      (Environment.hasOrigins_start c.occurrences _ _) hapart (List.Subset.refl _)
    cases hwritten : (c.template.run (.start namePrefix op)).result with
    | ok text => exact ⟨text, rfl⟩
    | error e =>
        -- there are no other errors than those of naming
        rw [Template.error_iff hfaultless, occurrences_template, hnames] at hwritten
        cases hwritten

/-- The names under which there are values belong to parameters that are written. -/
theorem mayBeNamed_of_mem_keys {namePrefix : String} {op : LabelOperator} {text name : String}
    (h : (c.render (.start namePrefix op)).result = .ok text)
    (hname : name ∈ Dictionary.keys (c.render (.start namePrefix op)).environment.params) :
    ∃ p, .parameterAt p ∈ c.occurrences ∧
      Occurrence.MayBeNamed namePrefix (.parameterAt p) name := by
  have hcons := (c.isOfBuild_render namePrefix op).consistent
  rw [hcons.keys, hcons.parameterNaming.mem_names_iff] at hname
  obtain ⟨p, hp⟩ := hname
  obtain ⟨horigins, hbegin⟩ := hasOrigins_render h
  obtain ⟨hmem, hgiven⟩ := horigins (.parameterAt p) name hp
  exact ⟨p, hmem, hbegin ▸ hgiven⟩

/-- The names of the extra parameters are new. -/
theorem NamesFree.firstRepeated_eq_none (h : c.NamesFree config) {text : String}
    (hwritten : (c.render config.environment).result = .ok text) :
    firstRepeated (Dictionary.keys (c.render config.environment).environment.params)
      (config.extraParams.map Prod.fst) = none := by
  refine firstRepeated_eq_none_iff.2 ⟨h.extras, fun name hextra hname => ?_⟩
  obtain ⟨p, hp, hexplicit | ⟨-, k, hgenerated⟩⟩ := mayBeNamed_of_mem_keys hwritten hname
  · exact h.extrasExplicit name hextra _ hp rfl hexplicit
  · exact h.extrasGenerated name hextra k hgenerated

end Construct

/-- **When a build succeeds**, if names do not get in each other's way: when the construct is well
formed. -/
theorem build_succeeds_iff {c : Construct} {config : BuildConfig} (hvalid : config.isValid = true)
    (h : c.NamesFree config) :
    (∃ result, (c.build config).result = .ok result) ↔ c.isWellFormed = true := by
  rw [← Construct.exists_render_iff config.labelOperator h.namesApart]
  constructor
  · rintro ⟨result, hresult⟩
    exact ⟨result.cypher, (Construct.parts_of_build hresult).1⟩
  · rintro ⟨text, htext⟩
    have hcons : (c.render config.environment).environment.Consistent :=
      (c.isOfBuild_render config.namePrefix config.labelOperator).consistent
    have hmerge : (c.render config.environment).environment.mergeExtras config.extraParams =
        .ok ((c.render config.environment).environment.params ++ config.extraParams) := by
      rw [Environment.mergeExtras_eq hcons.tracksKeys, h.firstRepeated_eq_none htext]
    refine ⟨⟨text, (c.render config.environment).environment.params ++ config.extraParams⟩, ?_⟩
    have hwritten : (c.render config.environment).result = .ok text := htext
    simp only [c.result_build hvalid, hwritten, hmerge]
    rfl

/-- A negation without an operand. -/
def emptyNegation : Expression := .application .negation []

/-- A loop in which something that cannot be written stands among the properties of the second
end, and the given condition. -/
def faultyLoop (condition : Expression) : Construct :=
  let node : Variable := ⟨0, .node, some "n"⟩
  .ofClause (.matching ⟨false,
    [⟨⟨node, [], [("a", .placeholder ⟨0, some "limit", .integer 7⟩)], true, true⟩,
      [⟨.ofVariable ⟨1, .relationship, none⟩,
        ⟨node, [], [("b", emptyNegation)], true, true⟩⟩]⟩],
    some condition⟩)

/-- The properties of the second end are not written, so that the loop is built with one condition
and not with another, which is faulty itself. -/
theorem build_faultyLoop_succeeds_iff :
    let config : BuildConfig := ⟨"q", .colon, [("tenant", .text "acme")]⟩
    let sound := faultyLoop (.placeholder ⟨1, none, .bool true⟩)
    let faulty := faultyLoop emptyNegation
    config.isValid = true ∧ sound.NamesFree config ∧ faulty.NamesFree config ∧
      (∃ result, (sound.build config).result = .ok result) ∧ sound.isWellFormed = true ∧
      ¬ (∃ result, (faulty.build config).result = .ok result) ∧ faulty.isWellFormed = false := by
  intro config sound faulty
  have hvalid : config.isValid = true := by decide
  have hsound : sound.NamesFree config := Construct.namesFree_of_not_isPrefix
    (by decide) (by decide) (by decide) (by decide) (by decide)
  have hfaulty : faulty.NamesFree config := Construct.namesFree_of_not_isPrefix
    (by decide) (by decide) (by decide) (by decide) (by decide)
  have hwell : sound.isWellFormed = true := rfl
  have hill : faulty.isWellFormed = false := rfl
  refine ⟨hvalid, hsound, hfaulty, (build_succeeds_iff hvalid hsound).2 hwell, hwell, ?_, hill⟩
  rw [build_succeeds_iff hvalid hfaulty, hill]
  decide

end CypherQuery
