/-
**Generated names can be frozen.**

After a build every identity that was written has a name.  Suppose the same construct is built again
with those names as explicit names, so that nothing is left to be generated.  Then no name is in the
way of another, as the names of one build are all different; each identity gets the name that it
had; and an element of a pattern is written bare exactly if it was, as different variables have
different names.  So the second build has the same text and the same parameters, whatever generated
names would begin with.

Main definitions:

* `CypherQuery.Renaming.Freezes` — a renaming that makes the names of an environment explicit;
* `CypherQuery.Environment.frozen` — the renaming that does nothing else.

Main results:

* `CypherQuery.Construct.render_frozen` — writing a construct whose names are frozen;
* `CypherQuery.build_frozen` — **generated names can be frozen**.
-/

import CypherQuery.Proofs.BuildSuccess
import CypherQuery.Proofs.Renaming
import Mathlib.Data.List.Induction

set_option autoImplicit false

namespace CypherQuery

/-! ### Making names explicit -/

/-- **A renaming that makes the names of an environment explicit**: an identity without an explicit
name gets the name that it was given; explicit names and values are kept. -/
structure Renaming.Freezes (σ : Renaming) (env : Environment) : Prop where
  /-- A name that was given becomes explicit. -/
  given : ∀ (o : Occurrence) name, o.explicitName = none → o.lookup env = some name →
    (o.rename σ).explicitName = some name
  /-- Explicit names are kept. -/
  kept : ∀ (o : Occurrence) name, o.explicitName = some name →
    (o.rename σ).explicitName = some name
  /-- The values of parameters are kept. -/
  values : ∀ p, (σ.ofParameter p).value = p.value

/-- The renaming that makes the names of an environment explicit and does nothing else. -/
def Environment.frozen (env : Environment) : Renaming where
  ofVariable v := { v with name := v.name.or (env.boundVariables.lookup v) }
  ofParameter p := { p with name := p.name.or (env.boundParameters.lookup p) }

theorem Occurrence.explicitName_frozen (o : Occurrence) (env : Environment) :
    (o.rename env.frozen).explicitName = o.explicitName.or (o.lookup env) := by
  cases o <;> rfl

theorem Environment.freezes_frozen (env : Environment) : env.frozen.Freezes env where
  given o name hnone hlookup := by rw [o.explicitName_frozen, hnone, hlookup, Option.none_or]
  kept o name hsome := by rw [o.explicitName_frozen, hsome, Option.some_or]
  values _ := rfl

theorem Occurrence.nameClass_rename (σ : Renaming) (o : Occurrence) :
    (o.rename σ).nameClass = o.nameClass := by
  cases o <;> rfl

theorem Construct.labelOperator_render (c : Construct) (env : Environment) :
    (c.render env).environment.labelOperator = env.labelOperator := by
  rw [environment_render]
  exact (Template.extends_run c.template env).labelOperator

theorem Construct.eq_fill_of_render {c : Construct} {env : Environment} {text : String}
    (h : (c.render env).result = .ok text) :
    text = c.template.fill (c.render env).environment.naming := by
  rw [result_render] at h
  rw [environment_render]
  exact (Template.run_of_ok h).2

/-! ### Filling a template with other identities -/

theorem Template.fault_mem_rename {σ : Renaming} {t : Template} {e : BuildError} :
    .fault e ∈ t.rename σ ↔ .fault e ∈ t := by
  rw [rename, List.mem_map]
  constructor
  · rintro ⟨piece, hpiece, heq⟩
    cases piece <;> cases heq
    exact hpiece
  · intro h
    exact ⟨.fault e, h, rfl⟩

/-- The same text is written if the other identities have the same names. -/
theorem Template.fill_rename {σ : Renaming} {env env' : Environment} {t : Template}
    (h : ∀ o ∈ t.occurrences, (o.rename σ).lookup env' = o.lookup env)
    (hsign : env'.labelOperator = env.labelOperator) :
    fill env'.naming (t.rename σ) = fill env.naming t := by
  induction t with
  | nil => rfl
  | cons piece rest ih =>
      have hrest : fill env'.naming (rename σ rest) = fill env.naming rest :=
        ih fun o ho => h o (by
          rw [occurrences, List.filterMap_cons]
          split
          · exact ho
          · exact List.mem_cons_of_mem _ ho)
      have hpiece : (piece.rename σ).write env'.naming = piece.write env.naming := by
        cases piece with
        | text s => rfl
        | labelSign => exact congrArg LabelOperator.separator hsign
        | fault e => rfl
        | variableName v =>
            have hv : env'.boundVariables.lookup (σ.ofVariable v) = env.boundVariables.lookup v :=
              h (.variableAt v) List.mem_cons_self
            simp [Piece.rename, Piece.write, Environment.naming, hv]
        | parameterName p =>
            have hp : env'.boundParameters.lookup (σ.ofParameter p) =
                env.boundParameters.lookup p := h (.parameterAt p) List.mem_cons_self
            simp [Piece.rename, Piece.write, Environment.naming, hp]
      rw [rename_cons, fill_cons, fill_cons, hpiece, hrest]

/-! ### Writing a construct whose names are frozen -/

/-- A list in which different items stay different is listed without repetition alike. -/
theorem eraseDups_map {α β : Type} [DecidableEq α] [DecidableEq β] {f : α → β} {as : List α}
    (h : ∀ a ∈ as, ∀ b ∈ as, f a = f b → a = b) : (as.map f).eraseDups = as.eraseDups.map f := by
  induction as using List.reverseRecOn with
  | nil => rfl
  | append_singleton as a ih =>
      have has : ∀ b ∈ as, b ∈ as ++ [a] := fun b hb => List.mem_append_left [a] hb
      have hmem : f a ∈ as.map f ↔ a ∈ as := by
        rw [List.mem_map]
        constructor
        · rintro ⟨b, hb, heq⟩
          rwa [← h b (has b hb) a List.mem_concat_self heq]
        · intro ha
          exact ⟨a, ha, rfl⟩
      have hold := ih fun b hb c hc => h b (has b hb) c (has c hc)
      rw [List.map_append, List.map_singleton, eraseDups_append_singleton,
        eraseDups_append_singleton, hold]
      by_cases ha : a ∈ as <;> simp [ha, hmem.2, mt hmem.1]

section

variable {c : Construct} {σ : Renaming} {namePrefix : String} {op : LabelOperator} {text : String}
  (hwritten : (c.render (.start namePrefix op)).result = .ok text)
  (hσ : σ.Freezes (c.render (.start namePrefix op)).environment)

namespace Construct

include hwritten hσ

/-- What has a name has it as its explicit name then. -/
theorem explicitName_rename {o : Occurrence} {name : String}
    (hlookup : o.lookup (c.render (.start namePrefix op)).environment = some name) :
    (o.rename σ).explicitName = some name := by
  cases hexplicit : o.explicitName with
  | none => exact hσ.given o name hexplicit hlookup
  | some given =>
      rcases ((hasOrigins_render hwritten).1 o name hlookup).2 with hname | ⟨hnone, -⟩
      · exact hσ.kept o name hname
      · rw [hexplicit] at hnone
        cases hnone

/-- Identities with the same explicit name are one and the same then. -/
theorem eq_of_explicitName_rename {o other : Occurrence} (ho : o ∈ c.occurrences)
    (hother : other ∈ c.occurrences) (hclass : o.nameClass = other.nameClass)
    (h : (o.rename σ).explicitName = (other.rename σ).explicitName) : o = other := by
  obtain ⟨name, hname⟩ := exists_lookup_of_render hwritten o ho
  obtain ⟨name', hname'⟩ := exists_lookup_of_render hwritten other hother
  rw [explicitName_rename hwritten hσ hname, explicitName_rename hwritten hσ hname'] at h
  cases h
  exact (c.isOfBuild_render namePrefix op).consistent.eq_of_lookup hclass hname hname'

theorem keepsApart : σ.KeepsApart c.occurrences := by
  intro v w hv hw heq
  have hsame : Occurrence.variableAt v = .variableAt w :=
    eq_of_explicitName_rename hwritten hσ hv hw rfl (congrArg Variable.name heq)
  cases hsame
  rfl

theorem namesApart_rename (newPrefix : String) :
    Occurrence.NamesApart newPrefix (c.rename σ).occurrences := by
  rw [occurrences_rename σ (keepsApart hwritten hσ)]
  intro o ho other hother hclass name hexplicit hgiven
  obtain ⟨o, hmem, rfl⟩ := List.mem_map.1 ho
  obtain ⟨other, hmem', rfl⟩ := List.mem_map.1 hother
  rw [Occurrence.nameClass_rename, Occurrence.nameClass_rename] at hclass
  obtain ⟨name', hname'⟩ := exists_lookup_of_render hwritten other hmem'
  have hexplicit' := explicitName_rename hwritten hσ hname'
  -- every identity has an explicit name, so that none is generated
  rcases hgiven with hsame | ⟨hnone, -⟩
  · rw [eq_of_explicitName_rename hwritten hσ hmem' hmem hclass.symm (hsame.trans hexplicit.symm)]
  · rw [hexplicit'] at hnone
    cases hnone

/-- The construct can be written again. -/
theorem exists_render_rename (newPrefix : String) :
    ∃ text', ((c.rename σ).render (.start newPrefix op)).result = .ok text' := by
  rw [exists_render_iff op (namesApart_rename hwritten hσ newPrefix), isWellFormed_iff,
    template_rename σ (keepsApart hwritten hσ)]
  intro e he
  rw [result_render] at hwritten
  exact Template.fault_not_mem_of_ok hwritten e (Template.fault_mem_rename.1 he)

/-- Every identity has the name that it had. -/
theorem lookup_rename (newPrefix : String) {o : Occurrence} (ho : o ∈ c.occurrences) :
    (o.rename σ).lookup ((c.rename σ).render (.start newPrefix op)).environment =
      o.lookup (c.render (.start namePrefix op)).environment := by
  obtain ⟨name, hname⟩ := exists_lookup_of_render hwritten o ho
  obtain ⟨text', hwritten'⟩ := exists_render_rename hwritten hσ newPrefix
  have hmem : o.rename σ ∈ (c.rename σ).occurrences := by
    rw [occurrences_rename σ (keepsApart hwritten hσ)]
    exact List.mem_map_of_mem ho
  obtain ⟨name', hname'⟩ := exists_lookup_of_render hwritten' (o.rename σ) hmem
  have hexplicit := explicitName_rename hwritten hσ hname
  rcases ((hasOrigins_render hwritten').1 _ name' hname').2 with hsame | ⟨hnone, -⟩
  · rw [hname, hname', ← hexplicit, ← hsame]
  · rw [hexplicit] at hnone
    cases hnone

/-- **Writing a construct whose names are frozen** gives the same text. -/
theorem result_render_frozen (newPrefix : String) :
    ((c.rename σ).render (.start newPrefix op)).result = .ok text := by
  obtain ⟨text', hwritten'⟩ := exists_render_rename hwritten hσ newPrefix
  have hlookup : ∀ o ∈ c.template.occurrences,
      (o.rename σ).lookup ((c.rename σ).render (.start newPrefix op)).environment =
        o.lookup (c.render (.start namePrefix op)).environment := by
    rw [occurrences_template]
    exact fun o ho => lookup_rename hwritten hσ newPrefix ho
  have hsign : ((c.rename σ).render (.start newPrefix op)).environment.labelOperator =
      (c.render (.start namePrefix op)).environment.labelOperator := by
    rw [labelOperator_render, labelOperator_render]
    rfl
  rw [hwritten', eq_fill_of_render hwritten', eq_fill_of_render hwritten,
    template_rename σ (keepsApart hwritten hσ), Template.fill_rename hlookup hsign]

theorem parameters_rename : (c.rename σ).parameters = c.parameters.map σ.ofParameter := by
  have hlist : (c.rename σ).occurrences.filterMap Occurrence.parameter? =
      (c.occurrences.filterMap Occurrence.parameter?).map σ.ofParameter := by
    rw [occurrences_rename σ (keepsApart hwritten hσ), List.filterMap_map, List.map_filterMap]
    exact List.filterMap_congr fun o _ => by cases o <;> rfl
  rw [parameters, parameters, hlist]
  refine eraseDups_map fun p hp q hq heq => ?_
  have hmem : ∀ r ∈ c.occurrences.filterMap Occurrence.parameter?,
      .parameterAt r ∈ c.occurrences := fun r hr =>
    mem_parameters_iff.1 (List.mem_eraseDups.2 hr)
  have hsame : Occurrence.parameterAt p = .parameterAt q :=
    eq_of_explicitName_rename hwritten hσ (hmem p hp) (hmem q hq) rfl
      (congrArg Parameter.name heq)
  cases hsame
  rfl

/-- **Writing a construct whose names are frozen** leads to the same parameters. -/
theorem params_render_frozen (newPrefix : String) :
    ((c.rename σ).render (.start newPrefix op)).environment.params =
      (c.render (.start namePrefix op)).environment.params := by
  have hwritten' := result_render_frozen hwritten hσ newPrefix
  rw [params_of_render hwritten, params_of_render hwritten', parameters_rename hwritten hσ,
    List.map_map]
  refine List.map_congr_left fun p hp => ?_
  have hlookup := lookup_rename hwritten hσ newPrefix (mem_parameters_iff.1 hp)
  have hname : ((c.rename σ).render (.start newPrefix op)).environment.naming.ofParameter
        (σ.ofParameter p) =
      (c.render (.start namePrefix op)).environment.naming.ofParameter p :=
    congrArg (Option.getD · "") hlookup
  rw [Function.comp_apply, hname, hσ.values]

end Construct

end

/-! ### Building it -/

/-- The parameters at the end of a build depend on the entries alone. -/
theorem Environment.mergeExtras_congr {env env' : Environment} (h : env.TracksKeys)
    (h' : env'.TracksKeys) (hparams : env.params = env'.params) (extras : List (String × Value)) :
    env.mergeExtras extras = env'.mergeExtras extras := by
  rw [mergeExtras_eq h, mergeExtras_eq h', hparams]

/-- **Generated names can be frozen.**  A build that succeeds is repeated with the names that were
given in it as explicit names: whatever generated names would begin with, the text is the same, and
so are the parameters, in the same order. -/
theorem build_frozen {c : Construct} {config : BuildConfig} {result : BuildResult}
    (h : (c.build config).result = .ok result) {σ : Renaming}
    (hσ : σ.Freezes (c.render config.environment).environment) {newPrefix : String}
    (hvalid : BuildConfig.isValid { config with namePrefix := newPrefix } = true) :
    ((c.rename σ).build { config with namePrefix := newPrefix }).result = .ok result := by
  obtain ⟨hwritten, hmerge⟩ := Construct.parts_of_build h
  have hkeys := (c.isOfBuild_render config.namePrefix config.labelOperator).consistent.tracksKeys
  have hkeys' :=
    ((c.rename σ).isOfBuild_render newPrefix config.labelOperator).consistent.tracksKeys
  have hparams := Construct.params_render_frozen hwritten hσ newPrefix
  -- the outcome of adding the extra parameters depends on the entries alone
  have hmerge' := (Environment.mergeExtras_congr hkeys' hkeys hparams _).trans hmerge
  have hwritten' := Construct.result_render_frozen hwritten hσ newPrefix
  rw [(c.rename σ).result_build hvalid]
  simp only [BuildConfig.environment, hwritten', hmerge']
  rfl

/-- A list in which an explicit name keeps the first generated one from being given. -/
def skippingList : Construct :=
  let anonymous : Variable := ⟨1, .value, none⟩
  let limit : Expression := .placeholder ⟨0, none, .integer 10⟩
  .ofExpression (.list [.reference ⟨0, .value, some "var0"⟩, .reference anonymous, limit,
    .equals (.reference anonymous) limit])

/-- The list is built with the same names when they are explicit and generated ones would begin
otherwise. -/
theorem build_skippingList_frozen :
    let config : BuildConfig := ⟨"", .colon, [("tenant", .text "acme")]⟩
    let env := (skippingList.render config.environment).environment
    let result : BuildResult := ⟨"[var0, var1, $param0, var1 = $param0]",
      [("param0", .integer 10), ("tenant", .text "acme")]⟩
    (skippingList.build config).result = .ok result ∧ env.frozen.Freezes env ∧
      BuildConfig.isValid { config with namePrefix := "q" } = true ∧
      ((skippingList.rename env.frozen).build { config with namePrefix := "q" }).result =
        .ok result := by
  have hvalid : BuildConfig.isValid ⟨"q", .colon, [("tenant", .text "acme")]⟩ = true := by decide
  exact ⟨rfl, Environment.freezes_frozen _, hvalid,
    build_frozen rfl (Environment.freezes_frozen _) hvalid⟩

end CypherQuery
