/-
**The parameters of a build are those that its text needs.**

While a construct is written, a parameter gets a name and an entry when it is met for the first
time, and nothing happens when it is met again.  So the entries are those of the different
parameters that are written, in the order in which they are written first.  A parameter that stands
in the tree but is not written, because the properties around it are left out, has no entry.

The values in the entries are those of the parameters.  That is so in a build and not in every
session, where another value may be recorded under the name of a parameter before it is written.

Main definitions:

* `CypherQuery.Environment.IsOfBuild` — the environments of a build;
* `CypherQuery.Construct.parameters` — **the parameters that are written**, each once.

Main results:

* `CypherQuery.Environment.IsOfBuild.name` — naming an identity leads from an environment of a build
  to another;
* `CypherQuery.Occurrence.parameters_nameAll` — the parameters that were met are those named;
* `CypherQuery.params_of_build` — **the parameters of a build**.
-/

import CypherQuery.Proofs.BuildEnd
import CypherQuery.Proofs.Session
import CypherQuery.Proofs.TwoPass

set_option autoImplicit false

namespace CypherQuery

/-! ### The environments of a build -/

namespace Environment

/-- **The environments of a build**: the tables agree, and the values are those of the
parameters. -/
structure IsOfBuild (env : Environment) : Prop where
  /-- The tables agree. -/
  consistent : env.Consistent
  /-- Every parameter has its own value. -/
  params : env.params = env.boundParameters.map fun entry => (entry.2, entry.1.value)

theorem isOfBuild_start (namePrefix : String) (op : LabelOperator) :
    (start namePrefix op).IsOfBuild :=
  ⟨consistent_start namePrefix op, rfl⟩

/-- In a build, the value of a parameter is accepted every time. -/
theorem IsOfBuild.recordAgain {env : Environment} (h : env.IsOfBuild) {p : Parameter}
    {name : String} (hp : env.boundParameters.lookup p = some name) :
    env.recordAgain name p.value = .ok name := by
  have hentry : (name, p.value) ∈ env.params := by
    rw [h.params]
    exact List.mem_map.2 ⟨(p, name), h.consistent.parameterNaming.lookup_eq_some_iff.1 hp, rfl⟩
  have hkeys : (Dictionary.keys env.params).Nodup := by
    rw [h.consistent.keys]
    exact h.consistent.parameterNaming.names
  simp [Environment.recordAgain, Dictionary.get?_of_mem hkeys hentry, Value.same_self]

/-- What naming an identity does to the parameters: nothing, or one of them is met for the first
time. -/
theorem parameters_name_cases (o : Occurrence) (env : Environment) :
    ((o.name env).environment.boundParameters = env.boundParameters ∧
      (o.name env).environment.params = env.params) ∨
    ∃ p name names, o = .parameterAt p ∧ env.names.Takes .parameterName name names ∧
      (o.name env).environment = env.bindParameter p name p.value names := by
  cases o with
  | variableAt v =>
      left
      rcases nameOf_cases v env with ⟨name, -, hstep⟩ | ⟨e, -, -, hstep⟩ |
        ⟨name, names, -, -, hstep⟩ <;> rw [Occurrence.name, hstep] <;> exact ⟨rfl, rfl⟩
  | parameterAt p =>
      rcases recordParameter_cases p p.value env with ⟨name, -, hstep⟩ | ⟨e, -, -, hstep⟩ |
        ⟨name, names, -, hchoice, hstep⟩ <;> rw [Occurrence.name, hstep]
      · exact .inl ⟨rfl, rfl⟩
      · exact .inl ⟨rfl, rfl⟩
      · exact .inr ⟨p, name, names, rfl, takes_of_choose hchoice, rfl⟩

/-- **Naming an identity** leads from an environment of a build to another. -/
theorem IsOfBuild.name {env : Environment} (h : env.IsOfBuild) (o : Occurrence) :
    (o.name env).environment.IsOfBuild := by
  refine ⟨(grows_name o env h.consistent).1, ?_⟩
  rcases parameters_name_cases o env with
    ⟨hbound, hparams⟩ | ⟨p, name, names, -, htakes, hnew⟩
  · rw [hbound, hparams]
    exact h.params
  · -- the new entry comes last in both tables
    rw [hnew, h.consistent.params_bindParameter p.value htakes, h.params, bindParameter,
      List.map_append]
    rfl

theorem IsOfBuild.run {env : Environment} (h : env.IsOfBuild) (t : Template) :
    (t.run env).environment.IsOfBuild :=
  Template.relates_run (R := fun env later => env.IsOfBuild → later.IsOfBuild)
    (fun _ h => h) (fun _ _ _ h₁ h₂ h => h₂ (h₁ h)) (fun o _ h => h.name o) t env h

theorem IsOfBuild.runPiece {env : Environment} (h : env.IsOfBuild) (piece : Piece) :
    (piece.run env).environment.IsOfBuild := by
  have hrun := h.run [piece]
  rwa [Template.run_singleton] at hrun

end Environment

/-! ### The parameters that are met -/

/-- The parameter at a place, if there is one. -/
def Occurrence.parameter? : Occurrence → Option Parameter
  | .variableAt _ => none
  | .parameterAt p => some p

/-- **The parameters that are written**, each once, in the order in which they are written
first. -/
def Construct.parameters (c : Construct) : List Parameter :=
  (c.occurrences.filterMap Occurrence.parameter?).eraseDups

theorem Construct.mem_parameters_iff {c : Construct} {p : Parameter} :
    p ∈ c.parameters ↔ .parameterAt p ∈ c.occurrences := by
  rw [parameters, List.mem_eraseDups, List.mem_filterMap]
  constructor
  · rintro ⟨o, ho, hp⟩
    cases o with
    | variableAt v => cases hp
    | parameterAt q =>
        cases hp
        exact ho
  · intro h
    exact ⟨.parameterAt p, h, rfl⟩

/-- One more item is listed if it is new. -/
theorem eraseDups_append_singleton {α : Type} [DecidableEq α] (as : List α) (a : α) :
    (as ++ [a]).eraseDups = if a ∈ as then as.eraseDups else as.eraseDups ++ [a] := by
  rw [List.eraseDups_append]
  by_cases h : a ∈ as
  · simp [List.removeAll, h]
  · simp [List.removeAll, h, List.eraseDups_cons]

namespace Occurrence

/-- **A parameter is listed when it is named for the first time.** -/
theorem parameters_name {o : Occurrence} {env : Environment} {name : String}
    (h : (o.name env).result = .ok name) {met : List Parameter}
    (hmet : env.boundParameters.map Prod.fst = met.eraseDups) :
    (o.name env).environment.boundParameters.map Prod.fst =
      (met ++ o.parameter?.toList).eraseDups := by
  cases o with
  | variableAt v =>
      simp only [parameter?, Option.toList_none, List.append_nil, ← hmet]
      rcases Environment.nameOf_cases v env with ⟨name, -, hstep⟩ | ⟨e, -, -, hstep⟩ |
        ⟨name, names, -, -, hstep⟩ <;> rw [Occurrence.name, hstep]
      rfl
  | parameterAt p =>
      have hmem : p ∈ met ↔ p ∈ env.boundParameters.map Prod.fst := by
        rw [hmet, List.mem_eraseDups]
      simp only [parameter?, Option.toList_some, eraseDups_append_singleton, ← hmet]
      rcases Environment.recordParameter_cases p p.value env with
        ⟨known, hknown, hstep⟩ | ⟨e, -, -, hstep⟩ | ⟨new, names, hnew, -, hstep⟩ <;>
        rw [Occurrence.name, hstep] at h ⊢
      · obtain ⟨before, behind, htable, -⟩ := List.lookup_eq_some_iff.1 hknown
        have hp : p ∈ env.boundParameters.map Prod.fst := by simp [htable]
        rw [if_pos (hmem.2 hp)]
      · cases h
      · have hp : p ∉ env.boundParameters.map Prod.fst := by
          intro hp
          obtain ⟨⟨q, found⟩, hentry, rfl⟩ := List.mem_map.1 hp
          simpa using List.lookup_eq_none_iff.1 hnew (q, found) hentry
        rw [if_neg fun hp' => hp (hmem.1 hp')]
        simp [Environment.bindParameter]

/-- **The parameters that were met are those named**, in the order of their first naming. -/
theorem parameters_nameAll {occurrences : List Occurrence} :
    ∀ {env : Environment} {names : List String} {met : List Parameter},
      (nameAll occurrences env).result = .ok names →
      env.boundParameters.map Prod.fst = met.eraseDups →
      (nameAll occurrences env).environment.boundParameters.map Prod.fst =
        (met ++ occurrences.filterMap parameter?).eraseDups := by
  induction occurrences with
  | nil =>
      intro env names met _ hmet
      rw [List.filterMap_nil, List.append_nil, ← hmet]
      rfl
  | cons o rest ih =>
      intro env names met h hmet
      obtain ⟨first, hfirst, htail⟩ := BuildM.ok_of_bind (x := o.name) h
      obtain ⟨others, hothers, -⟩ := BuildM.ok_of_bind (x := nameAll rest) htail
      have hrest := ih hothers (parameters_name hfirst hmet)
      have hparameters : (o :: rest).filterMap parameter? =
          o.parameter?.toList ++ rest.filterMap parameter? := by
        cases o <;> rfl
      rw [(nameAll_cons_of_ok hfirst).2, hrest, hparameters, List.append_assoc]

end Occurrence

/-! ### The entries -/

namespace Environment

/-- The table of parameters, from the identities and their names. -/
theorem Consistent.boundParameters_eq {env : Environment} (h : env.Consistent) :
    env.boundParameters =
      (env.boundParameters.map Prod.fst).map fun p => (p, env.naming.ofParameter p) := by
  have hentry : ∀ entry ∈ env.boundParameters,
      (entry.1, env.naming.ofParameter entry.1) = entry := by
    rintro ⟨p, name⟩ hmem
    have hlookup := h.parameterNaming.lookup_eq_some_iff.2 hmem
    simp [Environment.naming, hlookup]
  rw [List.map_map]
  exact ((List.map_congr_left hentry).trans (List.map_id' _)).symm

end Environment

namespace Construct

/-- Writing a construct leads to an environment of a build. -/
theorem isOfBuild_render (c : Construct) (namePrefix : String) (op : LabelOperator) :
    (c.render (.start namePrefix op)).environment.IsOfBuild := by
  rw [environment_render]
  exact (Environment.isOfBuild_start namePrefix op).run c.template

/-- The parameters that a build has met, with their names. -/
theorem boundParameters_of_render {c : Construct} {namePrefix : String} {op : LabelOperator}
    {text : String} (h : (c.render (.start namePrefix op)).result = .ok text) :
    (c.render (.start namePrefix op)).environment.boundParameters =
      c.parameters.map fun p =>
        (p, (c.render (.start namePrefix op)).environment.naming.ofParameter p) := by
  have hmet : (c.render (.start namePrefix op)).environment.boundParameters.map Prod.fst =
      c.parameters := by
    rw [result_render] at h
    obtain ⟨⟨names, hnames⟩, -⟩ := Template.run_of_ok h
    rw [occurrences_template] at hnames
    -- nothing has been met at the beginning
    have hnone : (Environment.start namePrefix op).boundParameters.map Prod.fst =
        ([] : List Parameter).eraseDups := rfl
    have hnamed := Occurrence.parameters_nameAll (by rw [hnames]) hnone
    rw [hnames, List.nil_append] at hnamed
    rw [environment_render]
    exact hnamed
  rw [(c.isOfBuild_render namePrefix op).consistent.boundParameters_eq, hmet]

/-- The entries that a build has made. -/
theorem params_of_render {c : Construct} {namePrefix : String} {op : LabelOperator}
    {text : String} (h : (c.render (.start namePrefix op)).result = .ok text) :
    (c.render (.start namePrefix op)).environment.params =
      c.parameters.map fun p =>
        ((c.render (.start namePrefix op)).environment.naming.ofParameter p, p.value) := by
  rw [(c.isOfBuild_render namePrefix op).params, boundParameters_of_render h, List.map_map]
  rfl

end Construct

/-- **The parameters of a build**: one entry for every parameter that is written, in the order in
which they are written first, each under the name that stands in the text and with the value of the
parameter; then the extra parameters.  No name stands twice, and a parameter that is not written has
no name. -/
theorem params_of_build {c : Construct} {config : BuildConfig} {result : BuildResult}
    (h : (c.build config).result = .ok result) :
    let env := (c.render config.environment).environment
    result.cypher = c.written env.naming ∧
      result.params =
        (c.parameters.map fun p => (env.naming.ofParameter p, p.value)) ++ config.extraParams ∧
      (Dictionary.keys result.params).Nodup ∧
      ∀ p, .parameterAt p ∉ c.occurrences → env.boundParameters.lookup p = none := by
  intro env
  obtain ⟨hwritten, hmerge⟩ := Construct.parts_of_build h
  have hbound : env.boundParameters = _ := Construct.boundParameters_of_render hwritten
  have hparams : env.params = _ := Construct.params_of_render hwritten
  have hcons : env.Consistent :=
    (c.isOfBuild_render config.namePrefix config.labelOperator).consistent
  have hkeys : (Dictionary.keys env.params).Nodup := by
    rw [hcons.keys]
    exact hcons.parameterNaming.names
  obtain ⟨hentries, hnodup⟩ := Environment.eq_of_mergeExtras hcons.tracksKeys hkeys hmerge
  refine ⟨?_, ?_, hnodup, ?_⟩
  · rw [Construct.result_render] at hwritten
    obtain ⟨-, hfill⟩ := Template.run_of_ok hwritten
    rw [hfill, ← Construct.environment_render]
    rfl
  · rw [hentries, hparams]
    rfl
  · intro p hp
    refine List.lookup_eq_none_iff.2 ?_
    rintro ⟨q, name⟩ hentry
    rw [hbound] at hentry
    obtain ⟨q', hq, heq⟩ := List.mem_map.1 hentry
    cases heq
    rw [bne_iff_ne]
    rintro rfl
    exact hp (Construct.mem_parameters_iff.1 hq)

/-- A parameter that stands only at the second end of a loop. -/
def droppedParameter : Parameter := ⟨2, none, .integer 8⟩

/-- A loop with parameters at both ends, of which one is written twice and one is not written. -/
def loopClause : Construct :=
  let node : Variable := ⟨0, .node, some "n"⟩
  let named : Expression := .placeholder ⟨0, some "param0", .integer 7⟩
  let shared : Expression := .placeholder ⟨1, none, .text "x"⟩
  .ofClause (.matching ⟨false,
    [⟨⟨node, [], [("a", named), ("b", shared)], true, true⟩,
      [⟨.ofVariable ⟨1, .relationship, none⟩,
        ⟨node, [], [("c", .placeholder droppedParameter), ("d", shared)], true, true⟩⟩]⟩],
    some (.equals shared named)⟩)

/-- What is built from it with an extra parameter. -/
def loopResult : BuildResult :=
  ⟨"MATCH (n \x7ba: $param0, b: $param1\x7d)-[this0]->(n)\nWHERE $param1 = $param0",
    [("param0", .integer 7), ("param1", .text "x"), ("tenant", .text "acme")]⟩

/-- There are entries for the two parameters that are written and for the extra one. -/
theorem params_of_loopClause :
    let config : BuildConfig := ⟨"", .colon, [("tenant", .text "acme")]⟩
    let env := (loopClause.render config.environment).environment
    (loopClause.build config).result = .ok loopResult ∧
      .parameterAt droppedParameter ∉ loopClause.occurrences ∧
      loopResult.cypher = loopClause.written env.naming ∧
      loopResult.params =
        (loopClause.parameters.map fun p => (env.naming.ofParameter p, p.value)) ++
          config.extraParams ∧
      (Dictionary.keys loopResult.params).Nodup ∧
      ∀ p, .parameterAt p ∉ loopClause.occurrences → env.boundParameters.lookup p = none :=
  ⟨rfl, by decide, params_of_build rfl⟩

end CypherQuery
