/-
**Values of parameters never show in the text of a build.**

A parameter may be handed over with another value, as long as it stays the same parameter under the
same name.  Then the build takes the same course: it fails with the same error, or it has the same
text and the same names, each with the value that belongs to it now.

Two builds are compared step by step.  Their environments differ in nothing but the parameters in
the table and the values in the entries, so that one is the image of the other.  The values are
looked at in a single place, where a parameter is met again; and there the value is compared with
itself, in either build.

Main definitions:

* `CypherQuery.Environment.mapParameters` — the environment of a build with other parameters;
* `CypherQuery.Construct.withValues` — **a construct with other values of its parameters**.

Main results:

* `CypherQuery.Occurrence.name_mapParameters` — a naming step with other parameters;
* `CypherQuery.Template.run_mapParameters` — a run with other parameters;
* `CypherQuery.build_withValues` — **two builds that differ in values alone**.
-/

import CypherQuery.Proofs.Faults
import CypherQuery.Proofs.Substitution

set_option autoImplicit false

namespace CypherQuery

/-! ### Tables with other identities -/

/-- An identity is found in the image of a table as it was in the table, if no other identity has
the same image. -/
theorem lookup_map_fst {α β : Type} [DecidableEq α] (f : α → α) {a : α} {table : List (α × β)}
    (h : ∀ entry ∈ table, f entry.1 = f a → entry.1 = a) :
    (table.map fun entry => (f entry.1, entry.2)).lookup (f a) = table.lookup a := by
  induction table with
  | nil => rfl
  | cons entry rest ih =>
      obtain ⟨b, value⟩ := entry
      rw [List.forall_mem_cons] at h
      by_cases hab : a = b
      · subst hab
        simp
      · have hne : (a == b) = false := by simpa using hab
        have hne' : (f a == f b) = false := by
          simpa using fun heq : f a = f b => hab (h.1 heq.symm).symm
        simp only [List.map_cons, List.lookup_cons, hne, hne']
        exact ih h.2

/-- The identity at a place with other parameters. -/
def Occurrence.mapParameter (f : Parameter → Parameter) : Occurrence → Occurrence
  | .variableAt v => .variableAt v
  | .parameterAt p => .parameterAt (f p)

namespace Environment

/-- **The environment of a build with other parameters**: they have the same names, and their own
values. -/
def mapParameters (f : Parameter → Parameter) (env : Environment) : Environment :=
  { env with
    boundParameters := env.boundParameters.map fun entry => (f entry.1, entry.2)
    params := env.boundParameters.map fun entry => (entry.2, (f entry.1).value) }

end Environment

section

variable {f : Parameter → Parameter} (hname : ∀ p, (f p).name = p.name) {ps : List Parameter}
  (hinj : ∀ p ∈ ps, ∀ q ∈ ps, f p = f q → p = q)

/-- Whether only certain parameters have been met. -/
def Environment.HasMetOnly (ps : List Parameter) (env : Environment) : Prop :=
  ∀ entry ∈ env.boundParameters, entry.1 ∈ ps

/-! ### Naming steps -/

namespace Environment

theorem keys_mapParameters (f : Parameter → Parameter) (env : Environment) :
    Dictionary.keys (env.mapParameters f).params = env.boundParameters.map Prod.snd := by
  rw [Dictionary.keys, Environment.mapParameters, List.map_map]
  rfl

include hinj in
/-- With other parameters it is still the environment of a build, if different parameters stay
different. -/
theorem IsOfBuild.mapParameters {env : Environment} (h : env.IsOfBuild) (hmet : env.HasMetOnly ps) :
    (env.mapParameters f).IsOfBuild := by
  have hnames : (env.mapParameters f).boundParameters.map Prod.snd =
      env.boundParameters.map Prod.snd := by
    rw [Environment.mapParameters, List.map_map]
    rfl
  refine ⟨⟨h.consistent.variableNaming, ⟨?_, ?_⟩, h.consistent.variableTaken, ?_, ?_⟩, ?_⟩
  · have hids : (env.mapParameters f).boundParameters.map Prod.fst =
        (env.boundParameters.map Prod.fst).map f := by
      rw [Environment.mapParameters, List.map_map, List.map_map]
      rfl
    rw [hids]
    refine List.Nodup.map_on ?_ h.consistent.parameterNaming.identities
    intro p hp q hq heq
    obtain ⟨entry, hentry, rfl⟩ := List.mem_map.1 hp
    obtain ⟨entry', hentry', rfl⟩ := List.mem_map.1 hq
    exact hinj _ (hmet entry hentry) _ (hmet entry' hentry') heq
  · rw [hnames]
    exact h.consistent.parameterNaming.names
  · rw [hnames]
    exact h.consistent.parameterTaken
  · rw [hnames, keys_mapParameters]
  · rw [Environment.mapParameters, List.map_map]
    rfl

include hinj in
/-- A parameter has the name that it had. -/
theorem lookup_mapParameters {env : Environment} (hmet : env.HasMetOnly ps) {p : Parameter}
    (hp : p ∈ ps) :
    (env.mapParameters f).boundParameters.lookup (f p) = env.boundParameters.lookup p :=
  lookup_map_fst f fun entry hentry heq => hinj entry.1 (hmet entry hentry) p hp heq

/-- The names of variables do not depend on the parameters. -/
theorem nameOf_mapParameters (f : Parameter → Parameter) (v : Variable) (env : Environment) :
    (nameOf v (env.mapParameters f)).result = (nameOf v env).result ∧
      (nameOf v (env.mapParameters f)).environment =
        (nameOf v env).environment.mapParameters f := by
  have hlookup : (env.mapParameters f).boundVariables.lookup v =
      env.boundVariables.lookup v := rfl
  have hchoose : (env.mapParameters f).choose .variableName v.name v.kind.stem =
      env.choose .variableName v.name v.kind.stem := rfl
  simp only [nameOf, hlookup, hchoose]
  cases env.boundVariables.lookup v with
  | some name => exact ⟨rfl, rfl⟩
  | none => cases env.choose .variableName v.name v.kind.stem <;> exact ⟨rfl, rfl⟩

include hname hinj in
/-- The first time, a parameter gets the name that the other one gets; later, its value is compared
with itself. -/
theorem recordParameter_mapParameters {env : Environment} (h : env.IsOfBuild)
    (hmet : env.HasMetOnly ps) {p : Parameter} (hp : p ∈ ps) :
    (recordParameter (f p) (f p).value (env.mapParameters f)).result =
        (recordParameter p p.value env).result ∧
      (recordParameter (f p) (f p).value (env.mapParameters f)).environment =
        (recordParameter p p.value env).environment.mapParameters f := by
  have hlookup := lookup_mapParameters hinj hmet hp
  have hmapped := h.mapParameters hinj hmet
  have hchoose : (env.mapParameters f).choose .parameterName (f p).name "param" =
      env.choose .parameterName p.name "param" := by
    rw [hname]
    rfl
  simp only [recordParameter, hlookup, hchoose]
  cases hknown : env.boundParameters.lookup p with
  | some name =>
      have hagain := hmapped.recordAgain (hlookup.trans hknown)
      simp only [h.recordAgain hknown, hagain, and_self]
  | none =>
      cases hchoice : env.choose .parameterName p.name "param" with
      | error e => exact ⟨rfl, rfl⟩
      | ok choice =>
          obtain ⟨name, names⟩ := choice
          have htakes := takes_of_choose hchoice
          -- the new entry comes last in the image as well
          have hinsert : Dictionary.insert
              (env.boundParameters.map fun entry => (entry.2, (f entry.1).value)) name
                (f p).value =
              (env.boundParameters.map fun entry => (entry.2, (f entry.1).value)) ++
                [(name, (f p).value)] :=
            hmapped.consistent.params_bindParameter (p := f p) (f p).value htakes
          refine ⟨rfl, ?_⟩
          simp only [mapParameters, hinsert, List.map_append, List.map_cons, List.map_nil]

end Environment

include hname hinj in
/-- **A naming step with other parameters** has the same result, and leads to the image of the
environment. -/
theorem Occurrence.name_mapParameters {o : Occurrence} {env : Environment} (h : env.IsOfBuild)
    (hmet : env.HasMetOnly ps) (ho : ∀ p ∈ o.parameter?, p ∈ ps) :
    ((o.mapParameter f).name (env.mapParameters f)).result = (o.name env).result ∧
      ((o.mapParameter f).name (env.mapParameters f)).environment =
        (o.name env).environment.mapParameters f := by
  cases o with
  | variableAt v => exact Environment.nameOf_mapParameters f v env
  | parameterAt p => exact Environment.recordParameter_mapParameters hname hinj h hmet (ho p rfl)

/-- A naming step meets no other parameters than its own. -/
theorem Environment.HasMetOnly.name {env : Environment} (hmet : env.HasMetOnly ps) {o : Occurrence}
    (ho : ∀ p ∈ o.parameter?, p ∈ ps) : (o.name env).environment.HasMetOnly ps := by
  intro entry hentry
  rcases Environment.parameters_name_cases o env with
    ⟨hbound, -⟩ | ⟨p, name, names, rfl, -, hnew⟩
  · rw [hbound] at hentry
    exact hmet entry hentry
  · rw [hnew] at hentry
    rcases List.mem_append.1 hentry with hold | hlast
    · exact hmet entry hold
    · rw [List.mem_singleton.1 hlast]
      exact ho p rfl

/-! ### Runs -/

/-- The parameter at a place of a piece with other parameters. -/
theorem Occurrence.piece_mapParameter (o : Occurrence) :
    o.piece.mapParameter f = (o.mapParameter f).piece := by
  cases o <;> rfl

theorem Occurrence.write_mapParameter (o : Occurrence) (name : String) :
    (o.mapParameter f).write name = o.write name := by
  cases o <;> rfl

include hname hinj in
/-- Writing a piece with another parameter. -/
theorem Piece.run_mapParameter {piece : Piece} {env : Environment} (h : env.IsOfBuild)
    (hmet : env.HasMetOnly ps)
    (hpiece : ∀ o ∈ piece.occurrence?, ∀ p ∈ o.parameter?, p ∈ ps) :
    ((piece.mapParameter f).run (env.mapParameters f)).result = (piece.run env).result ∧
      ((piece.mapParameter f).run (env.mapParameters f)).environment =
        (piece.run env).environment.mapParameters f ∧
      (piece.run env).environment.HasMetOnly ps := by
  cases piece using Piece.cases_occurrence with
  | text s => exact ⟨rfl, rfl, hmet⟩
  | labelSign => exact ⟨rfl, rfl, hmet⟩
  | fault e => exact ⟨rfl, rfl, hmet⟩
  | identity o =>
      have ho := hpiece o o.occurrence?_piece
      obtain ⟨hresult, henv⟩ := Occurrence.name_mapParameters hname hinj h hmet ho
      rw [Occurrence.piece_mapParameter, Occurrence.run_piece, Occurrence.run_piece]
      simp only [BuildM.bind_pure_apply, hresult, henv, Occurrence.write_mapParameter, true_and]
      exact hmet.name ho

include hname hinj in
/-- **A run with other parameters** has the same result, and leads to the image of the
environment. -/
theorem Template.run_mapParameters {t : Template} : ∀ {env : Environment}, env.IsOfBuild →
    env.HasMetOnly ps → (∀ o ∈ t.occurrences, ∀ p ∈ o.parameter?, p ∈ ps) →
    (run (t.mapParameters f) (env.mapParameters f)).result = (run t env).result ∧
      (run (t.mapParameters f) (env.mapParameters f)).environment =
        (run t env).environment.mapParameters f := by
  induction t with
  | nil => intro env _ _ _; exact ⟨rfl, rfl⟩
  | cons piece rest ih =>
      intro env h hmet ht
      obtain ⟨hpiece, hrest⟩ := forall_mem_occurrences_cons.1 ht
      obtain ⟨hresult, henv, hmet'⟩ := Piece.run_mapParameter hname hinj h hmet hpiece
      rw [mapParameters_cons, run_cons, run_cons]
      cases hrun : (piece.run env).result with
      | error e =>
          rw [BuildM.bind_of_error _ hrun, BuildM.bind_of_error _ (hresult.trans hrun)]
          exact ⟨rfl, henv⟩
      | ok s =>
          obtain ⟨hresult', henv'⟩ := ih (h.runPiece piece) hmet' hrest
          rw [BuildM.bind_of_ok _ hrun, BuildM.bind_of_ok _ (hresult.trans hrun), henv,
            BuildM.bind_pure_apply, BuildM.bind_pure_apply, hresult', henv']
          exact ⟨rfl, rfl⟩

end

/-! ### Builds -/

/-- A parameter with another value, which depends on its number. -/
def Parameter.withValue (values : Nat → Value) (p : Parameter) : Parameter :=
  { p with value := values p.id }

namespace Construct

/-- **A construct with other values of its parameters.** -/
def withValues (values : Nat → Value) (c : Construct) : Construct :=
  c.mapParameters (Parameter.withValue values)

/-- Whether the number of a parameter says which one it is: those that are written under the same
number are one and the same. -/
def IsNumbered (c : Construct) : Prop :=
  ∀ p ∈ c.parameters, ∀ q ∈ c.parameters, p.id = q.id → p = q

/-- Writing a construct with other values has the same result, and leads to the image of the
environment. -/
theorem render_withValues {c : Construct} (h : c.IsNumbered) (values : Nat → Value)
    (namePrefix : String) (op : LabelOperator) :
    ((c.withValues values).render (.start namePrefix op)).result =
        (c.render (.start namePrefix op)).result ∧
      ((c.withValues values).render (.start namePrefix op)).environment =
        (c.render (.start namePrefix op)).environment.mapParameters
          (Parameter.withValue values) := by
  have hinj : ∀ p ∈ c.parameters, ∀ q ∈ c.parameters,
      p.withValue values = q.withValue values → p = q :=
    fun p hp q hq heq => h p hp q hq (congrArg Parameter.id heq :)
  have hmet : (Environment.start namePrefix op).HasMetOnly c.parameters :=
    fun _ hentry => absurd hentry List.not_mem_nil
  have hparameters : ∀ o ∈ c.template.occurrences, ∀ p ∈ o.parameter?, p ∈ c.parameters := by
    rw [occurrences_template]
    intro o ho p hp
    cases o with
    | variableAt v => cases hp
    | parameterAt q =>
        cases hp
        exact mem_parameters_iff.2 ho
  have hrun := Template.run_mapParameters (f := Parameter.withValue values) (fun _ => rfl) hinj
    (Environment.isOfBuild_start namePrefix op) hmet hparameters
  rw [← template_mapParameters] at hrun
  rw [result_render, result_render, environment_render, environment_render]
  exact hrun

/-- With other values there are entries under the same names. -/
theorem params_withValues_of_render {c : Construct} (h : c.IsNumbered) (values : Nat → Value)
    {namePrefix : String} {op : LabelOperator} {text : String}
    (hwritten : (c.render (.start namePrefix op)).result = .ok text) :
    ((c.withValues values).render (.start namePrefix op)).environment.params =
      c.parameters.map fun p =>
        ((c.render (.start namePrefix op)).environment.naming.ofParameter p, values p.id) := by
  obtain ⟨-, henv⟩ := render_withValues h values namePrefix op
  simp only [henv, Environment.mapParameters, boundParameters_of_render hwritten, List.map_map]
  rfl

/-- With other values the same extra parameters can be added. -/
theorem mergeExtras_withValues {c : Construct} (h : c.IsNumbered) (values : Nat → Value)
    {namePrefix : String} {op : LabelOperator} {text : String}
    (hwritten : (c.render (.start namePrefix op)).result = .ok text)
    {extras extras' : List (String × Value)}
    (hextras : extras'.map Prod.fst = extras.map Prod.fst) :
    let env := (c.render (.start namePrefix op)).environment
    let env' := ((c.withValues values).render (.start namePrefix op)).environment
    (∃ e, env.mergeExtras extras = .error e ∧ env'.mergeExtras extras' = .error e) ∨
      env.mergeExtras extras = .ok
        ((c.parameters.map fun p => (env.naming.ofParameter p, p.value)) ++ extras) ∧
      env'.mergeExtras extras' = .ok
        ((c.parameters.map fun p => (env.naming.ofParameter p, values p.id)) ++ extras') := by
  intro env env'
  have hcons : env.Consistent := (c.isOfBuild_render namePrefix op).consistent
  have hcons' : env'.Consistent := ((c.withValues values).isOfBuild_render namePrefix op).consistent
  have hkeys : Dictionary.keys env'.params = Dictionary.keys env.params := by
    have henv : env' = env.mapParameters (Parameter.withValue values) :=
      (render_withValues h values namePrefix op).2
    rw [henv, Environment.keys_mapParameters, hcons.keys]
  have hparams : env.params = _ := params_of_render hwritten
  have hparams' : env'.params = _ := params_withValues_of_render h values hwritten
  rw [Environment.mergeExtras_eq hcons.tracksKeys, Environment.mergeExtras_eq hcons'.tracksKeys,
    hkeys, hextras]
  -- the outcome depends on the names alone
  cases firstRepeated (Dictionary.keys env.params) (extras.map Prod.fst) with
  | some name => exact .inl ⟨_, rfl, rfl⟩
  | none =>
      rw [hparams, hparams']
      exact .inr ⟨rfl, rfl⟩

end Construct

/-- **Two builds that differ in values alone** fail with the same error, or have the same text and
the same names in the same order, each with the value that belongs to it.  In no build are two
values of a parameter at odds. -/
theorem build_withValues (c : Construct) (config : BuildConfig) :
    (∀ name first second,
      (c.build config).result ≠ .error (.ambiguousParameter name first second)) ∧
    ∀ (values : Nat → Value) (extras : List (String × Value)), c.IsNumbered →
      extras.map Prod.fst = config.extraParams.map Prod.fst →
      (∃ e, (c.build config).result = .error e ∧
        ((c.withValues values).build { config with extraParams := extras }).result = .error e) ∨
      ∃ (cypher : String) (name : Parameter → String),
        (c.build config).result =
          .ok ⟨cypher, (c.parameters.map fun p => (name p, p.value)) ++ config.extraParams⟩ ∧
        ((c.withValues values).build { config with extraParams := extras }).result =
          .ok ⟨cypher, (c.parameters.map fun p => (name p, values p.id)) ++ extras⟩ := by
  constructor
  · intro name first second h
    rcases c.error_of_build config h with hstructural | hcollision | hprefix
    · cases hstructural
    · cases hcollision
    · cases hprefix
  · intro values extras hnumbered hextras
    cases hvalid : config.isValid with
    | false =>
        exact .inl ⟨_, c.result_build_of_not_isValid hvalid,
          (c.withValues values).result_build_of_not_isValid hvalid⟩
    | true =>
        have hvalid' : BuildConfig.isValid { config with extraParams := extras } = true := hvalid
        obtain ⟨hsame, -⟩ := Construct.render_withValues hnumbered values config.namePrefix
          config.labelOperator
        rw [c.result_build hvalid, (c.withValues values).result_build hvalid']
        simp only [BuildConfig.environment, hsame]
        cases hwritten : (c.render (.start config.namePrefix config.labelOperator)).result with
        | error e => exact .inl ⟨e, rfl, rfl⟩
        | ok cypher =>
            rcases Construct.mergeExtras_withValues hnumbered values hwritten hextras with
              ⟨e, hmerge, hmerge'⟩ | ⟨hmerge, hmerge'⟩
            · simp only [hmerge, hmerge', Except.map]
              exact .inl ⟨e, rfl, rfl⟩
            · simp only [hmerge, hmerge', Except.map]
              exact .inr ⟨cypher, _, rfl, rfl⟩

/-- A list of parameters in which an anonymous one stands twice. -/
def parameterList : Construct :=
  let limit : Expression := .placeholder ⟨0, some "limit", .integer 10⟩
  let shared : Expression := .placeholder ⟨1, none, .text "x"⟩
  .ofExpression (.list [shared, limit, shared])

/-- With the limit 20 and another text the list is the same, and so are the names. -/
theorem build_parameterList_withValues :
    let config : BuildConfig := ⟨"", .colon, [("tenant", .text "acme")]⟩
    let values : Nat → Value := fun n => if n = 0 then .integer 20 else .text "y"
    let extras : List (String × Value) := [("tenant", .text "other")]
    parameterList.IsNumbered ∧ extras.map Prod.fst = config.extraParams.map Prod.fst ∧
      ((parameterList.withValues values).build { config with extraParams := extras }).result =
        .ok ⟨"[$param0, $limit, $param0]",
          [("param0", .text "y"), ("limit", .integer 20), ("tenant", .text "other")]⟩ ∧
      ((∃ e, (parameterList.build config).result = .error e ∧
        ((parameterList.withValues values).build { config with extraParams := extras }).result =
          .error e) ∨
      ∃ (cypher : String) (name : Parameter → String),
        (parameterList.build config).result = .ok ⟨cypher,
          (parameterList.parameters.map fun p => (name p, p.value)) ++ config.extraParams⟩ ∧
        ((parameterList.withValues values).build { config with extraParams := extras }).result =
          .ok ⟨cypher,
            (parameterList.parameters.map fun p => (name p, values p.id)) ++ extras⟩) := by
  have hnumbered : parameterList.IsNumbered := by
    unfold Construct.IsNumbered
    decide
  exact ⟨hnumbered, rfl, rfl, (build_withValues _ _).2 _ _ hnumbered rfl⟩

end CypherQuery
