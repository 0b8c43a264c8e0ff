/-
**The records of level `debug` are the names handed out.**

When an identity gets its name, this is reported, and nothing else is at that level while a
construct is written.  So the records tell which identities got their names, in this order: each
identity that had no name before and has one afterwards is reported once, with its name and, if it
is a parameter, with the value that is recorded for it.  This holds where writing fails midway as
well, as a name that is refused is not reported.  At the end of a build one more record is made, if
the build succeeds.

Main definitions:

* `CypherQuery.Occurrence.record?` — what is reported of an identity that has a name;
* `CypherQuery.Environment.newlyBound` — the identities that have got their names, in the order in
  which they are met first;
* `CypherQuery.Environment.Traced` — **records that trace the way from one environment to another**.

Main results:

* `CypherQuery.Environment.Traced.trans` — traces of two ways are one of both;
* `CypherQuery.Template.traced_run` — **a run is traced by its records**, whether it fails or not;
* `CypherQuery.Environment.exists_traced_after` — so is a session;
* `CypherQuery.Construct.debugRecords_build` — the records of a build;
* `CypherQuery.records_trace_names` — **all of this**.
-/

import CypherQuery.Proofs.FailedSteps

set_option autoImplicit false

namespace CypherQuery

/-! ### Records of identities -/

namespace Occurrence

/-- **What is reported of an identity that has a name**: the kind and the name of a variable, or the
name and the value of a parameter. -/
def record? (env : Environment) : Occurrence → Option LogRecord
  | .variableAt v => (env.boundVariables.lookup v).map fun name => .variableBound v.kind name
  | .parameterAt p => do
      let name ← env.boundParameters.lookup p
      let value ← Dictionary.get? env.params name
      return .parameterBound name value

theorem record?_variableAt_eq_some {env : Environment} {v : Variable} {r : LogRecord} :
    (variableAt v).record? env = some r ↔
      ∃ name, env.boundVariables.lookup v = some name ∧ .variableBound v.kind name = r :=
  Option.map_eq_some_iff

theorem record?_parameterAt_eq_some {env : Environment} {p : Parameter} {r : LogRecord} :
    (parameterAt p).record? env = some r ↔
      ∃ name value, env.boundParameters.lookup p = some name ∧
        Dictionary.get? env.params name = some value ∧ .parameterBound name value = r := by
  simp [record?, Option.bind_eq_some_iff]

/-- The record of an identity stays the same as long as names and values stay. -/
theorem record?_mono {o : Occurrence} {env later : Environment} {r : LogRecord}
    (hnames : env.Extends later) (hparams : env.params <+: later.params)
    (h : o.record? env = some r) : o.record? later = some r := by
  cases o with
  | variableAt v =>
      rw [record?_variableAt_eq_some] at h ⊢
      obtain ⟨name, hname, hr⟩ := h
      exact ⟨name, hnames.variableNames v name hname, hr⟩
  | parameterAt p =>
      rw [record?_parameterAt_eq_some] at h ⊢
      obtain ⟨name, value, hname, hvalue, hr⟩ := h
      exact ⟨name, value, hnames.parameterNames p name hname,
        Dictionary.get?_of_isPrefix hparams hvalue, hr⟩

/-- **No record is one of two identities.** -/
theorem eq_of_record? {o other : Occurrence} {env : Environment} {r : LogRecord}
    (hcons : env.Consistent) (h : o.record? env = some r) (hother : other.record? env = some r) :
    o = other := by
  cases o with
  | variableAt v =>
      obtain ⟨name, hv, hr⟩ := record?_variableAt_eq_some.1 h
      cases other with
      | variableAt w =>
          obtain ⟨name', hw, hr'⟩ := record?_variableAt_eq_some.1 hother
          have hname := (LogRecord.variableBound.inj (hr.trans hr'.symm)).2
          exact congrArg _ (hcons.variableNaming.eq_of_lookup hv (hname ▸ hw))
      | parameterAt q =>
          obtain ⟨name', value, -, -, hr'⟩ := record?_parameterAt_eq_some.1 hother
          cases hr.trans hr'.symm
  | parameterAt p =>
      obtain ⟨name, value, hp, -, hr⟩ := record?_parameterAt_eq_some.1 h
      cases other with
      | variableAt w =>
          obtain ⟨name', -, hr'⟩ := record?_variableAt_eq_some.1 hother
          cases hr.trans hr'.symm
      | parameterAt q =>
          obtain ⟨name', value', hq, -, hr'⟩ := record?_parameterAt_eq_some.1 hother
          have hname := (LogRecord.parameterBound.inj (hr.trans hr'.symm)).1
          exact congrArg _ (hcons.parameterNaming.eq_of_lookup hp (hname ▸ hq))

/-- The variable at a place, if there is one. -/
def asVariable? : Occurrence → Option Variable
  | .variableAt v => some v
  | .parameterAt _ => none

/-- Whether an identity has got its name between two environments. -/
def isNew (env later : Environment) (o : Occurrence) : Bool :=
  (o.lookup env).isNone && (o.lookup later).isSome

theorem isNew_iff {env later : Environment} {o : Occurrence} :
    o.isNew env later = true ↔ o.lookup env = none ∧ (o.lookup later).isSome = true := by
  rw [isNew, Bool.and_eq_true, Option.isNone_iff_eq_none]

theorem isSome_of_extends {o : Occurrence} {env later : Environment} (h : env.Extends later)
    (ho : (o.lookup env).isSome = true) : (o.lookup later).isSome = true := by
  obtain ⟨name, hname⟩ := Option.isSome_iff_exists.1 ho
  rw [lookup_of_extends h hname]
  rfl

theorem eq_none_of_extends {o : Occurrence} {env later : Environment} (h : env.Extends later)
    (ho : o.lookup later = none) : o.lookup env = none := by
  rw [← Option.not_isSome_iff_eq_none] at ho ⊢
  exact fun hsome => ho (isSome_of_extends h hsome)

end Occurrence

namespace Environment

/-! ### Identities that have got their names -/

/-- **The identities that have got their names** between two environments, in the order in which
they are met first. -/
def newlyBound (env later : Environment) (occurrences : List Occurrence) : List Occurrence :=
  (occurrences.filter (Occurrence.isNew env later)).eraseDups

theorem mem_newlyBound {env later : Environment} {os : List Occurrence} {o : Occurrence} :
    o ∈ env.newlyBound later os ↔
      o ∈ os ∧ o.lookup env = none ∧ (o.lookup later).isSome = true := by
  rw [newlyBound, List.mem_eraseDups, List.mem_filter, Occurrence.isNew_iff]

/-- Where nothing happens, no identity gets a name. -/
theorem newlyBound_self (env : Environment) (os : List Occurrence) :
    env.newlyBound env os = [] := by
  rw [List.eq_nil_iff_forall_not_mem]
  intro o ho
  obtain ⟨-, hnone, hsome⟩ := mem_newlyBound.1 ho
  rw [hnone] at hsome
  cases hsome

/-- **Identities that get their names one after the other**: first those that were not known, then
those that were not known by then. -/
theorem newlyBound_append {env mid later : Environment} (hfirst : env.Extends mid)
    (hrest : mid.Extends later) {os : List Occurrence}
    (hbound : ∀ o ∈ os, (o.lookup mid).isSome = true)
    (hnew : ∀ o : Occurrence, o.lookup env = none → (o.lookup mid).isSome = true → o ∈ os)
    (os' : List Occurrence) :
    env.newlyBound later (os ++ os') = env.newlyBound mid os ++ mid.newlyBound later os' := by
  have hos : os.filter (Occurrence.isNew env later) = os.filter (Occurrence.isNew env mid) := by
    refine List.filter_congr fun o ho => ?_
    rw [Occurrence.isNew, Occurrence.isNew, hbound o ho,
      Occurrence.isSome_of_extends hrest (hbound o ho)]
  rw [newlyBound, List.filter_append, hos, List.eraseDups_append, newlyBound, newlyBound]
  congr 2
  rw [List.removeAll, List.filter_filter]
  refine List.filter_congr fun o _ => ?_
  rw [Bool.eq_iff_iff]
  simp only [Bool.and_eq_true, Bool.not_eq_true', Bool.eq_false_iff, ne_eq, List.elem_iff,
    List.mem_filter, Occurrence.isNew_iff]
  constructor
  · rintro ⟨hknown, hnone, hsome⟩
    refine ⟨?_, hsome⟩
    rw [← Option.not_isSome_iff_eq_none]
    exact fun hmid => hknown ⟨hnew o hnone hmid, hnone, hmid⟩
  · rintro ⟨hnone, hsome⟩
    refine ⟨fun h => ?_, Occurrence.eq_none_of_extends hfirst hnone, hsome⟩
    rw [hnone] at h
    cases h.2.2

/-! ### Traces -/

/-- **Records that trace the way from one environment to another**, on which certain identities have
got their names. -/
structure Traced (env later : Environment) (newly : List Occurrence) (records : List LogRecord) :
    Prop where
  /-- No identity gets a name twice. -/
  nodup : newly.Nodup
  /-- What gets a name had none before, and has one now. -/
  mem_iff : ∀ o, o ∈ newly ↔ o.lookup env = none ∧ (o.lookup later).isSome = true
  /-- The records are those of these identities, in this order. -/
  records : newly.map (Occurrence.record? later) = records.map some
  /-- In this order the variables have come into the table. -/
  variableTable : later.boundVariables.map Prod.fst =
    env.boundVariables.map Prod.fst ++ newly.filterMap Occurrence.asVariable?
  /-- In this order the parameters have come into the table. -/
  parameterTable : later.boundParameters.map Prod.fst =
    env.boundParameters.map Prod.fst ++ newly.filterMap Occurrence.parameter?

namespace Traced

/-- Where nothing happens, nothing is reported. -/
theorem refl (env : Environment) : env.Traced env [] [] where
  nodup := .nil
  mem_iff o := by
    refine iff_of_false (List.not_mem_nil) ?_
    rintro ⟨hnone, hsome⟩
    rw [hnone] at hsome
    cases hsome
  records := rfl
  variableTable := (List.append_nil _).symm
  parameterTable := (List.append_nil _).symm

/-- **Traces of two ways** are one of both. -/
theorem trans {env mid later : Environment} {newly newly' : List Occurrence}
    {records records' : List LogRecord} (h₁ : env.Traced mid newly records)
    (h₂ : mid.Traced later newly' records') (hfirst : env.Extends mid)
    (hrest : mid.Extends later) (hparams : mid.params <+: later.params) :
    env.Traced later (newly ++ newly') (records ++ records') where
  nodup := by
    rw [List.nodup_append]
    refine ⟨h₁.nodup, h₂.nodup, ?_⟩
    rintro o ho other hother rfl
    -- what gets a name on the first way has one when the second starts
    have hsome := ((h₁.mem_iff o).1 ho).2
    rw [((h₂.mem_iff o).1 hother).1] at hsome
    cases hsome
  mem_iff o := by
    rw [List.mem_append, h₁.mem_iff, h₂.mem_iff]
    constructor
    · rintro (⟨hnone, hsome⟩ | ⟨hnone, hsome⟩)
      · exact ⟨hnone, Occurrence.isSome_of_extends hrest hsome⟩
      · exact ⟨Occurrence.eq_none_of_extends hfirst hnone, hsome⟩
    · rintro ⟨hnone, hsome⟩
      cases hmid : o.lookup mid with
      | none => exact .inr ⟨rfl, hsome⟩
      | some name => exact .inl ⟨hnone, rfl⟩
  records := by
    rw [List.map_append, List.map_append, h₂.records, ← h₁.records]
    congr 1
    refine List.map_congr_left fun o ho => ?_
    -- the records of the first way stay right on the second
    have hmem : o.record? mid ∈ records.map some := h₁.records ▸ List.mem_map_of_mem ho
    obtain ⟨r, -, hr⟩ := List.mem_map.1 hmem
    rw [← hr]
    exact Occurrence.record?_mono hrest hparams hr.symm
  variableTable := by
    rw [h₂.variableTable, h₁.variableTable, List.filterMap_append, List.append_assoc]
  parameterTable := by
    rw [h₂.parameterTable, h₁.parameterTable, List.filterMap_append, List.append_assoc]

/-- **No identity is reported twice**: each has one record, and no record is one of two of them. -/
theorem nodup_records {env later : Environment} {newly : List Occurrence}
    {records : List LogRecord} (hcons : later.Consistent) (h : env.Traced later newly records) :
    records.Nodup := by
  have hmap : (newly.map (Occurrence.record? later)).Nodup := by
    refine List.Nodup.map_on (fun o ho other _ heq => ?_) h.nodup
    have hmem : o.record? later ∈ records.map some := h.records ▸ List.mem_map_of_mem ho
    obtain ⟨r, -, hr⟩ := List.mem_map.1 hmem
    exact Occurrence.eq_of_record? hcons hr.symm (heq ▸ hr.symm)
  rw [h.records] at hmap
  exact hmap.of_map

end Traced

/-! ### Naming steps -/

/-- An identity that is the only one to get its name is all that is new. -/
theorem newlyBound_singleton {env later : Environment} {o : Occurrence}
    (hnone : o.lookup env = none) (hsome : (o.lookup later).isSome = true) :
    env.newlyBound later [o] = [o] := by
  rw [newlyBound, List.filter_cons_of_pos (Occurrence.isNew_iff.2 ⟨hnone, hsome⟩), List.filter_nil,
    List.eraseDups_cons]
  rfl

theorem lookup_eq_none_and_isSome_iff {env later : Environment} {o other : Occurrence}
    {name : String} (hnone : o.lookup env = none)
    (hlookup : other.lookup later = (other.lookup env).or (if other = o then some name else none)) :
    other ∈ [o] ↔ other.lookup env = none ∧ (other.lookup later).isSome = true := by
  rw [List.mem_singleton, hlookup]
  constructor
  · rintro rfl
    simp [hnone]
  · rintro ⟨hother, hsome⟩
    rw [hother, Option.none_or] at hsome
    by_contra hne
    rw [if_neg hne] at hsome
    cases hsome

/-- **A variable that is bound** is traced by its record. -/
theorem traced_bindVariable {env : Environment} {v : Variable}
    (hv : env.boundVariables.lookup v = none)
    (name : String) (names : Names) :
    env.Traced (env.bindVariable v name names) [.variableAt v] [.variableBound v.kind name] where
  nodup := List.nodup_singleton _
  mem_iff other :=
    lookup_eq_none_and_isSome_iff (o := .variableAt v) hv
      (env.lookup_bindVariable v name names other)
  records := by
    simp [Occurrence.record?, bindVariable, lookup_append_singleton, hv]
  variableTable := by simp [bindVariable, Occurrence.asVariable?]
  parameterTable := by simp [bindVariable, Occurrence.parameter?]

/-- **A parameter that is bound** is traced by its record. -/
theorem traced_bindParameter {env : Environment} {p : Parameter}
    (hp : env.boundParameters.lookup p = none) (name : String) (value : Value) (names : Names) :
    env.Traced (env.bindParameter p name value names) [.parameterAt p]
      [.parameterBound name value] where
  nodup := List.nodup_singleton _
  mem_iff other := lookup_eq_none_and_isSome_iff (o := .parameterAt p) hp
    (env.lookup_bindParameter p name value names other)
  records := by
    simp [Occurrence.record?, bindParameter, lookup_append_singleton, hp,
      Dictionary.get?_insert_self]
  variableTable := by simp [bindParameter, Occurrence.asVariable?]
  parameterTable := by simp [bindParameter, Occurrence.parameter?]

/-- Asking for the name of a variable is traced by what is reported. -/
theorem traced_nameOf (v : Variable) (env : Environment) :
    env.Traced (nameOf v env).environment
      (env.newlyBound (nameOf v env).environment [.variableAt v]) (nameOf v env).log := by
  rcases nameOf_cases v env with ⟨name, -, h⟩ | ⟨e, -, -, h⟩ | ⟨name, names, hv, -, h⟩
  · rw [h, newlyBound_self]
    exact .refl env
  · rw [h, newlyBound_self]
    exact .refl env
  · have hsome := lookup_nameOf (congrArg Outcome.result h)
    rw [newlyBound_singleton (o := .variableAt v) hv (Option.isSome_of_eq_some hsome), h]
    exact traced_bindVariable hv name names

/-- Recording a value for a parameter is traced by what is reported. -/
theorem traced_recordParameter (p : Parameter) (value : Value) (env : Environment) :
    env.Traced (recordParameter p value env).environment
      (env.newlyBound (recordParameter p value env).environment [.parameterAt p])
      (recordParameter p value env).log := by
  rcases recordParameter_cases p value env with
    ⟨name, -, h⟩ | ⟨e, -, -, h⟩ | ⟨name, names, hp, -, h⟩
  · rw [h, newlyBound_self]
    exact .refl env
  · rw [h, newlyBound_self]
    exact .refl env
  · have hsome := lookup_recordParameter (congrArg Outcome.result h)
    rw [newlyBound_singleton (o := .parameterAt p) hp (Option.isSome_of_eq_some hsome), h]
    exact traced_bindParameter hp name value names

end Environment

theorem Occurrence.traced_name (o : Occurrence) (env : Environment) :
    env.Traced (o.name env).environment (env.newlyBound (o.name env).environment [o])
      (o.name env).log := by
  cases o with
  | variableAt v => exact Environment.traced_nameOf v env
  | parameterAt p => exact Environment.traced_recordParameter p p.value env

/-! ### Templates -/

theorem Piece.traced_run (piece : Piece) (env : Environment) :
    env.Traced (piece.run env).environment
      (env.newlyBound (piece.run env).environment piece.occurrence?.toList)
      (piece.run env).log := by
  cases piece using Piece.cases_occurrence with
  | text s => exact .refl env
  | labelSign => exact .refl env
  | fault e => exact .refl env
  | identity o =>
      rw [o.occurrence?_piece, Occurrence.run_piece, BuildM.bind_pure_apply]
      exact o.traced_name env

/-- The identity in the place of a piece that was written has a name. -/
theorem Piece.isSome_lookup_of_ok {piece : Piece} {env : Environment} {s : String}
    (h : (piece.run env).result = .ok s) :
    ∀ o ∈ piece.occurrence?.toList, (o.lookup (piece.run env).environment).isSome = true := by
  intro o ho
  cases piece using Piece.cases_occurrence with
  | text s => cases ho
  | labelSign => cases ho
  | fault e => cases ho
  | identity named =>
      rw [named.occurrence?_piece, Option.toList_some, List.mem_singleton] at ho
      subst ho
      rw [Occurrence.run_piece] at h
      obtain ⟨name, hname, -⟩ := BuildM.ok_of_bind h
      rw [Occurrence.environment_run_piece, Occurrence.lookup_name hname]
      rfl

/-- **A run is traced by its records**, whether it fails or not: what gets a name is what had none,
in the order in which the identities stand in the template. -/
theorem Template.traced_run (t : Template) : ∀ {env : Environment}, env.Consistent →
    env.Traced (run t env).environment
      (env.newlyBound (run t env).environment t.occurrences) (run t env).log := by
  induction t with
  | nil => exact fun _ => .refl _
  | cons piece rest ih =>
      intro env hcons
      have hpiece := piece.traced_run env
      cases hresult : (piece.run env).result with
      | error e =>
          rw [run_cons_of_error hresult, Environment.newlyBound_self]
          exact .refl env
      | ok s =>
          -- one piece is a template, so that what is known of runs holds of it
          have hnames := extends_run [piece] env
          have hgrows := grows_run [piece] env hcons
          rw [run_singleton] at hnames hgrows
          have hnames' := extends_run rest (piece.run env).environment
          rw [run_cons_of_ok hresult, occurrences_cons]
          dsimp only
          rw [Environment.newlyBound_append hnames hnames' (Piece.isSome_lookup_of_ok hresult)
            fun o hnone hsome =>
              (Environment.mem_newlyBound.1 ((hpiece.mem_iff o).2 ⟨hnone, hsome⟩)).1]
          exact hpiece.trans (ih hgrows.1) hnames hnames' (grows_run rest _ hgrows.1).2

/-! ### Constructs and sessions -/

/-- **The records of level `debug`** that a step makes. -/
def BuildM.debugRecords {α : Type} (x : BuildM α) (env : Environment) : List LogRecord :=
  (x env).log.filter fun r => r.level == .debug

/-- **Writing a construct is traced by its records of level `debug`.** -/
theorem Construct.traced_render (c : Construct) {env : Environment} (h : env.Consistent) :
    env.Traced (c.render env).environment
      (env.newlyBound (c.render env).environment c.occurrences) (c.render.debugRecords env) := by
  have hrecords : c.render.debugRecords env = (BuildM.quiet c.render env).log := rfl
  rw [hrecords, c.quiet_render, c.environment_render, ← c.occurrences_template]
  exact c.template.traced_run h

/-- The identities that a step of a session asks for. -/
def SessionStep.occurrences : SessionStep → List Occurrence
  | .name v => [.variableAt v]
  | .record p _ => [.parameterAt p]
  | .write c => c.occurrences
  | .askNamePrefix => []
  | .askLabelOperator => []

/-- A step of a session is traced by its records of level `debug`. -/
theorem SessionStep.traced_run (step : SessionStep) {env : Environment} (h : env.Consistent) :
    env.Traced (step.run env).environment
      (env.newlyBound (step.run env).environment step.occurrences)
      (step.run.debugRecords env) := by
  cases step with
  | name v =>
      have hrecords : (SessionStep.name v).run.debugRecords env =
        (BuildM.quiet (Environment.nameOf v) env).log := rfl
      rw [hrecords, BuildM.quiet_nameOf]
      exact Environment.traced_nameOf v env
  | record p value =>
      have hrecords : (SessionStep.record p value).run.debugRecords env =
        (BuildM.quiet (Environment.recordParameter p value) env).log := rfl
      rw [hrecords, BuildM.quiet_recordParameter]
      exact Environment.traced_recordParameter p value env
  | write c => exact c.traced_render h
  | askNamePrefix => exact .refl env
  | askLabelOperator => exact .refl env

namespace Environment

/-- The records of level `debug` that the steps of a session make, one after the other. -/
def debugRecordsOf : Environment → List SessionStep → List LogRecord
  | _, [] => []
  | env, step :: rest =>
      step.run.debugRecords env ++ debugRecordsOf (step.run env).environment rest

/-- **A session is traced by its records of level `debug`.** -/
theorem exists_traced_after (steps : List SessionStep) : ∀ {env : Environment}, env.Consistent →
    ∃ newly, env.Traced (env.after steps) newly (env.debugRecordsOf steps) := by
  induction steps with
  | nil => exact fun _ => ⟨[], .refl _⟩
  | cons step rest ih =>
      intro env h
      obtain ⟨hmid, -⟩ := grows_step step env h
      obtain ⟨newly, hnewly⟩ := ih hmid
      exact ⟨_, (step.traced_run h).trans hnewly (extends_step step env) (extends_after rest _)
        (grows_after rest _ hmid).2⟩

end Environment

/-! ### Builds -/

/-- The record at the end of a build. -/
def BuildResult.finalRecord (result : BuildResult) : LogRecord :=
  .buildFinished result.cypher.utf8ByteSize result.params.length

/-- **The records of a build**: while the construct is written, they are those of the writing, and
at the end there is one more, if the build succeeds. -/
theorem Construct.debugRecords_build (c : Construct) (config : BuildConfig) :
    (c.build config).log.filter (fun r => r.level == .debug) =
      (if config.isValid then c.render.debugRecords config.environment else []) ++
        ((c.build config).result.toOption.map BuildResult.finalRecord).toList := by
  cases hvalid : config.isValid with
  | false =>
      rw [c.build_of_not_isValid hvalid]
      rfl
  | true =>
      rw [c.build_of_isValid hvalid, buildFrom, if_pos rfl, BuildM.debugRecords]
      cases hwritten : (c.render config.environment).result with
      | error e => simp [Except.toOption]
      | ok cypher =>
          -- the extra parameters are added without a record
          cases hmerge :
              (c.render config.environment).environment.mergeExtras config.extraParams with
          | error e => simp [finish, hmerge, Logged.fail, Except.toOption]
          | ok params =>
              simp [finish, hmerge, Except.toOption, LogRecord.level, BuildResult.finalRecord]

/-! ### All of this -/

/-- **The records of level `debug` are the names handed out.**  In every environment that a session
leads to, a construct is written with one record for each identity that gets its name, in the order
in which these identities are met, whether a text or an error comes out; a naming step that is
refused makes no record.  In a whole session no identity is reported twice.  A build has the records
of its construct, and behind them one record of its result, if there is one. -/
theorem records_trace_names :
    (∀ (env : Environment) (c : Construct), env.IsReachable →
      env.Traced (c.render env).environment
        (env.newlyBound (c.render env).environment c.occurrences)
        (c.render.debugRecords env)) ∧
    (∀ (env : Environment) (step : SessionStep) (e : BuildError), step.isNaming = true →
      (step.run env).result = .error e → (step.run env).log = []) ∧
    (∀ (namePrefix : String) (op : LabelOperator) (steps : List SessionStep),
      let start := Environment.start namePrefix op
      (start.debugRecordsOf steps).Nodup ∧
        ∃ newly, start.Traced (start.after steps) newly (start.debugRecordsOf steps)) ∧
    ∀ (c : Construct) (config : BuildConfig),
      (c.build config).log.filter (fun r => r.level == .debug) =
        (if config.isValid then c.render.debugRecords config.environment else []) ++
          ((c.build config).result.toOption.map BuildResult.finalRecord).toList := by
  refine ⟨fun env c h => c.traced_render h.consistent, ?_, ?_, Construct.debugRecords_build⟩
  · intro env step e hstep h
    rw [SessionStep.run_of_error hstep h]
  · intro namePrefix op steps start
    obtain ⟨newly, hnewly⟩ :=
      Environment.exists_traced_after steps (Environment.consistent_start namePrefix op)
    have hcons : (start.after steps).Consistent :=
      Environment.IsReachable.consistent ⟨namePrefix, op, steps, rfl⟩
    exact ⟨hnewly.nodup_records hcons, newly, hnewly⟩

/-- A list with a parameter in it. -/
def limitList : Construct :=
  .ofExpression (.list [.reference ⟨0, .node, some "n"⟩, .placeholder ⟨0, none, .integer 1⟩])

/-- Of a list that cannot be written the first node is reported, which is not known before; a name
that is refused is not.  Of two builds the one is finished, and the other one is not, as the name of
an extra parameter is taken. -/
theorem records_of_rivalSteps :
    let config : BuildConfig := ⟨"", .colon, []⟩
    let colliding : BuildConfig := ⟨"", .colon, [("param0", .integer 2)]⟩
    let naming : List LogRecord :=
      [.variableBound .node "n", .parameterBound "param0" (.integer 1)]
    ownedName.Traced (rivalList.render ownedName).environment [.variableAt ⟨3, .node, none⟩]
        [.variableBound .node "this0"] ∧
      ((SessionStep.name rivalNode).run ownedName).log = [] ∧
      (config.environment.debugRecordsOf rivalSession).Nodup ∧
      (limitList.build config).log.filter (fun r => r.level == .debug) =
        naming ++ [.buildFinished 12 1] ∧
      (limitList.build colliding).log.filter (fun r => r.level == .debug) = naming := by
  intro config colliding naming
  obtain ⟨hwritten, hrefused, hsession, hbuild⟩ := records_trace_names
  have hreachable : ownedName.IsReachable := ⟨"", .colon, _, rfl⟩
  have hresult : (limitList.build config).result =
      .ok ⟨"[n, $param0]", [("param0", .integer 1)]⟩ := by decide
  have hcollision : (limitList.build colliding).result =
      .error (.nameCollision "param0" .parameterName) := by decide
  refine ⟨hwritten ownedName rivalList hreachable,
    hrefused ownedName (.name rivalNode) (.nameCollision "n" .variableName) rfl rfl,
    (hsession "" .colon rivalSession).1, (hbuild limitList config).trans ?_,
    (hbuild limitList colliding).trans ?_⟩
  · rw [hresult, if_pos (by decide)]
    decide
  · rw [hcollision, if_pos (by decide)]
    decide

end CypherQuery
