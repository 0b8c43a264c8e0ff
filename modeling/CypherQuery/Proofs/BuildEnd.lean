/-
**The end of a build.**

When the construct is written, the extra parameters are added one after the other, each under its
own name.  A name is refused if it is taken; the values go into another table, under the same names.
As long as the two tables agree on the names of parameters, adding an extra parameter appends an
entry and keeps the agreement.  So the outcome depends on names alone: the first name that is known
already, or stands earlier among the extra ones, is the one that is refused.

Main definitions:

* `CypherQuery.firstRepeated` — the first of several names that is not new;
* `CypherQuery.Environment.TracksKeys` — the names taken are the keys of the values.

Main results:

* `CypherQuery.firstRepeated_eq_none_iff`, `CypherQuery.firstRepeated_eq_some_iff` — when all names
  are new, and which one is not;
* `CypherQuery.Environment.mergeExtras_eq` — **the outcome of adding extra parameters**;
* `CypherQuery.Construct.result_build` — the result of a build, from those of its two parts.
-/

import CypherQuery.Build
import CypherQuery.Proofs.Consistency

set_option autoImplicit false

namespace CypherQuery

/-! ### Names that are not new -/

/-- The first of several names that is known, or stands earlier among them. -/
def firstRepeated (known : List String) : List String → Option String
  | [] => none
  | name :: rest => if name ∈ known then some name else firstRepeated (known ++ [name]) rest

/-- All names are new if none of them is known and none stands twice. -/
theorem firstRepeated_eq_none_iff {names : List String} : ∀ {known : List String},
    firstRepeated known names = none ↔ names.Nodup ∧ ∀ name ∈ names, name ∉ known := by
  induction names with
  | nil => simp [firstRepeated]
  | cons name rest ih =>
      intro known
      by_cases hname : name ∈ known
      · simp [firstRepeated, hname]
      · simp only [firstRepeated, if_neg hname, ih, List.nodup_cons, List.mem_append,
          List.mem_singleton, not_or, List.forall_mem_cons]
        constructor
        · rintro ⟨hnodup, hrest⟩
          exact ⟨⟨fun hmem => (hrest name hmem).2 rfl, hnodup⟩, hname,
            fun other hother => (hrest other hother).1⟩
        · rintro ⟨⟨hfresh, hnodup⟩, -, hrest⟩
          refine ⟨hnodup, fun other hother => ⟨hrest other hother, ?_⟩⟩
          rintro rfl
          exact hfresh hother

/-- The first name that is not new stands behind new ones. -/
theorem firstRepeated_eq_some_iff {names : List String} {name : String} :
    ∀ {known : List String}, firstRepeated known names = some name ↔
      ∃ earlier later, names = earlier ++ name :: later ∧ firstRepeated known earlier = none ∧
        (name ∈ known ∨ name ∈ earlier) := by
  induction names with
  | nil => simp [firstRepeated]
  | cons first rest ih =>
      intro known
      by_cases hfirst : first ∈ known
      · rw [firstRepeated, if_pos hfirst]
        constructor
        · rintro ⟨⟩
          exact ⟨[], rest, rfl, rfl, .inl hfirst⟩
        · rintro ⟨earlier, later, hnames, hnew, -⟩
          cases earlier with
          | nil =>
              cases hnames
              rfl
          | cons head tail =>
              cases hnames
              simp [firstRepeated, hfirst] at hnew
      · rw [firstRepeated, if_neg hfirst, ih]
        constructor
        · rintro ⟨earlier, later, rfl, hnew, hrepeated⟩
          refine ⟨first :: earlier, later, rfl, ?_, ?_⟩
          · rw [firstRepeated, if_neg hfirst, hnew]
          · rw [List.mem_append, List.mem_singleton] at hrepeated
            rw [List.mem_cons, ← or_assoc]
            exact hrepeated
        · rintro ⟨earlier, later, hnames, hnew, hrepeated⟩
          cases earlier with
          | nil =>
              cases hnames
              simp [hfirst] at hrepeated
          | cons head tail =>
              cases hnames
              rw [firstRepeated, if_neg hfirst] at hnew
              refine ⟨tail, later, rfl, hnew, ?_⟩
              rwa [List.mem_append, List.mem_singleton, or_assoc, ← List.mem_cons]

namespace Environment

/-! ### Adding parameters -/

/-- The parameter names taken are those under which there are values. -/
def TracksKeys (env : Environment) : Prop :=
  ∀ name, name ∈ (env.names.pool .parameterName).taken ↔ name ∈ Dictionary.keys env.params

theorem Consistent.tracksKeys {env : Environment} (h : env.Consistent) : env.TracksKeys := by
  intro name
  rw [h.keys]
  exact h.parameterTaken name

/-- A name that is known is refused. -/
theorem addExtras_of_mem {env : Environment} (h : env.TracksKeys) {name : String}
    (hname : name ∈ Dictionary.keys env.params) (value : Value) (rest : List (String × Value)) :
    env.addExtras ((name, value) :: rest) = .error (.nameCollision name .parameterName) := by
  have hclaim := Names.claim_of_mem ((h name).2 hname)
  simp only [addExtras, hclaim]

/-- A name that is new is taken, and the value is appended. -/
theorem addExtras_of_not_mem {env : Environment} (h : env.TracksKeys) {name : String}
    (hname : name ∉ Dictionary.keys env.params) (value : Value) (rest : List (String × Value)) :
    ∃ later : Environment, later.TracksKeys ∧ later.params = env.params ++ [(name, value)] ∧
      env.addExtras ((name, value) :: rest) = later.addExtras rest := by
  have hfree : name ∉ (env.names.pool .parameterName).taken := fun hmem => hname ((h name).1 hmem)
  obtain ⟨names, hclaim⟩ : ∃ names, env.names.claim .parameterName name = .ok names := by
    simp [Names.claim, NamePool.claim?, hfree]
  have htakes := Names.takes_claim hclaim
  have hparams := Dictionary.insert_of_not_mem hname value
  refine ⟨{ env with names := names, params := Dictionary.insert env.params name value },
    fun other => ?_, hparams, by simp only [addExtras, hclaim]⟩
  -- the new name comes first among the names taken, and last among the keys
  have hother := h other
  simp only [htakes.taken, hparams, Dictionary.keys, List.map_append, List.mem_append,
    List.map_cons, List.map_nil, List.mem_cons, List.not_mem_nil, or_false] at hother ⊢
  rw [hother, or_comm]

/-- **The outcome of adding extra parameters**: the first name that is not new is refused, and
without one the parameters are appended in order. -/
theorem mergeExtras_eq {extras : List (String × Value)} : ∀ {env : Environment},
    env.TracksKeys → env.mergeExtras extras =
      match firstRepeated (Dictionary.keys env.params) (extras.map Prod.fst) with
      | some name => .error (.nameCollision name .parameterName)
      | none => .ok (env.params ++ extras) := by
  induction extras with
  | nil => intro env _; simp [mergeExtras, addExtras, firstRepeated, Except.map]
  | cons extra rest ih =>
      intro env h
      obtain ⟨name, value⟩ := extra
      by_cases hname : name ∈ Dictionary.keys env.params
      · simp only [mergeExtras, addExtras_of_mem h hname, List.map_cons, firstRepeated,
          if_pos hname, Except.map]
      · obtain ⟨later, hlater, hparams, hadd⟩ := addExtras_of_not_mem h hname value rest
        have hkeys : Dictionary.keys later.params = Dictionary.keys env.params ++ [name] := by
          simp [hparams, Dictionary.keys]
        have hrest := ih hlater
        rw [hkeys, hparams] at hrest
        simp only [mergeExtras] at hrest
        simp only [mergeExtras, hadd, hrest, List.map_cons, firstRepeated, if_neg hname,
          List.append_assoc, List.singleton_append]

/-- Extra parameters that were added are the entries at the end, and no name stands twice. -/
theorem eq_of_mergeExtras {env : Environment} (h : env.TracksKeys)
    (hnodup : (Dictionary.keys env.params).Nodup) {extras : List (String × Value)}
    {params : Dictionary Value} (hmerge : env.mergeExtras extras = .ok params) :
    params = env.params ++ extras ∧ (Dictionary.keys params).Nodup := by
  rw [mergeExtras_eq h] at hmerge
  cases hrepeated : firstRepeated (Dictionary.keys env.params) (extras.map Prod.fst) with
  | some name =>
      rw [hrepeated] at hmerge
      cases hmerge
  | none =>
      rw [hrepeated] at hmerge
      cases hmerge
      obtain ⟨hextras, hnew⟩ := firstRepeated_eq_none_iff.1 hrepeated
      refine ⟨rfl, ?_⟩
      rw [Dictionary.keys, List.map_append, List.nodup_append]
      refine ⟨hnodup, hextras, ?_⟩
      rintro name hname other hother rfl
      exact hnew name hother hname

end Environment

/-! ### The result of a build -/

/-- The environment in which the writing of a build starts. -/
def BuildConfig.environment (config : BuildConfig) : Environment :=
  .start config.namePrefix config.labelOperator

namespace Construct

/-- A build whose configuration may be used starts in a fresh environment. -/
theorem build_of_isValid (c : Construct) {config : BuildConfig} (h : config.isValid = true) :
    c.build config = c.buildFrom config config.environment := by
  simp only [build, BuildConfig.startEnvironment, h, if_true, BuildConfig.environment]

/-- **The result of a build**: the construct is written, and the extra parameters are added. -/
theorem result_build (c : Construct) {config : BuildConfig} (h : config.isValid = true) :
    (c.build config).result =
      match (c.render config.environment).result with
      | .error e => .error e
      | .ok cypher =>
          ((c.render config.environment).environment.mergeExtras config.extraParams).map
            fun params => ⟨cypher, params⟩ := by
  rw [c.build_of_isValid h, buildFrom]
  cases hwritten : (c.render config.environment).result with
  | error e => rfl
  | ok cypher =>
      simp only [finish]
      cases (c.render config.environment).environment.mergeExtras config.extraParams <;> rfl

/-- Without extra parameters, a build fails where the construct cannot be written. -/
theorem error_build_iff (c : Construct) {config : BuildConfig} (h : config.isValid = true)
    (hextras : config.extraParams = []) {e : BuildError} :
    (c.build config).result = .error e ↔ (c.render config.environment).result = .error e := by
  rw [c.result_build h, hextras]
  cases (c.render config.environment).result with
  | error e' => simp
  | ok cypher => simp [Environment.mergeExtras, Environment.addExtras, Except.map]

/-- A build fails at once if its configuration may not be used, and nothing is reported. -/
theorem build_of_not_isValid (c : Construct) {config : BuildConfig}
    (h : config.isValid = false) : c.build config = .fail .invalidNamePrefix := by
  simp [build, BuildConfig.startEnvironment, h]

theorem result_build_of_not_isValid (c : Construct) {config : BuildConfig}
    (h : config.isValid = false) : (c.build config).result = .error .invalidNamePrefix := by
  rw [c.build_of_not_isValid h]
  rfl

/-- A build that succeeds has written the construct and added the extra parameters. -/
theorem parts_of_build {c : Construct} {config : BuildConfig} {result : BuildResult}
    (h : (c.build config).result = .ok result) :
    (c.render config.environment).result = .ok result.cypher ∧
      (c.render config.environment).environment.mergeExtras config.extraParams =
        .ok result.params := by
  cases hvalid : config.isValid with
  | false =>
      rw [c.result_build_of_not_isValid hvalid] at h
      cases h
  | true =>
      rw [c.result_build hvalid] at h
      cases hwritten : (c.render config.environment).result with
      | error e =>
          rw [hwritten] at h
          cases h
      | ok cypher =>
          rw [hwritten] at h
          cases hmerge :
              (c.render config.environment).environment.mergeExtras config.extraParams with
          | error e =>
              rw [hmerge] at h
              cases h
          | ok params =>
              rw [hmerge] at h
              cases h
              exact ⟨rfl, rfl⟩

end Construct

end CypherQuery
