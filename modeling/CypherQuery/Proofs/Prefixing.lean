/-
**The prefix of generated names only renames.**

Where no identity has an explicit name, every name of a build begins with the prefix.  Two builds
with different prefixes take the same course: the second has the names of the first with the one
prefix in the place of the other.  The search for a free name compares other texts in the second
build, but they are free or taken alike, as a prefix can be cancelled.

Both builds are compared with the one that has no prefix.  A prefix is put before everything that
the environment of that build holds, and each step leads to the image of the environment to which
it led without.

Main definitions:

* `CypherQuery.Environment.prepend` — an environment with a text before every name;
* `CypherQuery.Construct.IsBuiltWith` — what is built from a construct, given what stands behind
  the prefix in every name.

Main results:

* `CypherQuery.NamePool.leastFree_prepend` — the search for a free name with a prefix;
* `CypherQuery.Occurrence.name_prepend` — a naming step with a prefix;
* `CypherQuery.Template.run_prepend` — a run with a prefix;
* `CypherQuery.build_prefixes` — **two builds that differ in the prefix alone**.
-/

import CypherQuery.Proofs.Freezing

set_option autoImplicit false

namespace CypherQuery

theorem prepend_injective (s : String) : Function.Injective (s ++ · : String → String) :=
  fun _ _ h => String.append_right_inj s |>.1 h

/-! ### Names with a prefix -/

/-- The names of one class with a text before each. -/
def NamePool.prepend (s : String) (pool : NamePool) : NamePool :=
  { pool with taken := pool.taken.map (s ++ ·) }

/-- The names of one build with a text before each, also before the generated ones to come. -/
def Names.prepend (s : String) (names : Names) : Names :=
  ⟨s ++ names.namePrefix, names.variableNames.prepend s, names.parameterNames.prepend s⟩

/-- **The search for a free name with a prefix** finds the same number. -/
theorem NamePool.leastFree_prepend (s : String) (name : Nat → String) (taken : List String) :
    ∀ bound k : Nat, leastFree (fun j => s ++ name j) (taken.map (s ++ ·)) bound k =
      leastFree name taken bound k := by
  intro bound
  induction bound with
  | zero => intro k; rfl
  | succ bound ih =>
      intro k
      simp only [leastFree, List.mem_map_of_injective (prepend_injective s), ih]

theorem NamePool.generate_prepend (s : String) (pool : NamePool) (name : Nat → String) :
    (pool.prepend s).generate (fun j => s ++ name j) =
      (s ++ (pool.generate name).1, (pool.generate name).2.prepend s) := by
  simp only [generate, prepend, List.length_map, leastFree_prepend, List.map_cons]

theorem Names.generated_prepend (s namePrefix stem : String) :
    generated (s ++ namePrefix) stem = fun k => s ++ generated namePrefix stem k := by
  funext k
  simp only [generated, String.append_assoc]

theorem Names.generate_prepend (s : String) (names : Names) (nameClass : NameClass)
    (stem : String) :
    (names.prepend s).generate nameClass stem =
      (s ++ (names.generate nameClass stem).1, (names.generate nameClass stem).2.prepend s) := by
  cases nameClass <;>
    simp only [generate, prepend, pool, setPool, generated_prepend, NamePool.generate_prepend]

/-! ### Tables with other names -/

/-- An identity has the image of its name in the image of a table. -/
theorem lookup_map_snd {α : Type} [DecidableEq α] (f : String → String) (a : α)
    (table : List (α × String)) :
    (table.map fun entry => (entry.1, f entry.2)).lookup a = (table.lookup a).map f := by
  induction table with
  | nil => rfl
  | cons entry rest ih =>
      obtain ⟨b, name⟩ := entry
      simp only [List.map_cons, List.lookup_cons, ih]
      cases a == b <;> rfl

/-- Insertion under the image of a key, if no two keys have the same image. -/
theorem Dictionary.insert_map {α : Type} {f : String → String} (hf : Function.Injective f)
    (d : Dictionary α) (key : String) (value : α) :
    insert (d.map fun entry => (f entry.1, entry.2)) (f key) value =
      (insert d key value).map fun entry => (f entry.1, entry.2) := by
  induction d with
  | nil => rfl
  | cons entry rest ih =>
      simp only [insert, List.map_cons, hf.eq_iff, ih]
      split <;> rfl

/-- Look-up under the image of a key, if no two keys have the same image. -/
theorem Dictionary.get?_map {α : Type} {f : String → String} (hf : Function.Injective f)
    (d : Dictionary α) (key : String) :
    get? (d.map fun entry => (f entry.1, entry.2)) (f key) = get? d key := by
  induction d with
  | nil => rfl
  | cons entry rest ih => simp only [get?, List.map_cons, hf.eq_iff, ih]

/-! ### Naming steps with a prefix -/

namespace Environment

/-- **An environment with a text before every name.** -/
def prepend (s : String) (env : Environment) : Environment where
  names := env.names.prepend s
  boundVariables := env.boundVariables.map fun entry => (entry.1, s ++ entry.2)
  boundParameters := env.boundParameters.map fun entry => (entry.1, s ++ entry.2)
  params := env.params.map fun entry => (s ++ entry.1, entry.2)
  labelOperator := env.labelOperator

theorem prepend_start (s namePrefix : String) (op : LabelOperator) :
    (start namePrefix op).prepend s = .start (s ++ namePrefix) op :=
  rfl

theorem lookup_prepend (s : String) (env : Environment) (o : Occurrence) :
    o.lookup (env.prepend s) = (o.lookup env).map (s ++ ·) := by
  cases o with
  | variableAt v => exact lookup_map_snd _ v _
  | parameterAt p => exact lookup_map_snd _ p _

theorem nameOf_prepend (s : String) {v : Variable} (hv : v.name = none) (env : Environment) :
    (nameOf v (env.prepend s)).result = (nameOf v env).result.map (s ++ ·) ∧
      (nameOf v (env.prepend s)).environment = (nameOf v env).environment.prepend s := by
  have hlookup := lookup_prepend s env (.variableAt v)
  simp only [Occurrence.lookup] at hlookup
  simp only [nameOf, hlookup, hv, choose]
  cases env.boundVariables.lookup v with
  | some name => exact ⟨rfl, rfl⟩
  | none =>
      have hgenerate : (env.prepend s).names.generate .variableName v.kind.stem = _ :=
        Names.generate_prepend s env.names .variableName v.kind.stem
      simp only [Option.map_none, hgenerate]
      refine ⟨rfl, ?_⟩
      simp only [prepend, List.map_append, List.map_cons, List.map_nil]

theorem recordAgain_prepend (s : String) {env : Environment} {name : String} {value : Value}
    (h : env.recordAgain name value = .ok name) :
    (env.prepend s).recordAgain (s ++ name) value = .ok (s ++ name) := by
  have hget : Dictionary.get? (env.prepend s).params (s ++ name) = Dictionary.get? env.params name :=
    Dictionary.get?_map (prepend_injective s) env.params name
  unfold recordAgain at h ⊢
  rw [hget]
  cases hbound : Dictionary.get? env.params name with
  | none => rfl
  | some bound =>
      simp only [hbound] at h ⊢
      split at h
      next hsame => rw [if_pos hsame]
      next => cases h

/-- A parameter that is met again has its own value recorded already, so nothing is refused. -/
theorem recordParameter_prepend (s : String) {p : Parameter} (hp : p.name = none)
    {env : Environment} (h : env.IsOfBuild) :
    (recordParameter p p.value (env.prepend s)).result =
        (recordParameter p p.value env).result.map (s ++ ·) ∧
      (recordParameter p p.value (env.prepend s)).environment =
        (recordParameter p p.value env).environment.prepend s := by
  have hlookup := lookup_prepend s env (.parameterAt p)
  simp only [Occurrence.lookup] at hlookup
  simp only [recordParameter, hlookup, hp, choose]
  cases hknown : env.boundParameters.lookup p with
  | some name =>
      have hagain := h.recordAgain hknown
      simp only [Option.map_some, hagain, recordAgain_prepend s hagain, Except.map, and_self]
  | none =>
      have hgenerate : (env.prepend s).names.generate .parameterName "param" = _ :=
        Names.generate_prepend s env.names .parameterName "param"
      simp only [Option.map_none, hgenerate]
      refine ⟨rfl, ?_⟩
      simp only [prepend, List.map_append, List.map_cons, List.map_nil,
        Dictionary.insert_map (prepend_injective s)]

end Environment

/-- **A naming step with a prefix** gives the same name behind it, and leads to the image of the
environment. -/
theorem Occurrence.name_prepend (s : String) {o : Occurrence} (ho : o.explicitName = none)
    {env : Environment} (h : env.IsOfBuild) :
    (o.name (env.prepend s)).result = (o.name env).result.map (s ++ ·) ∧
      (o.name (env.prepend s)).environment = (o.name env).environment.prepend s := by
  cases o with
  | variableAt v => exact Environment.nameOf_prepend s ho env
  | parameterAt p => exact Environment.recordParameter_prepend s ho h

/-! ### Runs with a prefix -/

/-- **A run with a prefix** fails with the same error, and leads to the image of the
environment. -/
theorem Template.run_prepend (s : String) {t : Template} : ∀ {env : Environment},
    env.IsOfBuild → (∀ o ∈ t.occurrences, o.explicitName = none) →
    (∀ e, (run t (env.prepend s)).result = .error e ↔ (run t env).result = .error e) ∧
      (run t (env.prepend s)).environment = (run t env).environment.prepend s := by
  refine run_image (fun env => env.prepend s) (P := Environment.IsOfBuild)
    (fun o env h => h.name o) fun o ho env h => ?_
  obtain ⟨hresult, henv⟩ := o.name_prepend s ho h
  refine ⟨fun e => ?_, henv⟩
  rw [hresult, map_eq_error_iff]

/-! ### Builds -/

/-- The names that identities are said to have; an identity without one has the empty name. -/
def Naming.ofNames (name : Occurrence → Option String) (op : LabelOperator) : Naming where
  ofVariable v := (name (.variableAt v)).getD ""
  ofParameter p := (name (.parameterAt p)).getD ""
  labelOperator := op

theorem Environment.naming_eq_ofNames (env : Environment) :
    env.naming = Naming.ofNames (fun o => o.lookup env) env.labelOperator :=
  rfl

namespace Construct

/-- **What is built from a construct, given what stands behind the prefix in every name.**  An
identity for which nothing is given has no name.  The text is the template of the construct with
these names, and the parameters have their values under them. -/
structure IsBuiltWith (c : Construct) (op : LabelOperator) (suffix : Occurrence → Option String)
    (namePrefix : String) : Prop where
  /-- The names that are given. -/
  lookup : ∀ o : Occurrence, o.lookup (c.render (.start namePrefix op)).environment =
    (suffix o).map (namePrefix ++ ·)
  /-- The text and the parameters. -/
  result : (c.build ⟨namePrefix, op, []⟩).result =
    let ν := Naming.ofNames (fun o => (suffix o).map (namePrefix ++ ·)) op
    .ok ⟨c.template.fill ν, c.parameters.map fun p => (ν.ofParameter p, p.value)⟩

variable {c : Construct} (hanonymous : ∀ o ∈ c.occurrences, o.explicitName = none)

include hanonymous in
/-- Writing a construct with a longer prefix. -/
theorem render_prepend (s namePrefix : String) (op : LabelOperator) :
    (∀ e, (c.render (.start (s ++ namePrefix) op)).result = .error e ↔
        (c.render (.start namePrefix op)).result = .error e) ∧
      (c.render (.start (s ++ namePrefix) op)).environment =
        (c.render (.start namePrefix op)).environment.prepend s := by
  have ht : ∀ o ∈ c.template.occurrences, o.explicitName = none := by
    rwa [occurrences_template]
  have hrun := Template.run_prepend s (Environment.isOfBuild_start namePrefix op) ht
  rw [Environment.prepend_start] at hrun
  simp only [result_render, environment_render]
  exact hrun

include hanonymous in
/-- With a prefix the same errors occur as without. -/
theorem error_build_iff_start {op : LabelOperator} {namePrefix : String}
    (hvalid : BuildConfig.isValid ⟨namePrefix, op, []⟩ = true) (e : BuildError) :
    (c.build ⟨namePrefix, op, []⟩).result = .error e ↔
      (c.render (.start "" op)).result = .error e := by
  obtain ⟨herror, -⟩ := render_prepend hanonymous namePrefix "" op
  rw [String.append_empty] at herror
  rw [c.error_build_iff hvalid rfl]
  exact herror e

include hanonymous in
/-- A construct that can be written without a prefix can be built with any. -/
theorem isBuiltWith {op : LabelOperator} {namePrefix text : String}
    (hvalid : BuildConfig.isValid ⟨namePrefix, op, []⟩ = true)
    (hwritten : (c.render (.start "" op)).result = .ok text) :
    c.IsBuiltWith op (fun o => o.lookup (c.render (.start "" op)).environment) namePrefix := by
  obtain ⟨herror, henv⟩ := render_prepend hanonymous namePrefix "" op
  rw [String.append_empty] at herror henv
  have hlookup : ∀ o : Occurrence, o.lookup (c.render (.start namePrefix op)).environment = _ :=
    fun o => henv ▸ Environment.lookup_prepend namePrefix _ o
  refine ⟨hlookup, ?_⟩
  cases hresult : (c.render (.start namePrefix op)).result with
  | error e =>
      rw [herror, hwritten] at hresult
      cases hresult
  | ok cypher =>
      have hnaming : (c.render (.start namePrefix op)).environment.naming =
          Naming.ofNames (fun o =>
            (o.lookup (c.render (.start "" op)).environment).map (namePrefix ++ ·)) op := by
        simp only [Environment.naming_eq_ofNames, hlookup, labelOperator_render]
        rfl
      have hparams := params_of_render hresult
      have htext := eq_fill_of_render hresult
      rw [hnaming] at hparams htext
      rw [c.result_build hvalid]
      simp only [BuildConfig.environment, hresult, Environment.mergeExtras, Environment.addExtras,
        Except.map, hparams, htext]

end Construct

/-- **Two builds that differ in the prefix alone.**  If every identity that is written is anonymous,
either both builds fail with the same error, or both succeed: then every one of these identities has
a name, which is the prefix with the same text behind it in either build, and text and parameters
differ in these names alone. -/
theorem build_prefixes {c : Construct} (hanonymous : ∀ o ∈ c.occurrences, o.explicitName = none)
    {first second : String} {op : LabelOperator}
    (hfirst : BuildConfig.isValid ⟨first, op, []⟩ = true)
    (hsecond : BuildConfig.isValid ⟨second, op, []⟩ = true) :
    (∃ e, (c.build ⟨first, op, []⟩).result = .error e ∧
      (c.build ⟨second, op, []⟩).result = .error e) ∨
    ∃ suffix : Occurrence → Option String, (∀ o ∈ c.occurrences, (suffix o).isSome = true) ∧
      c.IsBuiltWith op suffix first ∧ c.IsBuiltWith op suffix second := by
  cases hwritten : (c.render (.start "" op)).result with
  | error e =>
      exact .inl ⟨e, (Construct.error_build_iff_start hanonymous hfirst e).2 hwritten,
        (Construct.error_build_iff_start hanonymous hsecond e).2 hwritten⟩
  | ok text =>
      refine .inr ⟨_, fun o ho => ?_, Construct.isBuiltWith hanonymous hfirst hwritten,
        Construct.isBuiltWith hanonymous hsecond hwritten⟩
      obtain ⟨name, hname⟩ := Construct.exists_lookup_of_render hwritten o ho
      exact Option.isSome_iff_exists.2 ⟨name, hname⟩

/-- In a loop without explicit names the one prefix stands in the place of the other. -/
theorem build_loopPattern_prefixes :
    (∀ o ∈ loopPattern.occurrences, o.explicitName = none) ∧
      BuildConfig.isValid ⟨"app_", .colon, []⟩ = true ∧
      BuildConfig.isValid ⟨"this", .colon, []⟩ = true ∧
      (loopPattern.build ⟨"app_", .colon, []⟩).result =
        .ok ⟨"(app_this0:Person \x7bid: $app_param0\x7d)-[app_this1]->(app_this0)",
          [("app_param0", .integer 7)]⟩ ∧
      (loopPattern.build ⟨"this", .colon, []⟩).result =
        .ok ⟨"(thisthis0:Person \x7bid: $thisparam0\x7d)-[thisthis1]->(thisthis0)",
          [("thisparam0", .integer 7)]⟩ ∧
      ((∃ e, (loopPattern.build ⟨"app_", .colon, []⟩).result = .error e ∧
        (loopPattern.build ⟨"this", .colon, []⟩).result = .error e) ∨
      ∃ suffix : Occurrence → Option String,
        (∀ o ∈ loopPattern.occurrences, (suffix o).isSome = true) ∧
          loopPattern.IsBuiltWith .colon suffix "app_" ∧
          loopPattern.IsBuiltWith .colon suffix "this") :=
  have hanonymous : ∀ o ∈ loopPattern.occurrences, o.explicitName = none := by decide
  ⟨hanonymous, rfl, rfl, rfl, rfl, build_prefixes hanonymous rfl rfl⟩

end CypherQuery
