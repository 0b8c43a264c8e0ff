/-
**Writing a construct again.**

A construct that was written once can be written again in the environment left behind.  The result
is the same, and the environment stays as it is.  That holds of failures too: whatever was named
before the place of the failure has its name already, and at that place the same thing goes wrong.

What carries the proof is that an identity, once it was named with success, is *settled*: in every
later environment the naming step returns the name and does nothing else.  A variable is settled
because names are kept.  A parameter is settled because its value is kept as well, so that the
comparison with the value recorded before succeeds.

Main results:

* `CypherQuery.Occurrence.name_of_named` — an identity that was named is settled;
* `CypherQuery.Template.run_again` — running a template again;
* `CypherQuery.render_again` — **writing a construct again gives the same result and changes
  nothing**.
-/

import CypherQuery.Proofs.Session

set_option autoImplicit false

namespace CypherQuery

/-! ### Values recorded again -/

namespace Environment

/-- A value is accepted again if it is the same as the one recorded. -/
theorem recordAgain_of_same {env : Environment} {name : String} {value bound : Value}
    (h : Dictionary.get? env.params name = some bound) (hsame : bound.same value = true) :
    env.recordAgain name value = .ok name := by
  simp [recordAgain, h, hsame]

/-- After a value was recorded with success, the one in the table is the same. -/
theorem Consistent.exists_get?_recordParameter {env : Environment} (hcons : env.Consistent)
    {p : Parameter} {value : Value} {name : String}
    (h : (recordParameter p value env).result = .ok name) :
    ∃ bound, Dictionary.get? (recordParameter p value env).environment.params name = some bound ∧
      bound.same value = true := by
  rcases recordParameter_cases p value env with
    ⟨known, hknown, hstep⟩ | ⟨e, -, -, hstep⟩ | ⟨new, names, -, -, hstep⟩
  · rw [hstep] at h ⊢
    obtain rfl : name = known := eq_of_recordAgain h
    have hkey : name ∈ Dictionary.keys env.params := by
      rw [hcons.keys]
      exact hcons.parameterNaming.mem_names_iff.2 ⟨p, hknown⟩
    obtain ⟨bound, hbound⟩ := Dictionary.exists_get?_of_mem_keys hkey
    refine ⟨bound, hbound, ?_⟩
    -- otherwise the step would have failed
    by_contra hsame
    simp [recordAgain, hbound, hsame] at h
  · rw [hstep] at h
    cases h
  · rw [hstep] at h ⊢
    cases h
    exact ⟨value, Dictionary.get?_insert_self env.params name value, value.same_self⟩

end Environment

/-! ### Identities that were named -/

/-- **An identity that was named is settled**: in a later environment the step returns its name and
does nothing else. -/
theorem Occurrence.name_of_named {o : Occurrence} {env later : Environment} {name : String}
    (hcons : env.Consistent) (h : (o.name env).result = .ok name)
    (hnames : (o.name env).environment.Extends later)
    (hparams : (o.name env).environment.params <+: later.params) :
    o.name later = ⟨.ok name, later, []⟩ := by
  have hlookup : o.lookup later = some name := lookup_of_extends hnames (lookup_name h)
  cases o with
  | variableAt v =>
      have hv : later.boundVariables.lookup v = some name := hlookup
      simp only [Occurrence.name, Environment.nameOf, hv]
  | parameterAt p =>
      have hp : later.boundParameters.lookup p = some name := hlookup
      obtain ⟨bound, hbound, hsame⟩ := hcons.exists_get?_recordParameter h
      have hlater := Dictionary.get?_of_isPrefix hparams hbound
      simp only [Occurrence.name, Environment.recordParameter, hp,
        Environment.recordAgain_of_same hlater hsame]

/-- An identity that cannot be named leaves the environment as it is, and reports nothing. -/
theorem Occurrence.name_of_error {o : Occurrence} {env : Environment} {e : BuildError}
    (h : (o.name env).result = .error e) : o.name env = ⟨.error e, env, []⟩ := by
  cases o with
  | variableAt v => exact Environment.nameOf_of_error h
  | parameterAt p => exact Environment.recordParameter_of_error h

/-! ### Pieces and templates -/

/-- A piece that cannot be written leaves the environment as it is, and reports nothing. -/
theorem Piece.run_of_error {piece : Piece} {env : Environment} {e : BuildError}
    (h : (piece.run env).result = .error e) : piece.run env = ⟨.error e, env, []⟩ := by
  cases piece using Piece.cases_occurrence with
  | text s => cases h
  | labelSign => cases h
  | fault e' =>
      cases h
      rfl
  | identity o =>
      rw [Occurrence.run_piece] at h ⊢
      rcases BuildM.error_of_bind h with hname | ⟨name, -, hwrite⟩
      · rw [BuildM.bind_of_error _ hname, Occurrence.name_of_error hname]
      · cases hwrite

/-- A piece that was written is written alike in a later environment, and nothing else is done. -/
theorem Piece.run_of_written {piece : Piece} {env later : Environment} {s : String}
    (hcons : env.Consistent) (h : (piece.run env).result = .ok s)
    (hnames : (piece.run env).environment.Extends later)
    (hparams : (piece.run env).environment.params <+: later.params) :
    piece.run later = ⟨.ok s, later, []⟩ := by
  cases piece using Piece.cases_occurrence with
  | text t =>
      cases h
      rfl
  | labelSign =>
      cases h
      change Outcome.mk (.ok later.labelOperator.separator) later [] = _
      rw [hnames.labelOperator]
      rfl
  | fault e => cases h
  | identity o =>
      rw [Occurrence.environment_run_piece] at hnames hparams
      rw [Occurrence.run_piece] at h ⊢
      obtain ⟨name, hname, hs⟩ := BuildM.ok_of_bind h
      cases hs
      rw [BuildM.bind_pure_apply, Occurrence.name_of_named hcons hname hnames hparams]
      rfl

namespace Template

/-- A run whose first piece cannot be written ends there. -/
theorem run_cons_of_error {piece : Piece} {env : Environment} {e : BuildError}
    (h : (piece.run env).result = .error e) (rest : Template) :
    run (piece :: rest) env = ⟨.error e, env, []⟩ := by
  rw [run_cons, BuildM.bind_of_error _ h, Piece.run_of_error h]

/-- A run keeps the agreement of the tables, and the values recorded. -/
theorem grows_run (t : Template) (env : Environment) : env.Grows (run t env).environment :=
  relates_run Environment.Grows.refl (fun _ _ _ => Environment.Grows.trans)
    Environment.grows_name t env

/-- **Running a template again** in the environment left behind: the result is the same, and nothing
else happens. -/
theorem run_again (t : Template) : ∀ {env : Environment}, env.Consistent →
    run t (run t env).environment = ⟨(run t env).result, (run t env).environment, []⟩ := by
  induction t with
  | nil => intro env _; rfl
  | cons piece rest ih =>
      intro env hcons
      cases hpiece : (piece.run env).result with
      | error e =>
          -- the first piece fails, and it fails in the same environment again
          have hfail := run_cons_of_error hpiece rest
          rw [hfail]
          exact hfail
      | ok s =>
          have hfirst : (run [piece] env).environment = (piece.run env).environment := by
            rw [run_singleton]
          have hmid : (piece.run env).environment.Consistent := by
            rw [← hfirst]
            exact (grows_run [piece] env hcons).1
          -- the rest leads from the environment behind the first piece to the last one
          have hsettled := Piece.run_of_written hcons hpiece
            (extends_run rest (piece.run env).environment)
            (grows_run rest (piece.run env).environment hmid).2
          rw [run_cons_of_ok hpiece rest]
          rw [run_cons, BuildM.bind_of_ok _ (by rw [hsettled]), hsettled, BuildM.bind_pure_apply,
            ih hmid]
          rfl

end Template

/-! ### Constructs -/

/-- **Writing a construct again**, in the environment that writing it left behind, gives the same
result, be it a text or an error, and changes nothing. -/
theorem render_again (c : Construct) {env : Environment} (h : env.IsReachable) :
    (c.render (c.render env).environment).result = (c.render env).result ∧
      (c.render (c.render env).environment).environment = (c.render env).environment := by
  have hrun := c.template.run_again h.consistent
  rw [← Construct.result_render, ← Construct.environment_render] at hrun
  constructor
  · rw [Construct.result_render, hrun]
  · rw [Construct.environment_render, hrun]

/-- A parameter for which another value was recorded before the construct is written. -/
def disputedParameter : Parameter := ⟨0, none, .integer 1⟩

/-- A list that cannot be written: the value of the parameter at its end is refused. -/
def disputedList : Construct :=
  .ofExpression (.list [.reference ⟨0, .value, none⟩, .placeholder disputedParameter])

/-- The variable in front of the parameter gets its name the first time, and the value is refused
both times. -/
theorem render_disputedList_again :
    let env := (Environment.start "" .colon).after [.record disputedParameter (.integer 2)]
    (disputedList.render env).result =
        .error (.ambiguousParameter "param0" (.integer 2) (.integer 1)) ∧
      (disputedList.render env).environment ≠ env ∧
      (disputedList.render (disputedList.render env).environment).result =
        (disputedList.render env).result ∧
      (disputedList.render (disputedList.render env).environment).environment =
        (disputedList.render env).environment :=
  ⟨rfl, by decide, render_again disputedList ⟨"", .colon, [.record disputedParameter (.integer 2)],
    rfl⟩⟩

end CypherQuery
