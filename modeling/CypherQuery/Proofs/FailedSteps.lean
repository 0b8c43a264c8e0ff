/-
**What failed steps leave behind.**

A step of a session that asks for a single name leaves nothing behind when it fails: no name is
taken, no counter moves, no value is noted.  So a session can do without such steps.  The other
steps answer the same, and the environment at the end is the same, with all the parameters in it.

A construct that cannot be written leaves names behind, but no others than those that were needed.
Its identities are named from left to right until one of them is refused, or until a place where
nothing can be written; those before it have been named, and nothing else was done.

Main definitions:

* `CypherQuery.Environment.transcript` — what the steps of a session answer;
* `CypherQuery.Environment.withoutFailed` — a session without the naming steps that fail;
* `CypherQuery.Construct.StopsBehind` — **the identities behind which writing stops**.

Main results:

* `CypherQuery.SessionStep.run_of_error` — a naming step that fails leaves nothing behind;
* `CypherQuery.Environment.transcript_withoutFailed` — a session without its failed naming steps;
* `CypherQuery.Template.exists_stop_of_error` — where a run ends that fails;
* `CypherQuery.failed_steps` — **what failed steps leave behind**.
-/

import CypherQuery.Proofs.Faults
import CypherQuery.Proofs.Repetition

set_option autoImplicit false

namespace CypherQuery

/-! ### Naming steps -/

/-- Whether a step of a session asks for a single name. -/
def SessionStep.isNaming : SessionStep → Bool
  | .name _ | .record _ _ => true
  | _ => false

/-- **A naming step that fails** leaves the environment as it is, and nothing is reported. -/
theorem SessionStep.run_of_error {step : SessionStep} (hstep : step.isNaming = true)
    {env : Environment} {e : BuildError} (h : (step.run env).result = .error e) :
    step.run env = ⟨.error e, env, []⟩ := by
  cases step with
  | name v => exact Environment.nameOf_of_error h
  | record p value => exact Environment.recordParameter_of_error h
  | write c => cases hstep
  | askNamePrefix => cases hstep
  | askLabelOperator => cases hstep

/-! ### Sessions without failed steps -/

/-- A step of a session with its answer. -/
abbrev SessionEntry := SessionStep × Except BuildError String

/-- Whether a naming step failed. -/
def SessionEntry.isFailedNaming (entry : SessionEntry) : Bool :=
  entry.1.isNaming && !entry.2.isOk

namespace Environment

/-- **What the steps of a session answer**, one after the other. -/
def transcript : Environment → List SessionStep → List SessionEntry
  | _, [] => []
  | env, step :: rest => (step, (step.run env).result) :: transcript (step.run env).environment rest

/-- The entries of a session without the naming steps that failed. -/
def completed (env : Environment) (steps : List SessionStep) : List SessionEntry :=
  (env.transcript steps).filter fun entry => !entry.isFailedNaming

/-- **A session without the naming steps that fail.** -/
def withoutFailed (env : Environment) (steps : List SessionStep) : List SessionStep :=
  (env.completed steps).map Prod.fst

theorem after_cons (env : Environment) (step : SessionStep) (rest : List SessionStep) :
    env.after (step :: rest) = (step.run env).environment.after rest := rfl

/-- A naming step that fails is left out, and the session goes on where it stood. -/
theorem completed_cons_of_failed {env : Environment} {step : SessionStep}
    (h : SessionEntry.isFailedNaming (step, (step.run env).result) = true)
    (rest : List SessionStep) :
    (step.run env).environment = env ∧ env.completed (step :: rest) = env.completed rest := by
  rw [SessionEntry.isFailedNaming, Bool.and_eq_true] at h
  have henv : (step.run env).environment = env := by
    cases hresult : (step.run env).result with
    | error e => rw [SessionStep.run_of_error h.1 hresult]
    | ok answer =>
        rw [hresult] at h
        cases h.2
  refine ⟨henv, ?_⟩
  rw [completed, transcript, henv, List.filter_cons_of_neg]
  · rfl
  · rw [SessionEntry.isFailedNaming, h.1, h.2]
    decide

/-- Any other step is kept. -/
theorem completed_cons_of_not_failed {env : Environment} {step : SessionStep}
    (h : SessionEntry.isFailedNaming (step, (step.run env).result) = false)
    (rest : List SessionStep) :
    env.completed (step :: rest) =
      (step, (step.run env).result) :: (step.run env).environment.completed rest := by
  rw [completed, transcript, List.filter_cons_of_pos]
  · rfl
  · rw [h]
    rfl

/-- **A session can do without the naming steps that fail**: the other steps answer the same, and
the environment at the end is the same. -/
theorem transcript_withoutFailed (steps : List SessionStep) : ∀ env : Environment,
    env.transcript (env.withoutFailed steps) = env.completed steps ∧
      env.after (env.withoutFailed steps) = env.after steps := by
  induction steps with
  | nil => exact fun _ => ⟨rfl, rfl⟩
  | cons step rest ih =>
      intro env
      cases hfailed : SessionEntry.isFailedNaming (step, (step.run env).result) with
      | true =>
          obtain ⟨henv, hcompleted⟩ := completed_cons_of_failed hfailed rest
          rw [withoutFailed, hcompleted, after_cons, henv]
          exact ih env
      | false =>
          have hcompleted := completed_cons_of_not_failed hfailed rest
          obtain ⟨htranscript, hafter⟩ := ih (step.run env).environment
          rw [withoutFailed, hcompleted, List.map_cons, transcript, after_cons, after_cons]
          exact ⟨congrArg _ htranscript, hafter⟩

end Environment

/-! ### Where writing stops -/

/-- **A run that fails** ends at a piece that cannot be written.  What stands before it has been
written, and nothing else was done. -/
theorem Template.exists_stop_of_error {t : Template} {e : BuildError} : ∀ {env : Environment},
    (run t env).result = .error e →
    ∃ (before after : Template) (piece : Piece), t = before ++ piece :: after ∧
      (∃ s, (run before env).result = .ok s) ∧
      (run t env).environment = (run before env).environment ∧
      (piece.run (run t env).environment).result = .error e := by
  induction t with
  | nil => intro env h; cases h
  | cons piece rest ih =>
      intro env h
      cases hpiece : (piece.run env).result with
      | error e' =>
          rw [run_cons_of_error hpiece] at h ⊢
          cases h
          exact ⟨[], rest, piece, rfl, ⟨"", rfl⟩, rfl, hpiece⟩
      | ok s =>
          rw [run_cons_of_ok hpiece] at h ⊢
          obtain ⟨before, after, stop, hrest, ⟨written, hwritten⟩, henv, hstop⟩ :=
            ih (map_eq_error_iff.1 h)
          refine ⟨piece :: before, after, stop, by rw [hrest]; rfl, ⟨s ++ written, ?_⟩, ?_, hstop⟩
          · rw [run_cons_of_ok hpiece, hwritten]
            rfl
          · rw [run_cons_of_ok hpiece]
            exact henv

/-- **The identities behind which writing stops**: they have been named from left to right, and
nothing else was done. -/
structure Construct.StopsBehind (c : Construct) (env : Environment) (e : BuildError)
    (named rest : List Occurrence) : Prop where
  /-- They are the first identities of the construct. -/
  occurrences : c.occurrences = named ++ rest
  /-- They are given names. -/
  success : ∃ names, (Occurrence.nameAll named env).result = .ok names
  /-- The environment left behind is the one in which they have been named. -/
  environment : (c.render env).environment = (Occurrence.nameAll named env).environment
  /-- The next identity is refused, or nothing can be written there. -/
  cause : (∃ o ∈ rest.head?, (o.name (c.render env).environment).result = .error e) ∨
    e.isStructural = true

/-- **A construct that cannot be written** has its first identities named, and nothing else is
done. -/
theorem Construct.exists_stopsBehind {c : Construct} {env : Environment} {e : BuildError}
    (h : (c.render env).result = .error e) : ∃ named rest, c.StopsBehind env e named rest := by
  rw [result_render] at h
  obtain ⟨before, after, piece, htemplate, ⟨s, hs⟩, henv, hstop⟩ := Template.exists_stop_of_error h
  obtain ⟨⟨names, hnames⟩, -⟩ := Template.run_of_ok hs
  refine ⟨before.occurrences, Template.occurrences (piece :: after), ?_, ⟨names, by rw [hnames]⟩,
    ?_, ?_⟩
  · rw [← occurrences_template, htemplate, Template.occurrences_append]
  · rw [environment_render, henv, hnames]
  · rw [environment_render]
    cases piece using Piece.cases_occurrence with
    | text s => cases hstop
    | labelSign => cases hstop
    | fault e' =>
        cases hstop
        refine Or.inr ((Template.isSound_iff _).1 c.isSound_template e ?_)
        rw [htemplate]
        exact List.mem_append_right before List.mem_cons_self
    | identity o =>
        rw [Occurrence.run_piece] at hstop
        rcases BuildM.error_of_bind hstop with hname | ⟨name, -, hwrite⟩
        · refine Or.inl ⟨o, ?_, hname⟩
          cases o <;> rfl
        · cases hwrite

/-! ### Both -/

/-- **What failed steps leave behind.**  A naming step that fails leaves nothing, so that a session
without the naming steps that fail answers the same at all other steps and ends in the same
environment.  A construct that cannot be written leaves its first identities named. -/
theorem failed_steps (env : Environment) :
    (∀ (step : SessionStep) (e : BuildError), step.isNaming = true →
      (step.run env).result = .error e → (step.run env).environment = env) ∧
    (∀ steps : List SessionStep,
      env.transcript (env.withoutFailed steps) = env.completed steps ∧
        env.after (env.withoutFailed steps) = env.after steps) ∧
    ∀ (c : Construct) (e : BuildError), (c.render env).result = .error e →
      ∃ named rest, c.StopsBehind env e named rest := by
  refine ⟨?_, fun steps => Environment.transcript_withoutFailed steps env, ?_⟩
  · intro step e hstep h
    rw [SessionStep.run_of_error hstep h]
  · intro c e h
    exact Construct.exists_stopsBehind h

/-- An environment in which a name belongs to a node. -/
def ownedName : Environment := (Environment.start "" .colon).after [.name ⟨0, .node, some "n"⟩]

/-- Another node with that name. -/
def rivalNode : Variable := ⟨1, .node, some "n"⟩

/-- A session in which the name is asked for, and a second value is recorded for a parameter. -/
def rivalSession : List SessionStep :=
  [.name rivalNode, .record ⟨0, none, .integer 1⟩ (.integer 1), .name ⟨2, .node, none⟩,
    .record ⟨0, none, .integer 1⟩ (.integer 2), .askNamePrefix]

/-- A list in which the name is needed, between two nodes without a name. -/
def rivalList : Construct :=
  .ofExpression (.list [.reference ⟨3, .node, none⟩, .reference rivalNode,
    .reference ⟨4, .node, none⟩])

/-- Two steps of the session fail, and of the list only the first node is named. -/
theorem failed_rivalSteps :
    ((SessionStep.name rivalNode).run ownedName).environment = ownedName ∧
      ownedName.withoutFailed rivalSession =
        [.record ⟨0, none, .integer 1⟩ (.integer 1), .name ⟨2, .node, none⟩, .askNamePrefix] ∧
      ownedName.transcript (ownedName.withoutFailed rivalSession) =
        ownedName.completed rivalSession ∧
      ownedName.after (ownedName.withoutFailed rivalSession) = ownedName.after rivalSession ∧
      (rivalList.render ownedName).result = .error (.nameCollision "n" .variableName) ∧
      (rivalList.render ownedName).environment ≠ ownedName ∧
      ∃ named rest,
        rivalList.StopsBehind ownedName (.nameCollision "n" .variableName) named rest := by
  obtain ⟨hnaming, hsession, hwriting⟩ := failed_steps ownedName
  exact ⟨hnaming (.name rivalNode) (.nameCollision "n" .variableName) rfl rfl, rfl,
    (hsession rivalSession).1, (hsession rivalSession).2, rfl, by decide, hwriting rivalList _ rfl⟩

end CypherQuery
