/-
**What goes wrong in a build.**

A build ends with an error for one of three reasons: a construct in the tree cannot be written at
all, an explicit name is taken already, or the beginning of generated names may not be used.  A
value that differs from one recorded before is not among them: in a build every parameter comes with
its own value each time, and it is compared with itself.

Main definitions:

* `CypherQuery.BuildError.isStructural` — the errors of constructs that cannot be written;
* `CypherQuery.Template.isSound` — all faults of a template are of that sort.

Main results:

* `CypherQuery.Construct.isSound_template` — the templates of all constructs are sound;
* `CypherQuery.Template.error_of_run` — the errors of a run in a build;
* `CypherQuery.Construct.error_of_build` — **the errors of a build**.
-/

import CypherQuery.Proofs.NamesApart
import CypherQuery.Proofs.WellFormed

set_option autoImplicit false

namespace CypherQuery

/-- Whether an error says that a construct cannot be written, whatever the names are. -/
def BuildError.isStructural : BuildError → Bool
  | .incompletePattern | .malformed _ => true
  | _ => false

/-- Whether a piece, if it is a fault, is one of a construct that cannot be written. -/
def Piece.isSound : Piece → Bool
  | .fault e => e.isStructural
  | _ => true

namespace Template

/-- Whether all faults of a template are those of constructs that cannot be written. -/
def isSound (t : Template) : Bool := t.all Piece.isSound

theorem isSound_iff (t : Template) :
    t.isSound = true ↔ ∀ e, .fault e ∈ t → e.isStructural = true := by
  rw [isSound, List.all_eq_true]
  constructor
  · intro h e he
    exact h (.fault e) he
  · intro h piece hpiece
    cases piece with
    | fault e => exact h e hpiece
    | _ => rfl

end Template

/-! ### The templates of all constructs -/

theorem Expression.isStructural_of_fault {x : Expression} {e : BuildError}
    (h : x.fault? = some e) : e.isStructural = true := by
  cases x with
  | literal l =>
      cases l with
      | double x =>
          rw [fault?, ite_eq_iff] at h
          obtain ⟨-, h⟩ | ⟨-, h⟩ := h <;> cases h
          rfl
      | _ => cases h
  | application op operands =>
      obtain ⟨cause, -, rfl⟩ := Option.map_eq_some_iff.1 h
      rfl
  | _ => cases h

theorem Clause.isStructural_of_fault {c : Clause} {e : BuildError} (h : c.fault? = some e) :
    e.isStructural = true := by
  cases c with
  | matching | creating | setting | deleting =>
      rw [fault?, ite_eq_iff] at h
      obtain ⟨-, h⟩ | ⟨-, h⟩ := h <;> cases h
      rfl
  | _ => cases h

theorem Construct.isStructural_of_mem_faults {c : Construct} {e : BuildError}
    (h : e ∈ c.faults) : e.isStructural = true := by
  cases c with
  | ofOpenPattern p =>
      obtain rfl := List.mem_singleton.1 h
      rfl
  | ofClause c => exact Clause.isStructural_of_fault (Option.mem_toList.1 h)
  | ofQuery q =>
      rw [faults] at h
      split at h
      · obtain rfl := List.mem_singleton.1 h
        rfl
      · obtain ⟨c, -, hc⟩ := List.mem_filterMap.1 h
        exact Clause.isStructural_of_fault hc
  | _ => cases h

/-- **The templates of all constructs are sound.** -/
theorem Construct.isSound_template (c : Construct) : c.template.isSound = true := by
  rw [Template.isSound_iff]
  intro e he
  rcases (c.fault_mem_template_iff e).1 he with hlack | ⟨x, -, part, -, hpart⟩
  · exact isStructural_of_mem_faults hlack
  · exact Expression.isStructural_of_fault hpart

/-! ### The errors of a build -/

/-- The errors of a build from the naming of identities and from the extra parameters. -/
def BuildError.isCollision : BuildError → Bool
  | .nameCollision _ _ => true
  | _ => false

/-- In a build, an identity cannot be named only if its name is taken. -/
theorem Environment.IsOfBuild.isCollision_of_name {env : Environment} (h : env.IsOfBuild)
    {o : Occurrence} {e : BuildError} (he : (o.name env).result = .error e) :
    e.isCollision = true := by
  obtain ⟨name, -, rfl, -⟩ := h.exists_owner_of_error he
  rfl

theorem Piece.error_of_run {piece : Piece} {env : Environment} (h : env.IsOfBuild) {e : BuildError}
    (he : (piece.run env).result = .error e) : piece = .fault e ∨ e.isCollision = true := by
  cases piece using Piece.cases_occurrence with
  | text s => cases he
  | labelSign => cases he
  | fault e' =>
      cases he
      exact Or.inl rfl
  | identity o =>
      rw [Occurrence.run_piece] at he
      rcases BuildM.error_of_bind he with hname | ⟨name, -, hwrite⟩
      · exact Or.inr (h.isCollision_of_name hname)
      · cases hwrite

/-- **The errors of a run** in a build: a fault of the template, or a name that is taken. -/
theorem Template.error_of_run {t : Template} {e : BuildError} : ∀ {env : Environment},
    env.IsOfBuild → (run t env).result = .error e → .fault e ∈ t ∨ e.isCollision = true := by
  induction t with
  | nil => intro env _ he; cases he
  | cons piece rest ih =>
      intro env h he
      rcases BuildM.error_of_bind he with hpiece | ⟨s, -, htail⟩
      · rcases Piece.error_of_run h hpiece with rfl | hcollision
        · exact Or.inl List.mem_cons_self
        · exact Or.inr hcollision
      · rcases BuildM.error_of_bind htail with hrest | ⟨t, -, hwrite⟩
        · rcases ih (h.runPiece piece) hrest with hfault | hcollision
          · exact Or.inl (List.mem_cons_of_mem piece hfault)
          · exact Or.inr hcollision
        · cases hwrite

/-- The errors of writing a construct in a build. -/
theorem Construct.error_of_render (c : Construct) {namePrefix : String} {op : LabelOperator}
    {e : BuildError} (h : (c.render (.start namePrefix op)).result = .error e) :
    e.isStructural = true ∨ e.isCollision = true := by
  rw [result_render] at h
  rcases Template.error_of_run (Environment.isOfBuild_start namePrefix op) h with
    hfault | hcollision
  · exact Or.inl ((Template.isSound_iff _).1 c.isSound_template e hfault)
  · exact Or.inr hcollision

/-- **The errors of a build**: a construct that cannot be written, a name that is taken, or a
beginning of generated names that may not be used. -/
theorem Construct.error_of_build (c : Construct) (config : BuildConfig) {e : BuildError}
    (h : (c.build config).result = .error e) :
    e.isStructural = true ∨ e.isCollision = true ∨ e = .invalidNamePrefix := by
  cases hvalid : config.isValid with
  | false =>
      rw [c.result_build_of_not_isValid hvalid] at h
      cases h
      exact Or.inr (Or.inr rfl)
  | true =>
      rw [c.result_build hvalid] at h
      cases hwritten : (c.render config.environment).result with
      | error e' =>
          rw [hwritten] at h
          cases h
          rcases c.error_of_render hwritten with hstructural | hcollision
          · exact Or.inl hstructural
          · exact Or.inr (Or.inl hcollision)
      | ok cypher =>
          rw [hwritten] at h
          have hkeys : (c.render config.environment).environment.TracksKeys :=
            (c.isOfBuild_render _ _).consistent.tracksKeys
          dsimp only at h
          rw [Environment.mergeExtras_eq hkeys] at h
          cases hrepeated : firstRepeated
              (Dictionary.keys (c.render config.environment).environment.params)
              (config.extraParams.map Prod.fst) with
          | none =>
              rw [hrepeated] at h
              cases h
          | some name =>
              rw [hrepeated] at h
              cases h
              exact Or.inr (Or.inl rfl)

end CypherQuery
