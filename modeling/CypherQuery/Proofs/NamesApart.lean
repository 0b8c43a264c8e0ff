/-
**Naming fails only when names get in each other's way.**

An identity can be given few names: its explicit name, or without one a generated name with its
stem.  A generated name is searched until it is free, so only an explicit name can be taken
already, and it is taken by another identity of the same class to which it could be given as well.
When no explicit name among several identities can be the name of another of them, the identities
can be named one after the other, in any order.

A template without faults fails where the naming of its identities fails, and only there.

Main definitions:

* `CypherQuery.Occurrence.MayBeNamed` — the names that an identity can be given;
* `CypherQuery.Occurrence.NamesApart` — **no explicit name can be the name of another identity**;
* `CypherQuery.Environment.HasOrigins` — only certain identities have names, and names that they can
  be given.

Main results:

* `CypherQuery.Occurrence.name_cases` — the three outcomes of a naming step in a build;
* `CypherQuery.Environment.IsOfBuild.exists_owner_of_error` — **why an identity cannot be named**;
* `CypherQuery.Occurrence.exists_nameAll` — **identities whose names are apart can be named**;
* `CypherQuery.Template.error_iff` — the errors of a template without faults;
* `CypherQuery.Construct.hasOrigins_render` — the names given while a construct is written.
-/

import CypherQuery.Proofs.ParameterMap

set_option autoImplicit false

namespace CypherQuery

/-! ### The names that an identity can be given -/

namespace Occurrence

/-- The class in which the identity at a place has its name. -/
def nameClass : Occurrence → NameClass
  | .variableAt _ => .variableName
  | .parameterAt _ => .parameterName

/-- The explicit name of the identity at a place. -/
def explicitName : Occurrence → Option String
  | .variableAt v => v.name
  | .parameterAt p => p.name

/-- The stem of the names that may be generated for the identity at a place. -/
def stem : Occurrence → String
  | .variableAt v => v.kind.stem
  | .parameterAt _ => "param"

/-- **The names that an identity can be given**: its explicit name, or those generated with its
stem. -/
def MayBeNamed (namePrefix : String) (o : Occurrence) (name : String) : Prop :=
  o.explicitName = some name ∨
    o.explicitName = none ∧ ∃ k, name = Names.generated namePrefix o.stem k

/-- **No explicit name among those of several identities can be the name of another of them**, as
far as they are of the same class. -/
def NamesApart (namePrefix : String) (os : List Occurrence) : Prop :=
  ∀ o ∈ os, ∀ other ∈ os, o.nameClass = other.nameClass →
    ∀ name, o.explicitName = some name → other.MayBeNamed namePrefix name → other = o

theorem NamesApart.mono {namePrefix : String} {os os' : List Occurrence}
    (h : NamesApart namePrefix os) (hsub : os' ⊆ os) : NamesApart namePrefix os' :=
  fun o ho other hother => h o (hsub ho) other (hsub hother)

end Occurrence

namespace Environment

theorem mayBeNamed_of_choose {env : Environment} {o : Occurrence} {name : String} {names : Names}
    (h : env.choose o.nameClass o.explicitName o.stem = .ok (name, names)) :
    o.MayBeNamed env.names.namePrefix name := by
  cases hexplicit : o.explicitName with
  | none =>
      rw [hexplicit] at h
      simp only [choose, Except.ok.injEq, Names.generate, NamePool.generate, Prod.mk.injEq] at h
      exact Or.inr ⟨hexplicit, _, h.1.symm⟩
  | some given =>
      rw [hexplicit] at h
      simp only [choose] at h
      cases hclaim : env.names.claim o.nameClass given with
      | error e =>
          rw [hclaim] at h
          cases h
      | ok after =>
          rw [hclaim] at h
          cases h
          exact Or.inl hexplicit

/-- No name can be chosen only if the explicit one is taken. -/
theorem taken_of_choose {env : Environment} {nameClass : NameClass} {explicit : Option String}
    {stem : String} {e : BuildError} (h : env.choose nameClass explicit stem = .error e) :
    ∃ name, explicit = some name ∧ name ∈ (env.names.pool nameClass).taken ∧
      e = .nameCollision name nameClass := by
  cases explicit with
  | none => cases h
  | some name =>
      by_cases htaken : name ∈ (env.names.pool nameClass).taken
      · rw [choose, Names.claim_of_mem htaken] at h
        cases h
        exact ⟨name, rfl, htaken, rfl⟩
      · simp [choose, Names.claim, NamePool.claim?, htaken, Except.map] at h

/-- The names taken are those that some identity has. -/
theorem Consistent.mem_taken_iff {env : Environment} (h : env.Consistent) {nameClass : NameClass}
    {name : String} :
    name ∈ (env.names.pool nameClass).taken ↔
      ∃ o : Occurrence, o.nameClass = nameClass ∧ o.lookup env = some name := by
  cases nameClass with
  | variableName =>
      rw [h.variableTaken, h.variableNaming.mem_names_iff]
      constructor
      · rintro ⟨v, hv⟩
        exact ⟨.variableAt v, rfl, hv⟩
      · rintro ⟨o, ho, hlookup⟩
        cases o with
        | variableAt v => exact ⟨v, hlookup⟩
        | parameterAt p => cases ho
  | parameterName =>
      rw [h.parameterTaken, h.parameterNaming.mem_names_iff]
      constructor
      · rintro ⟨p, hp⟩
        exact ⟨.parameterAt p, rfl, hp⟩
      · rintro ⟨o, ho, hlookup⟩
        cases o with
        | variableAt v => cases ho
        | parameterAt p => exact ⟨p, hlookup⟩

/-- No two identities of a class have the same name. -/
theorem Consistent.eq_of_lookup {env : Environment} (h : env.Consistent) {o other : Occurrence}
    (hclass : o.nameClass = other.nameClass) {name : String} (ho : o.lookup env = some name)
    (hother : other.lookup env = some name) : o = other := by
  cases o <;> cases other <;> cases hclass
  · exact congrArg _ (h.variableNaming.eq_of_lookup ho hother)
  · exact congrArg _ (h.parameterNaming.eq_of_lookup ho hother)

end Environment

/-! ### Naming steps in a build -/

/-- When a variable is bound, it gets its name, and no other identity does. -/
theorem Environment.lookup_bindVariable (env : Environment) (v : Variable) (name : String)
    (names : Names) (other : Occurrence) : other.lookup (env.bindVariable v name names) =
      (other.lookup env).or (if other = .variableAt v then some name else none) := by
  cases other with
  | variableAt w => simp [Occurrence.lookup, bindVariable, lookup_append_singleton]
  | parameterAt q => simp [Occurrence.lookup, bindVariable]

/-- When a parameter is bound, it gets its name, and no other identity does. -/
theorem Environment.lookup_bindParameter (env : Environment) (p : Parameter) (name : String)
    (value : Value) (names : Names) (other : Occurrence) :
    other.lookup (env.bindParameter p name value names) =
      (other.lookup env).or (if other = .parameterAt p then some name else none) := by
  cases other with
  | variableAt w => simp [Occurrence.lookup, bindParameter]
  | parameterAt q => simp [Occurrence.lookup, bindParameter, lookup_append_singleton]

/-- **The outcomes of naming an identity** in a build: it has a name; it cannot be named; or it gets
a name, and no other identity does. -/
theorem Occurrence.name_cases {env : Environment} (h : env.IsOfBuild) (o : Occurrence) :
    (∃ name, o.lookup env = some name ∧ o.name env = ⟨.ok name, env, []⟩) ∨
    (∃ e, o.lookup env = none ∧
      env.choose o.nameClass o.explicitName o.stem = .error e ∧
      o.name env = ⟨.error e, env, []⟩) ∨
    (∃ name names, o.lookup env = none ∧
      env.choose o.nameClass o.explicitName o.stem = .ok (name, names) ∧
      (o.name env).result = .ok name ∧ (o.name env).environment.names = names ∧
      ∀ other : Occurrence, other.lookup (o.name env).environment =
        (other.lookup env).or (if other = o then some name else none)) := by
  cases o with
  | variableAt v =>
      rcases Environment.nameOf_cases v env with
        ⟨name, hknown, hstep⟩ | ⟨e, hnew, hchoice, hstep⟩ | ⟨name, names, hnew, hchoice, hstep⟩
      · exact .inl ⟨name, hknown, hstep⟩
      · exact .inr (.inl ⟨e, hnew, hchoice, hstep⟩)
      · refine .inr (.inr ⟨name, names, hnew, hchoice, ?_⟩)
        rw [Occurrence.name, hstep]
        exact ⟨rfl, rfl, env.lookup_bindVariable v name names⟩
  | parameterAt p =>
      rcases Environment.recordParameter_cases p p.value env with
        ⟨name, hknown, hstep⟩ | ⟨e, hnew, hchoice, hstep⟩ | ⟨name, names, hnew, hchoice, hstep⟩
      · rw [h.recordAgain hknown] at hstep
        exact .inl ⟨name, hknown, hstep⟩
      · exact .inr (.inl ⟨e, hnew, hchoice, hstep⟩)
      · refine .inr (.inr ⟨name, names, hnew, hchoice, ?_⟩)
        rw [Occurrence.name, hstep]
        exact ⟨rfl, rfl, env.lookup_bindParameter p name p.value names⟩

/-- An identity that has a name keeps it, and nothing else happens. -/
theorem Occurrence.name_of_lookup {env : Environment} (h : env.IsOfBuild) {o : Occurrence}
    {name : String} (hname : o.lookup env = some name) : o.name env = ⟨.ok name, env, []⟩ := by
  rcases o.name_cases h with ⟨found, hfound, hstep⟩ | ⟨e, hnew, -, -⟩ | ⟨found, names, hnew, -⟩
  · obtain rfl := Option.some.inj (hname.symm.trans hfound)
    exact hstep
  · rw [hname] at hnew
    cases hnew
  · rw [hname] at hnew
    cases hnew

namespace Environment

/-- A naming step keeps the beginning of generated names. -/
theorem IsOfBuild.namePrefix_name {env : Environment} (h : env.IsOfBuild) (o : Occurrence) :
    (o.name env).environment.names.namePrefix = env.names.namePrefix := by
  rcases o.name_cases h with ⟨name, -, hstep⟩ | ⟨e, -, -, hstep⟩ |
    ⟨name, names, -, hchoice, -, hnames, -⟩
  · rw [hstep]
  · rw [hstep]
  · rw [hnames]
    exact (takes_of_choose hchoice).namePrefix

/-- **Why an identity cannot be named**: its explicit name is the name of another identity. -/
theorem IsOfBuild.exists_owner_of_error {env : Environment} (h : env.IsOfBuild) {o : Occurrence}
    {e : BuildError} (he : (o.name env).result = .error e) :
    ∃ name, o.explicitName = some name ∧ e = .nameCollision name o.nameClass ∧
      ∃ owner : Occurrence, owner ≠ o ∧ owner.nameClass = o.nameClass ∧
        owner.lookup env = some name := by
  rcases o.name_cases h with ⟨name, -, hstep⟩ | ⟨e', hnew, hchoice, hstep⟩ |
    ⟨name, names, -, -, hok, -, -⟩
  · rw [hstep] at he
    cases he
  · rw [hstep] at he
    cases he
    obtain ⟨name, hexplicit, htaken, heq⟩ := taken_of_choose hchoice
    obtain ⟨owner, hclass, hlookup⟩ := h.consistent.mem_taken_iff.1 htaken
    refine ⟨name, hexplicit, heq, owner, ?_, hclass, hlookup⟩
    rintro rfl
    rw [hnew] at hlookup
    cases hlookup
  · rw [hok] at he
    cases he

/-- **Only certain identities have names**, and names that they can be given. -/
def HasOrigins (os : List Occurrence) (env : Environment) : Prop :=
  ∀ o name, o.lookup env = some name → o ∈ os ∧ o.MayBeNamed env.names.namePrefix name

theorem hasOrigins_start (os : List Occurrence) (namePrefix : String) (op : LabelOperator) :
    (start namePrefix op).HasOrigins os := by
  intro o name ho
  cases o <;> cases ho

theorem HasOrigins.name {os : List Occurrence} {env : Environment} (horigins : env.HasOrigins os)
    (h : env.IsOfBuild) {o : Occurrence} (ho : o ∈ os) :
    (o.name env).environment.HasOrigins os := by
  intro other found hlookup
  rw [h.namePrefix_name o]
  rcases o.name_cases h with ⟨name, -, hstep⟩ | ⟨e, -, -, hstep⟩ |
    ⟨name, names, -, hchoice, -, -, hlater⟩
  · rw [hstep] at hlookup
    exact horigins other found hlookup
  · rw [hstep] at hlookup
    exact horigins other found hlookup
  · rw [hlater, Option.or_eq_some_iff] at hlookup
    rcases hlookup with hold | ⟨-, hnew⟩
    · exact horigins other found hold
    · obtain ⟨rfl, hname⟩ := Option.ite_none_right_eq_some.1 hnew
      cases hname
      exact ⟨ho, mayBeNamed_of_choose hchoice⟩

end Environment

/-! ### Identities whose names are apart -/

/-- An identity whose name is apart from those of the others can be named. -/
theorem Occurrence.exists_name {os : List Occurrence} {env : Environment} (h : env.IsOfBuild)
    (horigins : env.HasOrigins os) (hapart : NamesApart env.names.namePrefix os) {o : Occurrence}
    (ho : o ∈ os) : ∃ name, (o.name env).result = .ok name := by
  cases hresult : (o.name env).result with
  | ok name => exact ⟨name, rfl⟩
  | error e =>
      obtain ⟨name, hexplicit, -, owner, hne, hclass, hlookup⟩ := h.exists_owner_of_error hresult
      obtain ⟨howner, hname⟩ := horigins owner name hlookup
      exact absurd (hapart o ho owner howner hclass.symm name hexplicit hname) hne

namespace Occurrence

theorem extends_nameAll (os : List Occurrence) (env : Environment) :
    env.Extends (nameAll os env).environment :=
  keeps_nameAll (fun o _ mid h => h.trans (o.extends_name mid)) (Environment.Extends.refl env)

/-- All identities that were named have a name afterwards. -/
theorem exists_lookup_of_nameAll {os : List Occurrence} : ∀ {env : Environment}
    {names : List String}, (nameAll os env).result = .ok names →
    ∀ o ∈ os, ∃ name, o.lookup (nameAll os env).environment = some name := by
  induction os with
  | nil => intro env names _ o ho; cases ho
  | cons first rest ih =>
      intro env names h o ho
      obtain ⟨name, hname, htail⟩ := BuildM.ok_of_bind (x := first.name) h
      obtain ⟨others, hothers, -⟩ := BuildM.ok_of_bind (x := nameAll rest) htail
      rw [(nameAll_cons_of_ok hname).2]
      rcases List.mem_cons.1 ho with rfl | hrest
      · exact ⟨name, lookup_of_extends (extends_nameAll rest _) (lookup_name hname)⟩
      · exact ih hothers o hrest

/-- Naming several identities gives no names to others and keeps the beginning of generated names. -/
theorem hasOrigins_nameAll {os rest : List Occurrence} {env : Environment} (h : env.IsOfBuild)
    (horigins : env.HasOrigins os) (hsub : rest ⊆ os) :
    (nameAll rest env).environment.HasOrigins os ∧
      (nameAll rest env).environment.names.namePrefix = env.names.namePrefix := by
  have hstep : ∀ o ∈ rest, ∀ mid : Environment, mid.IsOfBuild ∧ mid.HasOrigins os ∧
      mid.names.namePrefix = env.names.namePrefix →
      (o.name mid).environment.IsOfBuild ∧ (o.name mid).environment.HasOrigins os ∧
        (o.name mid).environment.names.namePrefix = env.names.namePrefix := by
    rintro o ho mid ⟨hmid, horigin, hbegin⟩
    exact ⟨hmid.name o, horigin.name hmid (hsub ho), (hmid.namePrefix_name o).trans hbegin⟩
  exact (keeps_nameAll hstep ⟨h, horigins, rfl⟩).2

/-- **Identities whose names are apart can be named** one after the other. -/
theorem exists_nameAll {os : List Occurrence} {rest : List Occurrence} :
    ∀ {env : Environment}, env.IsOfBuild → env.HasOrigins os →
      NamesApart env.names.namePrefix os → rest ⊆ os →
      ∃ names, (nameAll rest env).result = .ok names := by
  induction rest with
  | nil => intro env _ _ _ _; exact ⟨[], rfl⟩
  | cons o rest ih =>
      intro env h horigins hapart hsub
      rw [List.cons_subset] at hsub
      obtain ⟨name, hname⟩ := exists_name h horigins hapart hsub.1
      have hbegin := h.namePrefix_name o
      obtain ⟨names, hnames⟩ := ih (h.name o) (horigins.name h hsub.1) (hbegin ▸ hapart) hsub.2
      rw [(nameAll_cons_of_ok hname).1, hnames]
      exact ⟨name :: names, rfl⟩

end Occurrence

/-! ### Templates without faults -/

/-- **A template without faults fails where the naming of its identities fails.** -/
theorem Template.error_iff {t : Template} {e : BuildError} : ∀ {env : Environment},
    (∀ e, .fault e ∉ t) →
    ((run t env).result = .error e ↔ (Occurrence.nameAll t.occurrences env).result = .error e) := by
  induction t with
  | nil => intro env _; exact ⟨nofun, nofun⟩
  | cons piece rest ih =>
      intro env hfaultless
      have hrest : ∀ e, .fault e ∉ rest := fun e he =>
        hfaultless e (List.mem_cons_of_mem piece he)
      cases piece using Piece.cases_occurrence with
      | text s =>
          rw [run_text_cons, BuildM.bind_pure_apply, map_eq_error_iff, ih hrest]
          rfl
      | labelSign =>
          have hsign : (Piece.labelSign.run env).result = .ok env.labelOperator.separator := rfl
          rw [run_cons, BuildM.bind_of_ok _ hsign, BuildM.bind_pure_apply]
          dsimp only
          rw [map_eq_error_iff]
          exact ih hrest
      | fault e' => exact absurd List.mem_cons_self (hfaultless e')
      | identity o =>
          have hlist : occurrences (o.piece :: rest) = o :: occurrences rest := by
            cases o <;> rfl
          rw [run_cons, hlist]
          cases hname : (o.name env).result with
          | error e' =>
              have hpiece : (o.piece.run env).result = .error e' := by
                rw [Occurrence.run_piece, BuildM.bind_of_error _ hname]
              simp only [BuildM.bind_of_error _ hpiece, (Occurrence.nameAll_cons_of_error hname).1,
                Except.error.injEq]
          | ok name =>
              have hpiece : (o.piece.run env).result = .ok (o.write name) := by
                rw [Occurrence.run_piece, BuildM.bind_of_ok _ hname]
                rfl
              rw [BuildM.bind_of_ok _ hpiece, BuildM.bind_pure_apply,
                (Occurrence.nameAll_cons_of_ok hname).1, Occurrence.environment_run_piece]
              dsimp only
              rw [map_eq_error_iff, map_eq_error_iff]
              exact ih hrest

/-- When a construct is written, only the identities in it have names. -/
theorem Construct.hasOrigins_render {c : Construct} {namePrefix : String} {op : LabelOperator}
    {text : String} (h : (c.render (.start namePrefix op)).result = .ok text) :
    (c.render (.start namePrefix op)).environment.HasOrigins c.occurrences ∧
      (c.render (.start namePrefix op)).environment.names.namePrefix = namePrefix := by
  rw [result_render] at h
  obtain ⟨⟨names, hnames⟩, -⟩ := Template.run_of_ok h
  rw [occurrences_template] at hnames
  have horigins := Occurrence.hasOrigins_nameAll (Environment.isOfBuild_start namePrefix op)
    (Environment.hasOrigins_start c.occurrences _ _) (List.Subset.refl _)
  rw [hnames, ← environment_render] at horigins
  exact horigins

/-- All identities of a construct that was written have a name. -/
theorem Construct.exists_lookup_of_render {c : Construct} {env : Environment} {text : String}
    (h : (c.render env).result = .ok text) :
    ∀ o ∈ c.occurrences, ∃ name, o.lookup (c.render env).environment = some name := by
  rw [result_render] at h
  obtain ⟨⟨names, hnames⟩, -⟩ := Template.run_of_ok h
  have hnamed := Occurrence.exists_lookup_of_nameAll (by rw [hnames])
  rwa [hnames, occurrences_template, ← environment_render] at hnamed

end CypherQuery
