/-
**Templates: text with holes for names.**

What a renderer does to an environment depends on the tree only through the order in which
identities are met, and what it writes depends on the environment only through their names.  A
template keeps exactly that of a tree: pieces of fixed text, places of variables and parameters,
and the places where writing fails.  A template can be *run*, naming the identities on the way, or
be *filled* with names that are known.

Main definitions:

* `CypherQuery.Piece`, `CypherQuery.Template` — the pieces, and the lists of them;
* `CypherQuery.Template.run` — naming and writing at once, in an environment;
* `CypherQuery.Naming`, `CypherQuery.Template.fill` — **writing with names that are known**;
* `CypherQuery.Occurrence`, `CypherQuery.Template.occurrences` — **the identities of a template**,
  from left to right.

Main results:

* `CypherQuery.Template.run_append`, `CypherQuery.Template.run_joined` — running a template made of
  others;
* `CypherQuery.Template.run_of_ok` — **running a template is naming its identities in order, then
  filling it** with the names they have in the end.
-/

import CypherQuery.Expression.Rendering
import CypherQuery.Proofs.NamingSteps
import CypherQuery.Proofs.Steps

set_option autoImplicit false

namespace CypherQuery

/-! ### Pieces -/

/-- The pieces of a template. -/
inductive Piece where
  /-- Fixed text. -/
  | text (s : String)
  /-- The written name of a variable. -/
  | variableName (v : Variable)
  /-- The place of a parameter. -/
  | parameterName (p : Parameter)
  /-- The sign between labels. -/
  | labelSign
  /-- Nothing can be written from here on. -/
  | fault (e : BuildError)
  deriving DecidableEq, Repr

/-- A text with holes, from left to right. -/
abbrev Template := List Piece

/-- A name for every identity, and the sign between labels. -/
structure Naming where
  /-- The names of variables. -/
  ofVariable : Variable → String
  /-- The names of parameters. -/
  ofParameter : Parameter → String
  /-- The sign between labels. -/
  labelOperator : LabelOperator

/-- The names that an environment has given. -/
def Environment.naming (env : Environment) : Naming where
  ofVariable v := (env.boundVariables.lookup v).getD ""
  ofParameter p := (env.boundParameters.lookup p).getD ""
  labelOperator := env.labelOperator

namespace Piece

/-- A piece as a step of a build. -/
def run : Piece → BuildM String
  | .text s => pure s
  | .variableName v => v.render
  | .parameterName p => p.render
  | .labelSign => BuildM.ask fun env => env.labelOperator.separator
  | .fault e => BuildM.fail e

/-- The text of a piece, with names that are known. -/
def write (ν : Naming) : Piece → String
  | .text s => s
  | .variableName v => Identifier.escape (ν.ofVariable v)
  | .parameterName p => "$" ++ Identifier.escape (ν.ofParameter p)
  | .labelSign => ν.labelOperator.separator
  | .fault _ => ""

@[simp] theorem run_text (s : String) : (Piece.text s).run = pure s := rfl

@[simp] theorem run_fault (e : BuildError) : (Piece.fault e).run = BuildM.fail e := rfl

end Piece

@[simp] theorem Variable.quiet_render (v : Variable) : BuildM.quiet v.render = v.render := by
  simp [-bind_pure_comp, Variable.render]

@[simp] theorem Parameter.quiet_render (p : Parameter) : BuildM.quiet p.render = p.render := by
  simp [-bind_pure_comp, Parameter.render]

/-! ### Identities -/

/-- A place where an identity stands. -/
inductive Occurrence where
  /-- A variable. -/
  | variableAt (v : Variable)
  /-- A parameter. -/
  | parameterAt (p : Parameter)
  deriving DecidableEq, Repr

namespace Occurrence

/-- Naming the identity at a place; a parameter has its own value recorded. -/
def name : Occurrence → BuildM String
  | .variableAt v => Environment.nameOf v
  | .parameterAt p => Environment.recordParameter p p.value

/-- The name that an environment has given to the identity at a place. -/
def lookup (env : Environment) : Occurrence → Option String
  | .variableAt v => env.boundVariables.lookup v
  | .parameterAt p => env.boundParameters.lookup p

/-- **Naming the identities at several places in order.** -/
def nameAll (occurrences : List Occurrence) : BuildM (List String) :=
  BuildM.each name occurrences

theorem extends_name (o : Occurrence) (env : Environment) :
    env.Extends (o.name env).environment := by
  cases o with
  | variableAt v => exact Environment.extends_nameOf v env
  | parameterAt p => exact Environment.extends_recordParameter p p.value env

/-- Naming an identity that has a name changes nothing. -/
theorem environment_name_of_isSome {o : Occurrence} {env : Environment}
    (h : (o.lookup env).isSome = true) : (o.name env).environment = env := by
  obtain ⟨name, hname⟩ := Option.isSome_iff_exists.1 h
  cases o with
  | variableAt v =>
      have hlookup : env.boundVariables.lookup v = some name := hname
      simp [Occurrence.name, Environment.nameOf, hlookup]
  | parameterAt p =>
      have hlookup : env.boundParameters.lookup p = some name := hname
      simp [Occurrence.name, Environment.recordParameter, hlookup]

theorem lookup_name {o : Occurrence} {env : Environment} {name : String}
    (h : (o.name env).result = .ok name) : o.lookup (o.name env).environment = some name := by
  cases o with
  | variableAt v => exact Environment.lookup_nameOf h
  | parameterAt p => exact Environment.lookup_recordParameter h

theorem lookup_of_extends {o : Occurrence} {env later : Environment} (h : env.Extends later)
    {name : String} (ho : o.lookup env = some name) : o.lookup later = some name := by
  cases o with
  | variableAt v => exact h.variableNames v name ho
  | parameterAt p => exact h.parameterNames p name ho

theorem nameAll_cons_of_error {o : Occurrence} {rest : List Occurrence} {env : Environment}
    {e : BuildError} (h : (o.name env).result = .error e) :
    (nameAll (o :: rest) env).result = .error e ∧
      (nameAll (o :: rest) env).environment = (o.name env).environment := by
  rw [nameAll, BuildM.each_cons, BuildM.bind_of_error _ h]
  exact ⟨rfl, rfl⟩

theorem nameAll_cons_of_ok {o : Occurrence} {rest : List Occurrence} {env : Environment}
    {name : String} (h : (o.name env).result = .ok name) :
    (nameAll (o :: rest) env).result =
        (nameAll rest (o.name env).environment).result.map (name :: ·) ∧
      (nameAll (o :: rest) env).environment =
        (nameAll rest (o.name env).environment).environment := by
  rw [nameAll, BuildM.each_cons, BuildM.bind_of_ok _ h, BuildM.bind_pure_apply]
  exact ⟨rfl, rfl⟩

/-- What every naming step keeps, the naming of several identities keeps. -/
theorem keeps_nameAll {P : Environment → Prop} {os : List Occurrence}
    (hname : ∀ o ∈ os, ∀ env, P env → P (o.name env).environment) : ∀ {env : Environment},
    P env → P (nameAll os env).environment := by
  induction os with
  | nil => exact fun h => h
  | cons o rest ih =>
      intro env h
      rw [List.forall_mem_cons] at hname
      have hfirst := hname.1 env h
      cases hresult : (o.name env).result with
      | error e =>
          rw [(nameAll_cons_of_error hresult).2]
          exact hfirst
      | ok name =>
          rw [(nameAll_cons_of_ok hresult).2]
          exact ih hname.2 hfirst

theorem environment_nameAll_of_isSome {occurrences : List Occurrence} {env : Environment}
    (h : ∀ o ∈ occurrences, (o.lookup env).isSome = true) :
    (nameAll occurrences env).environment = env := by
  refine keeps_nameAll (P := fun later => later = env) ?_ rfl
  rintro o ho _ rfl
  exact environment_name_of_isSome (h o ho)

/-- The piece of a template in the place of an identity. -/
def piece : Occurrence → Piece
  | .variableAt v => .variableName v
  | .parameterAt p => .parameterName p

/-- How a name is written in the place of an identity. -/
def write (name : String) : Occurrence → String
  | .variableAt _ => Identifier.escape name
  | .parameterAt _ => "$" ++ Identifier.escape name

/-- Running such a piece is naming the identity and writing its name. -/
theorem run_piece (o : Occurrence) :
    o.piece.run = o.name >>= fun name => pure (o.write name) := by
  cases o <;> rfl

theorem environment_run_piece (o : Occurrence) (env : Environment) :
    (o.piece.run env).environment = (o.name env).environment := by
  rw [run_piece, BuildM.bind_pure_apply]

theorem write_piece {o : Occurrence} {env : Environment} {name : String}
    (h : o.lookup env = some name) : o.piece.write env.naming = o.write name := by
  cases o with
  | variableAt v =>
      have hlookup : env.boundVariables.lookup v = some name := h
      simp [piece, Piece.write, write, Environment.naming, hlookup]
  | parameterAt p =>
      have hlookup : env.boundParameters.lookup p = some name := h
      simp [piece, Piece.write, write, Environment.naming, hlookup]

/-- A piece that is written in the place of an identity has the identity named, and its text is the
one with the name that the identity has in any later environment. -/
theorem run_piece_of_ok {o : Occurrence} {env : Environment} {s : String}
    (h : (o.piece.run env).result = .ok s) :
    (∃ names, nameAll [o] env =
      ⟨.ok names, (o.piece.run env).environment, (o.piece.run env).log⟩) ∧
    ∀ later : Environment, (o.piece.run env).environment.Extends later →
      s = o.piece.write later.naming := by
  have hrun : o.piece.run env = _ := (congrFun (run_piece o) env).trans
    (BuildM.bind_pure_apply o.name (fun name => o.write name) env)
  rw [run_piece] at h
  obtain ⟨name, hname, hs⟩ := BuildM.ok_of_bind h
  cases hs
  rw [hrun]
  refine ⟨⟨[name], ?_⟩, fun later hlater => ?_⟩
  · rw [nameAll, BuildM.each_cons]
    simp [BuildM.bind_pure_apply, hname, Except.map]
  · -- the name was given just now, and later environments keep it
    exact (write_piece (lookup_of_extends hlater (lookup_name hname))).symm

end Occurrence

/-- A case split on the pieces in which variables and parameters are one case. -/
@[elab_as_elim] theorem Piece.cases_occurrence {motive : Piece → Prop}
    (text : ∀ s, motive (.text s)) (labelSign : motive .labelSign)
    (fault : ∀ e, motive (.fault e)) (identity : ∀ o : Occurrence, motive o.piece)
    (piece : Piece) : motive piece := by
  cases piece with
  | text s => exact text s
  | labelSign => exact labelSign
  | fault e => exact fault e
  | variableName v => exact identity (.variableAt v)
  | parameterName p => exact identity (.parameterAt p)

/-- The identity that stands in the place of a piece. -/
def Piece.occurrence? : Piece → Option Occurrence
  | .variableName v => some (.variableAt v)
  | .parameterName p => some (.parameterAt p)
  | _ => none

theorem Occurrence.occurrence?_piece (o : Occurrence) : o.piece.occurrence? = some o := by
  cases o <;> rfl

namespace Template

/-! ### Running, filling and listing -/

/-- **Naming and writing at once.** -/
def run : Template → BuildM String
  | [] => pure ""
  | piece :: rest => piece.run >>= fun s => run rest >>= fun t => pure (s ++ t)

/-- **Writing with names that are known.** -/
def fill (ν : Naming) : Template → String
  | [] => ""
  | piece :: rest => piece.write ν ++ fill ν rest

/-- **The identities of a template**, from left to right. -/
def occurrences (t : Template) : List Occurrence := t.filterMap Piece.occurrence?

@[simp] theorem run_nil : run [] = pure "" := rfl

theorem run_cons (piece : Piece) (t : Template) :
    run (piece :: t) = piece.run >>= fun s => run t >>= fun u => pure (s ++ u) := rfl

/-- A run whose first piece is written goes on behind it. -/
theorem run_cons_of_ok {piece : Piece} {env : Environment} {s : String}
    (h : (piece.run env).result = .ok s) (t : Template) :
    run (piece :: t) env =
      ⟨(run t (piece.run env).environment).result.map (s ++ ·),
        (run t (piece.run env).environment).environment,
        (piece.run env).log ++ (run t (piece.run env).environment).log⟩ := by
  rw [run_cons, BuildM.bind_of_ok _ h, BuildM.bind_pure_apply]

@[simp] theorem run_append (a b : Template) :
    run (a ++ b) = run a >>= fun s => run b >>= fun t => pure (s ++ t) := by
  induction a with
  | nil => simp [-bind_pure_comp]
  | cons piece rest ih => simp [-bind_pure_comp, run_cons, ih, String.append_assoc]

@[simp] theorem run_singleton (piece : Piece) : run [piece] = piece.run := by
  simp [run_cons]

theorem run_text_cons (s : String) (t : Template) :
    run (.text s :: t) = run t >>= fun u => pure (s ++ u) := by
  simp [run_cons]

theorem run_fault_cons (e : BuildError) (t : Template) :
    run (.fault e :: t) = BuildM.fail e := by
  simp [run_cons]

@[simp] theorem fill_nil (ν : Naming) : fill ν [] = "" := rfl

@[simp] theorem fill_cons (ν : Naming) (piece : Piece) (t : Template) :
    fill ν (piece :: t) = piece.write ν ++ fill ν t := rfl

@[simp] theorem fill_append (ν : Naming) (a b : Template) :
    fill ν (a ++ b) = fill ν a ++ fill ν b := by
  induction a with
  | nil => simp
  | cons piece rest ih => simp [ih, String.append_assoc]

@[simp] theorem occurrences_nil : occurrences [] = [] := rfl

@[simp] theorem occurrences_append (a b : Template) :
    occurrences (a ++ b) = occurrences a ++ occurrences b := by
  simp [occurrences]

@[simp] theorem occurrences_text_cons (s : String) (t : Template) :
    occurrences (.text s :: t) = occurrences t := rfl

@[simp] theorem occurrences_variableName_cons (v : Variable) (t : Template) :
    occurrences (.variableName v :: t) = .variableAt v :: occurrences t := rfl

@[simp] theorem occurrences_parameterName_cons (p : Parameter) (t : Template) :
    occurrences (.parameterName p :: t) = .parameterAt p :: occurrences t := rfl

@[simp] theorem occurrences_labelSign_cons (t : Template) :
    occurrences (.labelSign :: t) = occurrences t := rfl

@[simp] theorem occurrences_fault_cons (e : BuildError) (t : Template) :
    occurrences (.fault e :: t) = occurrences t := rfl

theorem occurrences_cons (piece : Piece) (t : Template) :
    occurrences (piece :: t) = piece.occurrence?.toList ++ occurrences t := by
  cases piece <;> rfl

theorem forall_mem_occurrences_cons {P : Occurrence → Prop} {piece : Piece} {t : Template} :
    (∀ o ∈ occurrences (piece :: t), P o) ↔
      (∀ o ∈ piece.occurrence?, P o) ∧ ∀ o ∈ occurrences t, P o := by
  rw [occurrences_cons, List.forall_mem_append]
  simp only [Option.mem_toList, Option.mem_def]

theorem occurrences_flatten (ts : List Template) :
    occurrences ts.flatten = ts.flatMap occurrences := by
  induction ts with
  | nil => rfl
  | cons t rest ih => simp [ih]

/-! ### Templates with a text between them -/

/-- Templates with a piece between each two. -/
def joined (sign : Piece) : List Template → Template := List.intercalate [sign]

@[simp] theorem joined_nil (sign : Piece) : joined sign [] = [] := rfl

@[simp] theorem joined_singleton (sign : Piece) (t : Template) : joined sign [t] = t := by
  simp [joined]

theorem joined_cons_cons (sign : Piece) (t u : Template) (rest : List Template) :
    joined sign (t :: u :: rest) = t ++ sign :: joined sign (u :: rest) := by
  simp [joined, List.intercalate_cons_cons]

/-- **Running templates with a text between them** is running each, then joining the texts. -/
theorem run_joined (sep : String) (ts : List Template) :
    run (joined (.text sep) ts) =
      BuildM.each run ts >>= fun texts => pure (String.intercalate sep texts) := by
  induction ts with
  | nil => simp
  | cons t rest ih =>
      cases rest with
      | nil => simp [-bind_pure_comp]
      | cons u rest =>
          rw [joined_cons_cons, run_append, run_text_cons, ih]
          simp [-bind_pure_comp, String.intercalate_cons_cons, String.append_assoc]

theorem fill_joined (ν : Naming) (sign : Piece) (ts : List Template) :
    fill ν (joined sign ts) = String.intercalate (sign.write ν) (ts.map (fill ν)) := by
  induction ts with
  | nil => simp
  | cons t rest ih =>
      cases rest with
      | nil => simp
      | cons u rest =>
          rw [joined_cons_cons, fill_append, fill_cons, ih]
          simp [String.intercalate_cons_cons, String.append_assoc]

theorem occurrences_joined {sign : Piece} (h : sign.occurrence? = none) (ts : List Template) :
    occurrences (joined sign ts) = ts.flatMap occurrences := by
  induction ts with
  | nil => rfl
  | cons t rest ih =>
      cases rest with
      | nil => simp
      | cons u rest =>
          rw [joined_cons_cons, occurrences_append, List.flatMap_cons, ← ih]
          simp [occurrences, h]

/-- Steps that are runs of templates, apart from log records, one after the other. -/
theorem quiet_each_eq_run {α : Type} {step : α → BuildM String} {template : α → Template}
    {as : List α} (h : ∀ a ∈ as, BuildM.quiet (step a) = run (template a)) :
    BuildM.quiet (BuildM.each step as) = BuildM.each run (as.map template) := by
  rw [BuildM.quiet_each, BuildM.each_map]
  exact BuildM.each_congr h

/-- Templates with a text between them, for steps that are runs of templates. -/
theorem quiet_each_bind_joined {α : Type} {step : α → BuildM String} {template : α → Template}
    (h : ∀ a, BuildM.quiet (step a) = run (template a)) (sep : String) (as : List α) :
    (BuildM.quiet (BuildM.each step as) >>= fun texts => pure (String.intercalate sep texts)) =
      run (joined (.text sep) (as.map template)) := by
  rw [quiet_each_eq_run fun a _ => h a, run_joined]

/-! ### Running is naming, then filling -/

/-- What holds from one environment to the next after every naming step holds from the beginning
to the end of a run. -/
theorem relates_run {R : Environment → Environment → Prop} (hrefl : ∀ env, R env env)
    (htrans : ∀ env mid later, R env mid → R mid later → R env later)
    (hname : ∀ (o : Occurrence) env, R env (o.name env).environment) (t : Template) :
    ∀ env, R env (run t env).environment := by
  induction t with
  | nil => exact hrefl
  | cons piece rest ih =>
      intro env
      have hpiece : R env (piece.run env).environment := by
        cases piece using Piece.cases_occurrence with
        | text s => exact hrefl env
        | labelSign => exact hrefl env
        | fault e => exact hrefl env
        | identity o =>
            rw [Occurrence.environment_run_piece]
            exact hname o env
      rw [run_cons]
      -- a run that fails at the first piece stops there
      cases hresult : (piece.run env).result with
      | error e =>
          rw [BuildM.bind_of_error _ hresult]
          exact hpiece
      | ok s =>
          rw [BuildM.bind_of_ok _ hresult, BuildM.bind_pure_apply]
          exact htrans _ _ _ hpiece (ih _)

/-- **A run from the image of an environment.**  If naming from the image of an environment fails with
the same errors and leads to the image of where it leads otherwise, then so does a run. -/
theorem run_image (image : Environment → Environment) {P : Environment → Prop}
    {Q : Occurrence → Prop} (hkeeps : ∀ (o : Occurrence) env, P env → P (o.name env).environment)
    (hname : ∀ o, Q o → ∀ env, P env →
      (∀ e, (o.name (image env)).result = .error e ↔ (o.name env).result = .error e) ∧
        (o.name (image env)).environment = image (o.name env).environment) {t : Template} :
    ∀ {env : Environment}, P env → (∀ o ∈ t.occurrences, Q o) →
      (∀ e, (run t (image env)).result = .error e ↔ (run t env).result = .error e) ∧
        (run t (image env)).environment = image (run t env).environment := by
  induction t with
  | nil => intro env _ _; exact ⟨fun _ => Iff.rfl, rfl⟩
  | cons piece rest ih =>
      intro env h ht
      obtain ⟨hpiece, hrest⟩ := forall_mem_occurrences_cons.1 ht
      -- the first piece fails alike and leads to the image
      obtain ⟨herror, henv, hlater⟩ :
          (∀ e, (piece.run (image env)).result = .error e ↔ (piece.run env).result = .error e) ∧
            (piece.run (image env)).environment = image (piece.run env).environment ∧
              P (piece.run env).environment := by
        cases piece using Piece.cases_occurrence with
        | text s => exact ⟨fun _ => Iff.rfl, rfl, h⟩
        | labelSign => exact ⟨fun _ => ⟨nofun, nofun⟩, rfl, h⟩
        | fault e => exact ⟨fun _ => Iff.rfl, rfl, h⟩
        | identity o =>
            obtain ⟨hresult, henv⟩ := hname o (hpiece o o.occurrence?_piece) env h
            rw [Occurrence.run_piece]
            simp only [BuildM.bind_pure_apply, map_eq_error_iff]
            exact ⟨hresult, henv, hkeeps o env h⟩
      rw [run_cons]
      cases hrun : (piece.run env).result with
      | error e =>
          rw [BuildM.bind_of_error _ hrun, BuildM.bind_of_error _ ((herror e).2 hrun)]
          exact ⟨fun _ => Iff.rfl, henv⟩
      | ok first =>
          cases hrun' : (piece.run (image env)).result with
          | error e =>
              rw [herror, hrun] at hrun'
              cases hrun'
          | ok first' =>
              rw [BuildM.bind_of_ok _ hrun, BuildM.bind_of_ok _ hrun', henv,
                BuildM.bind_pure_apply, BuildM.bind_pure_apply]
              simp only [map_eq_error_iff]
              exact ih hlater hrest

/-- A run keeps all names. -/
theorem extends_run (t : Template) (env : Environment) : env.Extends (run t env).environment :=
  relates_run Environment.Extends.refl (fun _ _ _ => Environment.Extends.trans)
    Occurrence.extends_name t env

end Template

/-- A piece that is written has its identity named, and its text is the one with the name that the
identity has in any later environment. -/
theorem Piece.run_of_ok {piece : Piece} {env : Environment} {s : String}
    (h : (piece.run env).result = .ok s) :
    (∃ names, Occurrence.nameAll piece.occurrence?.toList env =
      ⟨.ok names, (piece.run env).environment, (piece.run env).log⟩) ∧
    ∀ later : Environment, (piece.run env).environment.Extends later →
      s = piece.write later.naming := by
  cases piece using Piece.cases_occurrence with
  | text t =>
      cases h
      exact ⟨⟨[], rfl⟩, fun _ _ => rfl⟩
  | labelSign =>
      cases h
      refine ⟨⟨[], rfl⟩, fun later hlater => ?_⟩
      change env.labelOperator.separator = later.labelOperator.separator
      rw [hlater.labelOperator]
      rfl
  | fault e => cases h
  | identity o =>
      rw [Occurrence.occurrence?_piece]
      exact Occurrence.run_piece_of_ok h

namespace Template

/-- **Running a template is naming its identities in order, then filling it** with the names that
they have in the end. -/
theorem run_of_ok {t : Template} : ∀ {env : Environment} {s : String},
    (run t env).result = .ok s →
    (∃ names, Occurrence.nameAll t.occurrences env =
      ⟨.ok names, (run t env).environment, (run t env).log⟩) ∧
    s = fill (run t env).environment.naming t := by
  induction t with
  | nil =>
      intro env s h
      cases h
      exact ⟨⟨[], rfl⟩, rfl⟩
  | cons piece rest ih =>
      intro env s h
      obtain ⟨first, hfirst, htail⟩ := BuildM.ok_of_bind (x := piece.run) h
      obtain ⟨last, hlast, hs⟩ := BuildM.ok_of_bind (x := run rest) htail
      cases hs
      obtain ⟨⟨names, hnames⟩, hwritten⟩ := Piece.run_of_ok hfirst
      obtain ⟨⟨names', hnames'⟩, hfilled⟩ := ih hlast
      have hrun : run (piece :: rest) env = ⟨.ok (first ++ last),
          (run rest (piece.run env).environment).environment,
          (piece.run env).log ++ (run rest (piece.run env).environment).log⟩ := by
        rw [run_cons_of_ok hfirst, hlast]
        rfl
      have hlist : occurrences (piece :: rest) =
          piece.occurrence?.toList ++ occurrences rest := by
        cases piece <;> rfl
      rw [hrun, hlist]
      refine ⟨⟨names ++ names', ?_⟩, ?_⟩
      · simp only [Occurrence.nameAll] at hnames hnames' ⊢
        rw [BuildM.each_append, BuildM.bind_of_ok _ (by rw [hnames]), BuildM.bind_pure_apply,
          hnames, hnames']
        rfl
      · -- running the rest keeps the name that was written first
        rw [fill_cons, ← hfilled, ← hwritten _ (extends_run rest _)]

/-- If all identities have names already, these are the names that are written. -/
theorem eq_fill_of_named {t : Template} {env : Environment} {s : String}
    (h : (run t env).result = .ok s) (hnamed : ∀ o ∈ t.occurrences, (o.lookup env).isSome = true) :
    s = fill env.naming t := by
  obtain ⟨⟨names, hnames⟩, hfill⟩ := run_of_ok h
  have henv := Occurrence.environment_nameAll_of_isSome hnamed
  rw [hnames] at henv
  rw [hfill, henv]

/-- A template that is written has no place where writing fails. -/
theorem fault_not_mem_of_ok {t : Template} {env : Environment} {s : String}
    (h : (run t env).result = .ok s) (e : BuildError) : .fault e ∉ t := by
  induction t generalizing env s with
  | nil => exact List.not_mem_nil
  | cons piece rest ih =>
      obtain ⟨first, hfirst, htail⟩ := BuildM.ok_of_bind (x := piece.run) h
      obtain ⟨last, hlast, -⟩ := BuildM.ok_of_bind (x := run rest) htail
      rw [List.mem_cons, not_or]
      refine ⟨?_, ih hlast⟩
      rintro rfl
      cases hfirst

end Template

end CypherQuery
