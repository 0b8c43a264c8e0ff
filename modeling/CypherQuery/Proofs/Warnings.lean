/-
**Nothing is left out of a pattern without a warning.**

An element that shows a variable again is written bare.  If it has properties, or labels or a type
that are not switched off, these are left out, and a warning says so, under the name of the variable
as it is written.  No other warnings come up when a pattern is written.  So if there is none, all
properties stand in the text, and all labels and types that are not switched off.

What an element is written with and what it is warned about are decided in two places, and once more
for nodes and for relationships.  Here both sorts of elements are written by one renderer, and the
warnings are those of one list.

Main definitions:

* `CypherQuery.BuildM.warnings` — the warnings of a step;
* `CypherQuery.ChainElement.hasAnnotations` — whether a bare element leaves something out;
* `CypherQuery.ChainElement.renderAll` — a pattern as a chain of elements of one kind;
* `CypherQuery.Pattern.dropsAt` — **whether something is left out at a place**.

Main results:

* `CypherQuery.Expression.quiet_render_self` — expressions give no warnings;
* `CypherQuery.ChainElement.warnings_renderAll` — the warnings of a chain, element by element;
* `CypherQuery.Pattern.isWhole_of_not_dropsAt` — an element of which nothing is left out;
* `CypherQuery.Pattern.warnings_of_render` — **the warnings of a pattern**.
-/

import CypherQuery.Proofs.Annotation

set_option autoImplicit false

namespace CypherQuery

/-! ### The warnings of steps -/

namespace BuildM

variable {α β : Type}

/-- **The warnings of a step.** -/
def warnings (x : BuildM α) (env : Environment) : List LogRecord :=
  LogRecord.filter .warn (x env).log

theorem warnings_bind_of_ok {x : BuildM α} {env : Environment} {a : α} (f : α → BuildM β)
    (h : (x env).result = .ok a) :
    (x >>= f).warnings env = x.warnings env ++ (f a).warnings (x env).environment := by
  rw [warnings, bind_of_ok f h]
  exact List.filter_append _ _

/-- A step that reports nothing but names handed out gives no warnings. -/
theorem warnings_of_quiet {x : BuildM α} (h : quiet x = x) (env : Environment) :
    x.warnings env = [] := by
  rw [← h, warnings, quiet, LogRecord.filter, List.filter_filter, List.filter_eq_nil_iff]
  intro r _
  generalize r.level = level
  cases level <;> decide

end BuildM

/-! ### Steps that give no warnings -/

/-- **Writing an expression** reports nothing but names handed out. -/
@[simp] theorem Expression.quiet_render_self (e : Expression) :
    BuildM.quiet e.render = e.render := by
  have hall : ∀ es : List Expression, (∀ e ∈ es, BuildM.quiet e.render = e.render) →
      BuildM.quiet (renderAll es) = renderAll es := by
    intro es h
    rw [renderAll_eq_each, BuildM.quiet_each]
    exact BuildM.each_congr h
  induction e using Expression.induction with
  | literal l => cases h : l.write <;> simp [render, Literal.render, h]
  | reference v => simp [render]
  | placeholder p => simp [render]
  | property base key ih => simp [-bind_pure_comp, render, ih]
  | application op operands ih =>
      rw [render]
      cases op.fault? operands.length with
      | some cause => rfl
      | none => simp [-bind_pure_comp, hall operands ih]
  | call function arguments ih => simp [-bind_pure_comp, render, hall arguments ih]
  | list items ih => simp [-bind_pure_comp, render, hall items ih]
  | map entries ih =>
      have hentries : BuildM.quiet (renderEntries entries) = renderEntries entries := by
        rw [renderEntries_eq_each, BuildM.quiet_each]
        refine BuildM.each_congr fun entry hentry => ?_
        simp [-bind_pure_comp, renderEntry, ih entry hentry]
      simp [-bind_pure_comp, render, hentries]
  | identityOf v => simp [-bind_pure_comp, render]
  | labelsOf v => simp [-bind_pure_comp, render]
  | raw text => simp [render]

theorem quiet_shownName_self (v : Variable) (shown : Bool) :
    BuildM.quiet (shownName v shown) = shownName v shown := by
  cases shown <;> simp [shownName]

theorem quiet_renderProperties_self (before : String) (properties : List (String × Expression)) :
    BuildM.quiet (renderProperties before properties) = renderProperties before properties := by
  have hmap : BuildM.quiet (Expression.renderMap properties) = Expression.renderMap properties :=
    Expression.quiet_render_self (.map properties)
  unfold renderProperties
  split
  · rfl
  · rw [BuildM.quiet_bind, hmap]
    rfl

theorem NodePattern.quiet_renderAnnotated (node : NodePattern) (name : String) :
    BuildM.quiet (node.renderAnnotated name) = node.renderAnnotated name := by
  rw [renderAnnotated, BuildM.quiet_bind, BuildM.quiet_ask]
  exact congrArg _ (funext fun op => quiet_renderProperties_self _ _)

/-! ### Elements -/

namespace ChainElement

/-- Whether an element is a node or a relationship. -/
def sort : ChainElement → ElementSort
  | .node _ => .node
  | .relationship _ => .relationship

/-- **Whether a bare element leaves something out**: whether it has properties, or labels or a type
that are not switched off. -/
def hasAnnotations (x : ChainElement) : Bool :=
  !x.element.properties.isEmpty ||
    match x with
    | .node n => n.showsLabels && !n.labels.isEmpty
    | .relationship r => r.showsType && r.relationType.isSome

/-- An element that leaves nothing out has nothing to be annotated with. -/
theorem eq_none_of_not_hasAnnotations {x : ChainElement} (op : LabelOperator)
    (h : x.hasAnnotations = false) :
    x.element.properties.isEmpty = true ∧ x.annotation? op = none := by
  rw [hasAnnotations.eq_def, Bool.or_eq_false_iff, Bool.not_eq_false'] at h
  refine ⟨h.1, ?_⟩
  cases x with
  | node n =>
      rw [annotation?, if_neg]
      rintro ⟨hshows, hlabels⟩
      simp_all
  | relationship r =>
      have htype : r.showsType = false ∨ r.relationType.isSome = false :=
        Bool.and_eq_false_iff.1 h.2
      rw [annotation?]
      rcases htype with hshows | hnone
      · simp [hshows]
      · rw [Option.isSome_eq_false_iff, Option.isNone_iff_eq_none] at hnone
        simp [hnone]

/-- Writing an element, given whether it is annotated. -/
def render : ChainElement → Bool → BuildM String
  | .node n, annotated => n.render annotated
  | .relationship r, annotated => r.render annotated

/-- **Writing a chain of elements**, given the variables shown before it. -/
def renderAll (earlier : List Variable) : List ChainElement → BuildM String
  | [] => pure ""
  | x :: rest => do
      let text ← x.render (isAnnotated earlier x.element.identity x.element.shown)
      let texts ← renderAll (shownBefore earlier x.element.identity x.element.shown) rest
      return text ++ texts

end ChainElement

/-- The hops of a pattern are written as a chain of elements. -/
theorem Hop.renderAll_eq (hops : List Hop) : ∀ earlier : List Variable,
    Hop.renderAll earlier hops = ChainElement.renderAll earlier (Hop.chain hops) := by
  induction hops with
  | nil => intro earlier; rfl
  | cons hop rest ih =>
      intro earlier
      have hchain : Hop.chain (hop :: rest) =
          .relationship hop.relationship :: .node hop.node :: Hop.chain rest := rfl
      rw [hchain, ChainElement.renderAll, ChainElement.renderAll, renderAll, ih]
      simp only [bind_assoc, pure_bind, String.append_assoc]
      rfl

/-- **A pattern is written as a chain of elements.** -/
theorem Pattern.render_eq_renderAll (p : Pattern) :
    p.render = ChainElement.renderAll [] p.chain := by
  rw [render, chain, ChainElement.renderAll, Hop.renderAll_eq]
  rfl

/-! ### The warnings of an element -/

/-- **Writing an element**: the name of its variable, the text within its brackets, and the brackets
around both. -/
def writeElement (sort : ElementSort) (x : PatternElement) (inner : String → BuildM String)
    (close : String → String) : BuildM String := do
  let name ← shownName x.identity x.shown
  let text ← inner name
  BuildM.report (.elementWritten sort text)
  return close text

/-- An element is named, and what is written after that gives all its warnings. -/
theorem warnings_writeElement {sort : ElementSort} {x : PatternElement}
    {inner : String → BuildM String} {close : String → String} {env : Environment} {text : String}
    (h : (writeElement sort x inner close env).result = .ok text) :
    ∃ name, (shownName x.identity x.shown env).result = .ok name ∧
      (writeElement sort x inner close).warnings env =
        (inner name).warnings (shownName x.identity x.shown env).environment ∧
      (writeElement sort x inner close env).environment =
        (inner name (shownName x.identity x.shown env).environment).environment := by
  obtain ⟨name, hname, hrest⟩ := BuildM.ok_of_bind h
  obtain ⟨written, hwritten, -⟩ := BuildM.ok_of_bind hrest
  refine ⟨name, hname, ?_, ?_⟩
  · rw [writeElement, BuildM.warnings_bind_of_ok _ hname,
      BuildM.warnings_of_quiet (quiet_shownName_self _ _), List.nil_append,
      BuildM.warnings_bind_of_ok _ hwritten]
    exact List.append_nil _
  · rw [writeElement, BuildM.bind_of_ok _ hname, BuildM.bind_of_ok _ hwritten]
    rfl

/-- A name that is shown is that of the variable, then and later. -/
theorem eq_escape_of_shownName {v : Variable} {env later : Environment} {s : String}
    (h : (shownName v true env).result = .ok s)
    (hlater : (shownName v true env).environment.Extends later) :
    s = Identifier.escape (later.naming.ofVariable v) := by
  obtain ⟨name, hname, hpure⟩ := BuildM.ok_of_bind h
  cases hpure
  have hstep : (shownName v true env).environment = (Environment.nameOf v env).environment := by
    change (v.render env).environment = _
    rw [Variable.render, BuildM.bind_of_ok _ hname]
    rfl
  rw [hstep] at hlater
  have hlookup := hlater.variableNames v name (Environment.lookup_nameOf hname)
  simp only [Environment.naming, hlookup, Option.getD_some]

/-- A bare element leaves the environment as it is, and reports what it leaves out. -/
theorem warnDropped_bind_pure (sort : ElementSort) (name text : String) (dropped : Bool)
    (env : Environment) :
    (warnDropped sort name dropped >>= fun _ => pure text) env =
      ⟨.ok text, env, if dropped then [.annotationsDropped sort name] else []⟩ := by
  cases dropped <;> rfl

namespace ChainElement

/-- Nodes and relationships are written alike: with annotations, which gives no warnings, or bare,
with a warning if that leaves something out. -/
theorem exists_render_eq (x : ChainElement) (annotated : Bool) :
    ∃ (whole : String → BuildM String) (bare close : String → String),
      (∀ name, BuildM.quiet (whole name) = whole name) ∧
      x.render annotated = writeElement x.sort x.element (fun name =>
        if annotated then whole name
        else warnDropped x.sort name x.hasAnnotations >>= fun _ => pure (bare name)) close := by
  cases x with
  | node n =>
      have hdropped : (ChainElement.node n).hasAnnotations = n.hasAnnotations := by
        simp only [NodePattern.hasAnnotations, NodePattern.shownLabels, hasAnnotations, element,
          NodePattern.element]
        cases n.showsLabels <;> simp [Bool.or_comm]
      refine ⟨n.renderAnnotated, id, fun text => "(" ++ text ++ ")", n.quiet_renderAnnotated, ?_⟩
      rw [hdropped]
      cases annotated <;> rfl
  | relationship r =>
      have hdropped : (ChainElement.relationship r).hasAnnotations = r.hasAnnotations := by
        simp only [RelationshipPattern.hasAnnotations, RelationshipPattern.shownType,
          hasAnnotations, element, RelationshipPattern.element]
        cases r.showsType <;> simp [Bool.or_comm]
      refine ⟨r.renderAnnotated, (· ++ r.lengthText), r.direction.arrow,
        fun name => quiet_renderProperties_self _ _, ?_⟩
      rw [hdropped]
      cases annotated <;> rfl

/-- The warning about an element that is written bare. -/
def warning (ν : Naming) (x : ChainElement) : LogRecord :=
  .annotationsDropped x.sort (Identifier.escape (ν.ofVariable x.element.identity))

/-- **The warnings of an element**: one if it is written bare and that leaves something out.  The
names are those of the time, and later ones. -/
theorem warnings_render {x : ChainElement} {annotated : Bool}
    (hshown : annotated = false → x.element.shown = true) {env later : Environment} {text : String}
    (h : (x.render annotated env).result = .ok text)
    (hlater : (x.render annotated env).environment.Extends later) :
    (x.render annotated).warnings env =
      if !annotated && x.hasAnnotations then [x.warning later.naming] else [] := by
  obtain ⟨whole, bare, close, hwhole, hrender⟩ := x.exists_render_eq annotated
  rw [hrender] at h hlater ⊢
  obtain ⟨name, hname, hwarnings, henv⟩ := warnings_writeElement h
  rw [henv] at hlater
  rw [hwarnings]
  cases annotated with
  | true => exact BuildM.warnings_of_quiet (hwhole name) _
  | false =>
      rw [hshown rfl] at hname hlater ⊢
      rw [BuildM.warnings]
      simp only [Bool.false_eq_true, if_false, warnDropped_bind_pure] at hlater ⊢
      rw [eq_escape_of_shownName hname hlater]
      cases x.hasAnnotations <;> rfl

/-- Writing an element gives names to more identities. -/
theorem extends_render (x : ChainElement) (annotated : Bool) (env : Environment) :
    env.Extends (x.render annotated env).environment := by
  cases x with
  | node n =>
      rw [render, ← BuildM.environment_quiet, n.quiet_render]
      exact Template.extends_run _ env
  | relationship r =>
      rw [render, ← BuildM.environment_quiet, r.quiet_render]
      exact Template.extends_run _ env

/-! ### The warnings of a chain -/

/-- Writing elements gives names to more identities. -/
theorem extends_renderAll (chain : List ChainElement) : ∀ (earlier : List Variable)
    (env : Environment), env.Extends (renderAll earlier chain env).environment := by
  induction chain with
  | nil => exact fun _ => Environment.Extends.refl
  | cons x rest ih =>
      intro earlier env
      have hfirst := x.extends_render (isAnnotated earlier x.element.identity x.element.shown) env
      rw [renderAll]
      cases hresult : (x.render (isAnnotated earlier x.element.identity x.element.shown)
          env).result with
      | error e => rwa [BuildM.bind_of_error _ hresult]
      | ok text =>
          rw [BuildM.bind_of_ok _ hresult, BuildM.bind_pure_apply]
          exact hfirst.trans (ih _ _)

/-- The warnings about elements, given those before them. -/
def droppedAll (ν : Naming) (earlier : List PatternElement) :
    List ChainElement → List LogRecord
  | [] => []
  | x :: rest =>
      (if x.element.repeats earlier && x.hasAnnotations then [x.warning ν] else []) ++
        droppedAll ν (earlier ++ [x.element]) rest

/-- **The warnings of a chain** are those about its elements, in order. -/
theorem warnings_renderAll (chain : List ChainElement) :
    ∀ {shownVariables : List Variable} {earlier : List PatternElement} {env : Environment}
      {text : String},
      (∀ v, shownVariables.contains v = PatternElement.showsAny earlier v) →
      (renderAll shownVariables chain env).result = .ok text →
      (renderAll shownVariables chain).warnings env =
        droppedAll (renderAll shownVariables chain env).environment.naming earlier chain := by
  induction chain with
  | nil => intro _ _ _ _ _ _; rfl
  | cons x rest ih =>
      intro shownVariables earlier env text h htext
      have hannotated := isAnnotated_eq_not_repeats h x.element
      rw [renderAll, hannotated] at htext ⊢
      obtain ⟨first, hfirst, hrest⟩ := BuildM.ok_of_bind htext
      obtain ⟨others, hothers, -⟩ := BuildM.ok_of_bind hrest
      have hlater := extends_renderAll rest
        (shownBefore shownVariables x.element.identity x.element.shown)
        (x.render (!x.element.repeats earlier) env).environment
      have hshown : (!x.element.repeats earlier) = false → x.element.shown = true := by
        rw [Bool.not_eq_false', PatternElement.repeats, Bool.and_eq_true]
        exact And.left
      rw [BuildM.warnings_bind_of_ok _ hfirst, BuildM.warnings_bind_of_ok _ hothers,
        BuildM.bind_of_ok _ hfirst, BuildM.bind_pure_apply, warnings_render hshown hfirst hlater,
        ih (contains_shownBefore h x.element) hothers, Bool.not_not, droppedAll]
      exact congrArg _ (List.append_nil _)

/-- The warnings about elements, place by place. -/
theorem droppedAll_eq (ν : Naming) (chain : List ChainElement) : ∀ before : List ChainElement,
    droppedAll ν (before.map element) chain =
      ((chain.zipIdx before.length).filter fun entry =>
        entry.1.element.repeats (((before ++ chain).take entry.2).map element) &&
          entry.1.hasAnnotations).map fun entry => entry.1.warning ν := by
  induction chain with
  | nil => intro before; rfl
  | cons x rest ih =>
      intro before
      have hrest := ih (before ++ [x])
      rw [List.map_append, List.length_append, List.append_assoc] at hrest
      rw [droppedAll, List.zipIdx_cons, List.filter_cons, List.take_left]
      cases x.element.repeats (before.map element) && x.hasAnnotations with
      | true => exact congrArg (x.warning ν :: ·) hrest
      | false => exact hrest

end ChainElement

/-! ### The warnings of a pattern -/

namespace Pattern

/-- **Whether something is left out at a place**: whether the element there shows a variable that an
element before it shows, and has properties, or labels or a type that are not switched off. -/
def dropsAt (p : Pattern) (i : Nat) (x : ChainElement) : Bool :=
  x.element.repeats ((p.chain.take i).map ChainElement.element) && x.hasAnnotations

/-- **An element of which nothing is left out** is written with all its properties, and with its
labels or its type unless they are switched off. -/
theorem isWhole_of_not_dropsAt {p : Pattern} {i : Nat} {x : ChainElement} (ν : Naming)
    (h : p.dropsAt i x = false) {w : WrittenElement}
    (hw : w = x.written ν (!x.element.repeats ((p.chain.take i).map ChainElement.element))) :
    w.annotation = x.annotation? ν.labelOperator ∧
      w.properties = if x.element.properties.isEmpty then none else some (x.mapText ν) := by
  subst hw
  rw [dropsAt, Bool.and_eq_false_iff] at h
  cases hrepeats : x.element.repeats ((p.chain.take i).map ChainElement.element) with
  | false =>
      refine ⟨rfl, ?_⟩
      cases hproperties : x.element.properties.isEmpty <;>
        simp [ChainElement.written, hproperties]
  | true =>
      -- the element is bare, but it has nothing to leave out
      obtain ⟨hproperties, hannotation⟩ := x.eq_none_of_not_hasAnnotations ν.labelOperator
        (h.resolve_left (Bool.not_eq_false _ ▸ hrepeats))
      simp [ChainElement.written, hproperties, hannotation]

/-- **The warnings of a pattern.**  There is one for each element that shows a variable that was
shown before and that has properties, or labels or a type that are not switched off, in the order of
the elements and with the written name of the variable; there are no others.  If there is none, all
elements are written with all that they have. -/
theorem warnings_of_render {p : Pattern} {env : Environment} {text : String}
    (h : (p.render env).result = .ok text) :
    (p.render.warnings env =
        (p.chain.zipIdx.filter fun entry => p.dropsAt entry.2 entry.1).map fun entry =>
          .annotationsDropped entry.1.sort
            (Identifier.escape ((p.render env).environment.naming.ofVariable
              entry.1.element.identity))) ∧
      (∀ x ∈ p.chain, x.element.shown = true →
        (p.render env).environment.boundVariables.lookup x.element.identity =
          some ((p.render env).environment.naming.ofVariable x.element.identity)) ∧
      (p.render.warnings env = [] →
        ∃ written : List WrittenElement, text = String.join (written.map WrittenElement.text) ∧
          written.length = p.chain.length ∧
          ∀ (i : Nat) (x : ChainElement) (w : WrittenElement),
            p.chain[i]? = some x → written[i]? = some w →
              w.annotation = x.annotation? (p.render env).environment.labelOperator ∧
              w.properties = if x.element.properties.isEmpty then none
                else some (x.mapText (p.render env).environment.naming)) := by
  have hwarnings : p.render.warnings env =
      (p.chain.zipIdx.filter fun entry => p.dropsAt entry.2 entry.1).map fun entry =>
        entry.1.warning (p.render env).environment.naming := by
    rw [render_eq_renderAll] at h ⊢
    have hnone : ∀ v, ([] : List Variable).contains v = PatternElement.showsAny [] v :=
      fun _ => rfl
    rw [ChainElement.warnings_renderAll p.chain hnone h]
    exact ChainElement.droppedAll_eq _ p.chain []
  refine ⟨hwarnings, ?_, ?_⟩
  · intro x hx hshown
    obtain ⟨name, hname⟩ := exists_lookup_of_render h hx hshown
    simp only [Environment.naming, hname, Option.getD_some]
  · intro hnone
    rw [hwarnings, List.map_eq_nil_iff, List.filter_eq_nil_iff] at hnone
    refine ⟨ChainElement.writtenAll (p.render env).environment.naming [] p.chain, ?_,
      ChainElement.length_writtenAll _ _ _, ?_⟩
    · rw [← fill_template_eq]
      exact Construct.eq_fill_of_render (c := .ofPattern p) h
    · intro i x w hx hw
      rw [ChainElement.getElem?_writtenAll, hx] at hw
      cases hw
      have hdrops := hnone (x, i) (List.mem_zipIdx_iff_getElem?.2 hx)
      exact isWhole_of_not_dropsAt _ (Bool.eq_false_iff.2 hdrops) rfl

/-- A pattern that comes back to its first node, where nothing more is said of it. -/
def plainLoop : Pattern :=
  let node : Variable := ⟨0, .node, none⟩
  ⟨⟨node, ["Person"], [("id", .placeholder ⟨0, none, .integer 7⟩)], true, true⟩,
    [⟨.ofVariable ⟨1, .relationship, none⟩, ⟨node, ["Hidden"], [], true, false⟩⟩]⟩

/-- In a pattern that comes back to a relationship and to a node, three elements are written bare
that leave something out; in another one nothing is left out. -/
theorem warnings_returningPattern :
    (returningPattern.render (.start "" .colon)).result = .ok ("(this0 {of: this1})" ++
        "-[this2:KNOWS*1..]->(this1:Person {id: $param0})" ++
        "<-[this2*2]-(:Person)" ++ "-[this1]-(this1)") ∧
      returningPattern.render.warnings (.start "" .colon) =
        [.annotationsDropped .relationship "this2", .annotationsDropped .relationship "this1",
          .annotationsDropped .node "this1"] ∧
      (plainLoop.render (.start "" .colon)).result =
        .ok "(this0:Person {id: $param0})-[this1]->(this0)" ∧
      plainLoop.render.warnings (.start "" .colon) = [] ∧
      ∃ written : List WrittenElement, "(this0:Person {id: $param0})-[this1]->(this0)" =
          String.join (written.map WrittenElement.text) ∧
        written.length = plainLoop.chain.length := by
  have hreturning : (returningPattern.render (.start "" .colon)).result =
      .ok ("(this0 {of: this1})-[this2:KNOWS*1..]->(this1:Person {id: $param0})" ++
        "<-[this2*2]-(:Person)-[this1]-(this1)") := rfl
  have hplain : (plainLoop.render (.start "" .colon)).result =
      .ok "(this0:Person {id: $param0})-[this1]->(this0)" := rfl
  obtain ⟨written, htext, hlength, -⟩ := (warnings_of_render hplain).2.2 rfl
  exact ⟨hreturning, (warnings_of_render hreturning).1, hplain, rfl, written, htext, hlength⟩

end Pattern

end CypherQuery
