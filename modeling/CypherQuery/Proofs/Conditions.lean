/-
**The conditions of a clause.**

A clause that matches patterns can be given one condition after another, and all of them have to
hold: they are joined from the left, in the order in which they were given, and so are their texts.
A clause that hands columns on forgets the condition it had when it is given another one; it keeps
all conditions only if there is a single one.

Main definitions:

* `CypherQuery.conjunction`, `CypherQuery.conjunctionText` — several conditions joined from the
  left, and their texts.

Main results:

* `CypherQuery.MatchClause.foldl_withCondition`, `CypherQuery.WithClause.foldl_withCondition` — the
  condition of a clause after several were given;
* `CypherQuery.renderPart_conjunction` — the text of a conjunction;
* `CypherQuery.foldl_withCondition_eq_conjunction` — **which clauses keep all conditions**.
-/

import CypherQuery.Clause.Rendering
import CypherQuery.Proofs.Template.Expression

set_option autoImplicit false

namespace CypherQuery

/-! ### Several conditions -/

/-- All of several conditions, joined from the left; nothing if there are none. -/
def conjunction : List Expression → Option Expression
  | [] => none
  | first :: rest => some (rest.foldl Expression.and first)

theorem conjunction_toList (condition : Option Expression) :
    conjunction condition.toList = condition := by
  cases condition <;> rfl

/-- A condition more is joined to those before it. -/
theorem conjunction_concat {conditions : List Expression} {joined : Expression}
    (h : conjunction conditions = some joined) (condition : Expression) :
    conjunction (conditions ++ [condition]) = some (joined.and condition) := by
  cases conditions with
  | nil => cases h
  | cons first rest =>
      cases h
      rw [List.cons_append, conjunction, List.foldl_append]
      rfl

/-- A conjunction is not one of the conditions that are joined in it. -/
theorem Expression.and_ne_right (a b : Expression) : a.and b ≠ b := by
  intro h
  have hsize := congrArg sizeOf h
  simp only [Expression.and, application.sizeOf_spec, List.cons.sizeOf_spec] at hsize
  omega

/-- **All conditions together are the last one** only if there is a single condition. -/
theorem conjunction_eq_getLast?_iff {conditions : List Expression} (h : conditions ≠ []) :
    conjunction conditions = conditions.getLast? ↔ conditions.length = 1 := by
  obtain ⟨earlier, last, rfl⟩ := (List.eq_nil_or_concat' conditions).resolve_left h
  rw [List.getLast?_concat, List.length_append]
  cases hearlier : conjunction earlier with
  | none =>
      cases earlier with
      | nil => exact iff_of_true rfl rfl
      | cons first rest => cases hearlier
  | some joined =>
      rw [conjunction_concat hearlier]
      constructor
      · intro heq
        exact absurd (Option.some.inj heq) (joined.and_ne_right last)
      · intro hlength
        obtain rfl : earlier = [] := List.eq_nil_of_length_eq_zero (by simpa using hlength)
        cases hearlier

/-! ### Clauses that are given conditions -/

/-- **A clause that matches patterns keeps all conditions**, joined in the order in which they were
given. -/
theorem MatchClause.foldl_withCondition (conditions : List Expression) : ∀ c : MatchClause,
    conditions.foldl withCondition c =
      { c with condition := conjunction (c.condition.toList ++ conditions) } := by
  induction conditions with
  | nil =>
      intro c
      rw [List.append_nil, conjunction_toList]
      rfl
  | cons condition rest ih =>
      intro c
      rw [List.foldl_cons, ih]
      cases hcondition : c.condition with
      | none => simp [withCondition, hcondition]
      | some earlier => simp [withCondition, hcondition, conjunction]

/-- **A clause that hands columns on keeps the condition given last.** -/
theorem WithClause.foldl_withCondition (conditions : List Expression) : ∀ c : WithClause,
    conditions.foldl withCondition c =
      { c with condition := (c.condition.toList ++ conditions).getLast? } := by
  induction conditions with
  | nil =>
      intro c
      obtain ⟨distinct, columns, condition⟩ := c
      cases condition <;> rfl
  | cons condition rest ih =>
      intro c
      rw [List.foldl_cons, ih, List.getLast?_append_of_ne_nil _ (List.cons_ne_nil condition rest)]
      rfl

/-! ### The text of a conjunction -/

/-- The text of two conditions that are joined. -/
def andText (joined text : String) : String := "(" ++ joined ++ " AND " ++ text ++ ")"

/-- **The texts of several conditions, joined from the left.** -/
def conjunctionText : List String → String
  | [] => ""
  | first :: rest => rest.foldl andText first

namespace Expression

theorem render_and (a b : Expression) :
    (a.and b).render = a.render >>= fun s => b.render >>= fun t => pure (andText s t) := by
  simp [-bind_pure_comp, Expression.and, render, renderAll, Operator.fault?, Operator.family,
    applicationText, Operator.compose, andText, String.intercalate_cons_cons, Operator.keyword,
    String.append_assoc]

/-- Conditions joined to one before them are written one after the other. -/
theorem render_foldl_and (conditions : List Expression) : ∀ joined : Expression,
    (conditions.foldl Expression.and joined).render =
      joined.render >>= fun s => BuildM.each render conditions >>= fun texts =>
        pure (texts.foldl andText s) := by
  induction conditions with
  | nil => intro joined; simp
  | cons condition rest ih =>
      intro joined
      rw [List.foldl_cons, ih, render_and]
      simp [-bind_pure_comp]

end Expression

/-- **The text of a conjunction**: the conditions are written in order, each once, and their texts
are joined from the left. -/
theorem renderPart_conjunction (keyword : String) {conditions : List Expression}
    (h : conditions ≠ []) :
    renderPart keyword (conjunction conditions) =
      BuildM.each Expression.render conditions >>= fun texts =>
        pure ("\n" ++ keyword ++ " " ++ conjunctionText texts) := by
  cases conditions with
  | nil => exact absurd rfl h
  | cons first rest =>
      simp [-bind_pure_comp, conjunction, renderPart, Expression.render_foldl_and, conjunctionText]

/-- The text of a part behind other text. -/
theorem ok_of_bind_renderPart {written : BuildM String} {keyword : String} {e : Option Expression}
    {env : Environment} {text : String}
    (h : ((written >>= fun s => renderPart keyword e >>= fun t => pure (s ++ t)) env).result =
      .ok text) :
    ∃ s t, (written env).result = .ok s ∧
      (renderPart keyword e (written env).environment).result = .ok t ∧ text = s ++ t := by
  obtain ⟨s, hs, hrest⟩ := BuildM.ok_of_bind h
  obtain ⟨t, ht, htext⟩ := BuildM.ok_of_bind hrest
  cases htext
  exact ⟨s, t, hs, ht, rfl⟩

/-- **The texts of all conditions stand in a clause that matches patterns**, in the order in which
the conditions were given. -/
theorem MatchClause.text_of_foldl_withCondition {conditions : List Expression}
    (h : conditions ≠ []) {c : MatchClause} {env : Environment} {text : String}
    (htext : ((conditions.foldl withCondition c).render env).result = .ok text) :
    ∃ patterns texts, (renderPatterns c.keyword c.patterns env).result = .ok patterns ∧
      (BuildM.each Expression.render (c.condition.toList ++ conditions)
        (renderPatterns c.keyword c.patterns env).environment).result = .ok texts ∧
      text = patterns ++ "\nWHERE " ++ conjunctionText texts := by
  rw [foldl_withCondition] at htext
  obtain ⟨patterns, part, hpatterns, hpart, rfl⟩ := ok_of_bind_renderPart htext
  rw [renderPart_conjunction "WHERE" (List.append_ne_nil_of_right_ne_nil _ h)] at hpart
  obtain ⟨texts, htexts, hwhere⟩ := BuildM.ok_of_bind hpart
  cases hwhere
  exact ⟨patterns, texts, hpatterns, htexts, by simp only [String.append_assoc]; rfl⟩

/-- **Only the text of the last condition stands in a clause that hands columns on.** -/
theorem WithClause.text_of_foldl_withCondition {conditions : List Expression}
    (h : conditions ≠ []) {c : WithClause} {env : Environment} {text : String}
    (htext : ((conditions.foldl withCondition c).render env).result = .ok text) :
    ∃ columns last, (renderColumns c.columns env).result = .ok columns ∧
      ((conditions.getLast h).render (renderColumns c.columns env).environment).result = .ok last ∧
      text = "WITH " ++ distinctText c.distinct ++ columns ++ "\nWHERE " ++ last := by
  rw [foldl_withCondition, List.getLast?_append_of_ne_nil _ h, List.getLast?_eq_some_getLast h]
    at htext
  obtain ⟨columns, hcolumns, hrest⟩ := BuildM.ok_of_bind htext
  obtain ⟨part, hpart, hpure⟩ := BuildM.ok_of_bind hrest
  obtain ⟨last, hlast, hwhere⟩ := BuildM.ok_of_bind hpart
  cases hwhere
  cases hpure
  exact ⟨columns, last, hcolumns, hlast, by simp only [String.append_assoc]; rfl⟩

/-! ### Which clauses keep all conditions -/

/-- **Which clauses keep all conditions.**  A clause that matches patterns that is given conditions
one after the other has all of them, joined in this order behind the condition that it had, and the
text of each stands in its text.  A clause that hands columns on has the last condition only, so
that it has all of them only if there is a single one. -/
theorem foldl_withCondition_eq_conjunction {conditions : List Expression} (h : conditions ≠ []) :
    (∀ c : MatchClause,
      conditions.foldl MatchClause.withCondition c =
          { c with condition := conjunction (c.condition.toList ++ conditions) } ∧
        ∀ (env : Environment) (text : String),
          ((conditions.foldl MatchClause.withCondition c).render env).result = .ok text →
          ∃ patterns texts, (renderPatterns c.keyword c.patterns env).result = .ok patterns ∧
            (BuildM.each Expression.render (c.condition.toList ++ conditions)
              (renderPatterns c.keyword c.patterns env).environment).result = .ok texts ∧
            text = patterns ++ "\nWHERE " ++ conjunctionText texts) ∧
      ∀ c : WithClause,
        conditions.foldl WithClause.withCondition c = { c with condition := conditions.getLast? } ∧
          ((conditions.foldl WithClause.withCondition c).condition =
              conjunction (c.condition.toList ++ conditions) ↔
            c.condition = none ∧ conditions.length = 1) ∧
          ∀ (env : Environment) (text : String),
            ((conditions.foldl WithClause.withCondition c).render env).result = .ok text →
            ∃ columns last, (renderColumns c.columns env).result = .ok columns ∧
              ((conditions.getLast h).render (renderColumns c.columns env).environment).result =
                .ok last ∧
              text = "WITH " ++ distinctText c.distinct ++ columns ++ "\nWHERE " ++ last := by
  refine ⟨fun c => ⟨MatchClause.foldl_withCondition conditions c, fun env text htext =>
    MatchClause.text_of_foldl_withCondition h htext⟩, fun c => ⟨?_, ?_, fun env text htext =>
    WithClause.text_of_foldl_withCondition h htext⟩⟩
  · rw [WithClause.foldl_withCondition, List.getLast?_append_of_ne_nil _ h]
  · rw [WithClause.foldl_withCondition, eq_comm,
      conjunction_eq_getLast?_iff (List.append_ne_nil_of_right_ne_nil _ h), List.length_append]
    have hlength := List.length_pos_of_ne_nil h
    cases c.condition with
    | none => simp
    | some earlier => simp; omega

/-- That a property of a node is there. -/
def keyPresent : Expression :=
  .application .isNotNull [.propertyOf ⟨0, .node, some "a"⟩ "x"]

/-- That a property of a node is missing. -/
def keyAbsent : Expression := .application .isNull [.propertyOf ⟨0, .node, some "a"⟩ "y"]

/-- A clause that matches the node. -/
def matchingNode : MatchClause := .ofPattern (.ofNode ⟨⟨0, .node, some "a"⟩, [], [], true, true⟩)

/-- A clause that hands the node on. -/
def handingNode : WithClause := ⟨false, [.plain (.reference ⟨0, .node, some "a"⟩)], none⟩

/-- Two conditions are joined where they are given to the one clause, and not where they are given
to the other. -/
theorem foldl_withCondition_keyPresent :
    [keyPresent, keyAbsent].foldl MatchClause.withCondition matchingNode =
        { matchingNode with condition := some (keyPresent.and keyAbsent) } ∧
      [keyPresent, keyAbsent].foldl WithClause.withCondition handingNode =
        { handingNode with condition := some keyAbsent } ∧
      ([keyPresent, keyAbsent].foldl WithClause.withCondition handingNode).condition ≠
        conjunction [keyPresent, keyAbsent] := by
  obtain ⟨hmatch, hwith⟩ :=
    foldl_withCondition_eq_conjunction (List.cons_ne_nil keyPresent [keyAbsent])
  refine ⟨(hmatch matchingNode).1, (hwith handingNode).1, fun heq => ?_⟩
  exact absurd ((hwith handingNode).2.1.1 heq).2 (by decide)

/-- **A condition is lost**: of two conditions that a clause is given that hands columns on, only
the second is kept, and only its text is written. -/
theorem withCondition_loses_condition :
    ([keyPresent, keyAbsent].foldl WithClause.withCondition handingNode).condition ≠
        conjunction [keyPresent, keyAbsent] ∧
      (([keyPresent, keyAbsent].foldl WithClause.withCondition handingNode).render
        (Environment.start "" .colon)).result = .ok "WITH a\nWHERE a.y IS NULL" := by
  refine ⟨?_, by decide⟩
  intro h
  cases h

end CypherQuery
