/-
**The text of an expression says which expression it is.**

In an environment that has named all its identities, an expression is written with names of which
each belongs to a single identity; so the reader finds the identities again, and with them the
expression.  Expressions with the same text have the same normal form.

Main definitions:

* `CypherQuery.Expression.IsReadableIn` — **the expressions that can be read in an environment**.

Main results:

* `CypherQuery.Expression.readExpression_of_render` — **what is written can be read**;
* `CypherQuery.Expression.normal_eq_of_render_eq` — **expressions with the same text have the same
  normal form**.
-/

import CypherQuery.Proofs.Reading.Inverse
import CypherQuery.Proofs.Session

set_option autoImplicit false

namespace CypherQuery

namespace Reading

/-! ### Names that an environment has given -/

/-- In a naming, the owner of a name is the identity that has it. -/
theorem owner?_of_lookup {α : Type} [DecidableEq α] {table : List (α × String)}
    (h : IsNaming table) {a : α} {name : String} (hlookup : table.lookup a = some name) :
    owner? table name = some a := by
  have hmem := h.lookup_eq_some_iff.1 hlookup
  unfold owner?
  cases hfind : table.find? fun entry => entry.2 == name with
  | none =>
      have hnone := List.find?_eq_none.1 hfind (a, name) hmem
      simp at hnone
  | some entry =>
      obtain ⟨b, found⟩ := entry
      obtain rfl : found = name := by simpa using List.find?_some hfind
      have hfound := h.lookup_eq_some_iff.2 (List.mem_of_find?_eq_some hfind)
      rw [Option.map_some, h.eq_of_lookup hfound hlookup]

section

variable {env : Environment} (henv : env.IsReachable)

include henv

/-- The name of a variable belongs to it. -/
theorem variableOf_naming {v : Variable}
    (h : ((Occurrence.variableAt v).lookup env).isSome = true) :
    (Owners.ofEnvironment env).variableOf (env.naming.ofVariable v) = some v := by
  obtain ⟨name, hname⟩ := Option.isSome_iff_exists.1 h
  have hlookup : env.boundVariables.lookup v = some name := hname
  have hwritten : env.naming.ofVariable v = name := by simp [Environment.naming, hlookup]
  rw [hwritten]
  exact owner?_of_lookup henv.consistent.variableNaming hlookup

/-- The name of a parameter belongs to it. -/
theorem parameterOf_naming {p : Parameter}
    (h : ((Occurrence.parameterAt p).lookup env).isSome = true) :
    (Owners.ofEnvironment env).parameterOf (env.naming.ofParameter p) = some p := by
  obtain ⟨name, hname⟩ := Option.isSome_iff_exists.1 h
  have hlookup : env.boundParameters.lookup p = some name := hname
  have hwritten : env.naming.ofParameter p = name := by simp [Environment.naming, hlookup]
  rw [hwritten]
  exact owner?_of_lookup henv.consistent.parameterNaming hlookup

end

end Reading

/-- The name of a variable at a place, if it has one. -/
def Occurrence.variableName? (env : Environment) : Occurrence → Option String
  | .variableAt v => env.boundVariables.lookup v
  | .parameterAt _ => none

namespace Expression

open Reading (IsLegible IsKnown Owners readExpression reservedWords)

/-- Whether an expression is written unambiguously, those below it aside: it is no double and no raw
text, the name of a function is a plain identifier, and keys do not stand behind an operator without
parentheses. -/
def isUnambiguous : Expression → Bool
  | .literal (.double _) | .raw _ => false
  | .call function _ => Identifier.isPlain function
  | .property base _ => !base.isUndelimited
  | _ => true

/-- **The expressions that can be read in an environment.** -/
structure IsReadableIn (env : Environment) (e : Expression) : Prop where
  /-- Every part is written unambiguously. -/
  parts : ∀ x ∈ e.parts, x.isUnambiguous = true
  /-- Every identity has a name already. -/
  named : ∀ o ∈ e.occurrences, (o.lookup env).isSome = true
  /-- No variable has a reserved name. -/
  words : ∀ o ∈ e.occurrences, ∀ name ∈ o.variableName? env, name ∉ reservedWords

section

variable {env : Environment} (henv : env.IsReachable) {e : Expression} (he : e.IsReadableIn env)

include henv he

theorem isKnown_of_mem {v : Variable} (hv : .variableAt v ∈ e.occurrences) :
    IsKnown (Owners.ofEnvironment env) env.naming v := by
  obtain ⟨name, hname⟩ := Option.isSome_iff_exists.1 (he.named _ hv)
  have hlookup : env.boundVariables.lookup v = some name := hname
  have hwritten : env.naming.ofVariable v = name := by simp [Environment.naming, hlookup]
  refine ⟨Reading.variableOf_naming henv (he.named _ hv), ?_⟩
  rw [hwritten]
  exact he.words _ hv name hlookup

/-- What can be written and read is legible. -/
theorem isLegible_of_mem_parts (hwritten : ∀ fault, .fault fault ∉ e.template) :
    ∀ x ∈ e.parts, IsLegible (Owners.ofEnvironment env) env.naming x := by
  intro x hx
  have hunambiguous := he.parts x hx
  have hoccurrences := occurrences_subset_of_mem_parts hx
  cases x with
  | literal l =>
      rintro x rfl
      cases hunambiguous
  | reference v => exact isKnown_of_mem henv he (hoccurrences (List.mem_singleton_self _))
  | identityOf v => exact isKnown_of_mem henv he (hoccurrences (List.mem_singleton_self _))
  | labelsOf v => exact isKnown_of_mem henv he (hoccurrences (List.mem_singleton_self _))
  | placeholder p =>
      have hp := hoccurrences (List.mem_singleton_self (Occurrence.parameterAt p))
      exact Reading.parameterOf_naming henv (he.named _ hp)
  | property base key =>
      rw [isUnambiguous, Bool.not_eq_true'] at hunambiguous
      exact hunambiguous
  | application op operands => exact fault?_of_mem_parts hwritten hx
  | call function arguments => exact hunambiguous
  | list items => trivial
  | map entries => trivial
  | raw text => cases hunambiguous

/-- **What is written can be read**: the text of an expression is read as its normal form, and
nothing is left. -/
theorem readExpression_of_render {text : String} (h : (e.render env).result = .ok text) {n : Nat}
    (hn : sizeOf e ≤ n) :
    readExpression (Owners.ofEnvironment env) n text.toList = some (e.normal, []) := by
  have hlegible := isLegible_of_mem_parts henv he
    (Template.fault_not_mem_of_ok (result_run_template h))
  have hread := (Reading.readsBack_of_isLegible hlegible).whole n [] hn rfl
  rwa [List.append_nil, ← chars_of_render h he.named] at hread

end

/-- **Expressions with the same text have the same normal form**: apart from connectives with a
single operand, and from calls that ask for the identity or the labels of a variable, they are the
same. -/
theorem normal_eq_of_render_eq {env : Environment} (henv : env.IsReachable) {a b : Expression}
    (ha : a.IsReadableIn env) (hb : b.IsReadableIn env) {text : String}
    (hatext : (a.render env).result = .ok text) (hbtext : (b.render env).result = .ok text) :
    a.normal = b.normal := by
  have hreada := readExpression_of_render henv ha hatext (Nat.le_max_left (sizeOf a) (sizeOf b))
  have hreadb := readExpression_of_render henv hb hbtext (Nat.le_max_right (sizeOf a) (sizeOf b))
  rw [hreada] at hreadb
  exact congrArg Prod.fst (Option.some.inj hreadb)

/-- A node with a name that is quoted. -/
def conditionNode : Variable := ⟨0, .node, some "a node"⟩

/-- A comparison of the identity of the node with a text. -/
def identityCondition : Expression :=
  .application .equal [.identityOf conditionNode, .literal (.text "NULL) = 'x'")]

/-- The same comparison, with a call in place of the identity, as the only part of a conjunction. -/
def callCondition : Expression :=
  .application .conjunction [.application .equal
    [.call "id" [.reference conditionNode], .literal (.text "NULL) = 'x'")]]

/-- Both are written alike, and have the same normal form. -/
theorem normal_identityCondition :
    identityCondition ≠ callCondition ∧
      (identityCondition.render
          ((Environment.start "" .colon).after [.name conditionNode])).result =
        .ok "id(\x60a node\x60) = 'NULL) = \\'x\\''" ∧
      (callCondition.render
          ((Environment.start "" .colon).after [.name conditionNode])).result =
        .ok "id(\x60a node\x60) = 'NULL) = \\'x\\''" ∧
      identityCondition.normal = callCondition.normal :=
  ⟨by simp [identityCondition, callCondition], rfl, rfl,
    normal_eq_of_render_eq ⟨"", .colon, [.name conditionNode], rfl⟩
      ⟨by decide, by decide, by decide⟩ ⟨by decide, by decide, by decide⟩ rfl rfl⟩

end Expression

end CypherQuery
