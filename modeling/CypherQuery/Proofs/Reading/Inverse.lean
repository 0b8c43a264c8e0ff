/-
**The reader of expressions inverts the writer.**

The reader takes the characters of an expression for the expression again, apart from two
differences that no text shows: a connective with a single operand is written as the operand, and
what is written for the identity or the labels of a variable is the call of a function.

An expression is read in two places.  As a whole it is read wherever an expression ends; in front of
keys, which come after it in the text and before it in the tree, only what has parentheses of its
own can stand.  The induction carries both.

Main definitions:

* `CypherQuery.Expression.normal` — **the normal form of an expression**;
* `CypherQuery.Reading.IsLegible` — what has to hold of every part of an expression;
* `CypherQuery.Reading.ReadsBack` — an expression is read back, in both places.

Main results:

* `CypherQuery.Reading.readsBack_application` — applications are read back if their operands are;
* `CypherQuery.Reading.readsBack_of_isLegible` — **legible expressions are read back**.
-/

import CypherQuery.Proofs.Reading.Laws
import CypherQuery.Proofs.Reading.Written

set_option autoImplicit false

namespace CypherQuery

/-! ### Normal forms -/

namespace Expression

/-- An application, or the operand itself if it is the only one of a connective. -/
def unwrapped (op : Operator) (operands : List Expression) : Expression :=
  match op.family, operands with
  | .connective, [operand] => operand
  | _, _ => .application op operands

mutual

/-- **The normal form of an expression**: connectives with a single operand are unwrapped, and the
identity and the labels of a variable are calls. -/
def normal : Expression → Expression
  | .property base key => .property (normal base) key
  | .application op operands => unwrapped op (normalAll operands)
  | .call function arguments => .call function (normalAll arguments)
  | .list items => .list (normalAll items)
  | .map entries => .map (normalEntries entries)
  | .identityOf v => .call "id" [.reference v]
  | .labelsOf v => .call "labels" [.reference v]
  | e => e

/-- The normal forms of expressions. -/
def normalAll : List Expression → List Expression
  | [] => []
  | e :: rest => normal e :: normalAll rest

/-- The normal forms of entries. -/
def normalEntries : List (String × Expression) → List (String × Expression)
  | [] => []
  | (key, e) :: rest => (key, normal e) :: normalEntries rest

end

/-- The normal form of an entry. -/
def normalEntry (entry : String × Expression) : String × Expression := (entry.1, entry.2.normal)

/-- Only a connective with a single operand is unwrapped. -/
theorem unwrapped_of_family_ne {op : Operator} (h : op.family ≠ .connective)
    (operands : List Expression) : unwrapped op operands = .application op operands := by
  unfold unwrapped
  split
  next hfamily => exact absurd hfamily h
  next => rfl

theorem unwrapped_cons_cons (op : Operator) (first second : Expression)
    (others : List Expression) :
    unwrapped op (first :: second :: others) = .application op (first :: second :: others) := by
  unfold unwrapped
  cases op.family <;> rfl

theorem unwrapped_singleton {op : Operator} (h : op.family = .connective) (e : Expression) :
    unwrapped op [e] = e := by
  simp [unwrapped, h]

theorem normalAll_eq_map (es : List Expression) : normalAll es = es.map normal := by
  induction es with
  | nil => rfl
  | cons e rest ih => simp [normalAll, ih]

theorem normalEntries_eq_map (entries : List (String × Expression)) :
    normalEntries entries = entries.map normalEntry := by
  induction entries with
  | nil => rfl
  | cons entry rest ih => simp [normalEntries, normalEntry, ih]

theorem normal_application (op : Operator) (operands : List Expression) :
    (application op operands).normal = unwrapped op (operands.map normal) := by
  rw [normal, normalAll_eq_map]

end Expression

namespace Reading

open Expression (chars besideChars entryChars)

/-! ### Expressions that can be read back -/

/-- The words that stand for something else than a variable. -/
def reservedWords : List String := ["NULL", "true", "false", "NOT"]

/-- Whether a variable has a name of its own that is no reserved word. -/
def IsKnown (owners : Owners) (ν : Naming) (v : Variable) : Prop :=
  owners.variableOf (ν.ofVariable v) = some v ∧ ν.ofVariable v ∉ reservedWords

/-- **What has to hold of every part of an expression that can be read back.** -/
def IsLegible (owners : Owners) (ν : Naming) : Expression → Prop
  | .literal l => ∀ x, l ≠ .double x
  | .reference v | .identityOf v | .labelsOf v => IsKnown owners ν v
  | .placeholder p => owners.parameterOf (ν.ofParameter p) = some p
  | .property base _ => base.isUndelimited = false
  | .application op operands => op.fault? operands.length = none
  | .call function _ => Identifier.isPlain function = true
  | .list _ | .map _ => True
  | .raw _ => False

variable {owners : Owners} {ν : Naming}

/-- **An expression is read back**: as a whole where an expression ends, and also where only a word
ends, unless it is put in parentheses there. -/
structure ReadsBack (owners : Owners) (ν : Naming) (e : Expression) : Prop where
  /-- As a whole. -/
  whole : ∀ n rest, sizeOf e ≤ n → endsExpression rest = true →
    readExpression owners n (e.chars ν ++ rest) = some (e.normal, rest)
  /-- In front of keys. -/
  operand : e.isUndelimited = false → ∀ n rest, sizeOf e ≤ n + 1 → endsWord rest = true →
    readOperand owners (readExpression owners n) (e.chars ν ++ rest) = readKeys e.normal rest

theorem readExpression_succ {n : Nat} {first : Expression} {cs following : List Char}
    (h : readOperand owners (readExpression owners n) cs = some (first, following)) :
    readExpression owners (n + 1) cs =
      readTail owners (readExpression owners n) first following := by
  simp only [readExpression, h, Option.bind_eq_bind, Option.bind_some]

theorem sizeOf_pos (e : Expression) : 0 < sizeOf e := by
  cases e <;> simp +arith

/-- What is read back in front of keys is read back as a whole. -/
theorem readsBack_of_operand {e : Expression}
    (h : ∀ n rest, sizeOf e ≤ n + 1 → endsWord rest = true →
      readOperand owners (readExpression owners n) (e.chars ν ++ rest) = readKeys e.normal rest) :
    ReadsBack owners ν e where
  whole := by
    intro n rest hsize hends
    have hends' := endsOperand_of_endsExpression hends
    obtain ⟨n, rfl⟩ := Nat.exists_eq_add_one.2 (Nat.lt_of_lt_of_le (sizeOf_pos e) hsize)
    have hread := h n rest hsize (endsWord_of_endsOperand hends')
    rw [readKeys_of_endsOperand _ hends'] at hread
    rw [readExpression_succ hread, readTail_of_endsExpression _ hends]
  operand _ := h

/-- What is read back without keys is read back in front of them, and as a whole. -/
theorem readsBack_of_primary {e : Expression}
    (h : ∀ n rest, sizeOf e ≤ n + 1 → endsWord rest = true →
      readPrimary owners (readExpression owners n) (e.chars ν ++ rest) = some (e.normal, rest)) :
    ReadsBack owners ν e := by
  refine readsBack_of_operand fun n rest hsize hends => ?_
  simp only [readOperand, h n rest hsize hends, Option.bind_eq_bind, Option.bind_some]

/-! ### Words and literals -/

theorem readPrimary_reference {v : Variable} (h : IsKnown owners ν v) {inner : Reader Expression}
    {rest : List Char} (hends : endsWord rest = true) :
    readPrimary owners inner ((Expression.reference v).chars ν ++ rest) =
      some (.reference v, rest) := by
  obtain ⟨howner, hword⟩ := h
  simp only [reservedWords, List.mem_cons, List.not_mem_nil, or_false, not_or] at hword
  obtain ⟨hnull, htrue, hfalse, hnot⟩ := hword
  have hmeaning : wordMeaning? owners (ν.ofVariable v) = some (.reference v) := by
    simp [wordMeaning?, constant?, howner]
  rw [Expression.chars_reference, readPrimary_escape, readWord_escape hnot hends, hmeaning]
  rfl

/-- A constant that is a word is read back. -/
theorem readPrimary_constant {word : String} {l : Literal} (hplain : Identifier.isPlain word = true)
    (hnot : word ≠ "NOT") (h : constant? word = some l) {inner : Reader Expression}
    {rest : List Char} (hends : endsWord rest = true) :
    readPrimary owners inner (word.toList ++ rest) = some (.literal l, rest) := by
  have hmeaning : wordMeaning? owners word = some (.literal l) := by simp [wordMeaning?, h]
  rw [← Identifier.escape_of_isPlain hplain, readPrimary_escape, readWord_escape hnot hends,
    hmeaning]
  rfl

theorem readsBack_literal {l : Literal} (h : ∀ x, l ≠ .double x) :
    ReadsBack owners ν (.literal l) := by
  refine readsBack_of_primary fun n rest _ hends => ?_
  have hword : ∀ word, Identifier.isPlain word = true → word ≠ "NOT" → constant? word = some l →
      (Expression.literal l).chars ν = word.toList →
      readPrimary owners (readExpression owners n) ((Expression.literal l).chars ν ++ rest) =
        some (.literal l, rest) := by
    intro word hplain hnot hconstant hchars
    rw [hchars]
    exact readPrimary_constant hplain hnot hconstant hends
  cases l with
  | null => exact hword "NULL" rfl (by decide) rfl rfl
  | bool b =>
      cases b
      · exact hword "false" rfl (by decide) rfl rfl
      · exact hword "true" rfl (by decide) rfl rfl
  | integer i =>
      have hchars : (Expression.literal (.integer i)).chars ν = (toString i).toList := by
        simp [Expression.chars, Expression.template, Literal.template, Literal.write, Piece.write]
      rw [hchars]
      exact readPrimary_integer i (endsName_of_endsWord hends)
  | text s =>
      have hchars : (Expression.literal (.text s)).chars ν = (StringLiteral.render s).toList := by
        simp [Expression.chars, Expression.template, Literal.template, Literal.write, Piece.write]
      rw [hchars]
      exact readPrimary_text s rest
  | double x => exact absurd rfl (h x)

/-! ### Keys, calls and collections -/

theorem readsBack_property {base : Expression} (key : String) (h : ReadsBack owners ν base)
    (hbase : base.isUndelimited = false) : ReadsBack owners ν (.property base key) := by
  refine readsBack_of_operand fun n rest hsize hends => ?_
  have hsize' : sizeOf base ≤ n + 1 := by
    simp only [Expression.property.sizeOf_spec] at hsize
    omega
  -- the base is read in front of the key, which the reader of keys adds to it
  rw [Expression.chars_property, List.append_assoc, List.append_assoc,
    h.operand hbase n _ hsize' (by rfl)]
  exact readKeys_escape base.normal key (endsName_of_endsWord hends)

/-- Expressions with commas between them are read back, if each of them is. -/
theorem readItems_expressions {n : Nat} {es : List Expression}
    (h : ∀ e ∈ es, ∀ rest, endsExpression rest = true →
      readExpression owners n (e.chars ν ++ rest) = some (e.normal, rest))
    {closing : String} (hclosing : closing ∈ closings) (rest : List Char) :
    readItems (readExpression owners n) ", " closing
      (List.intercalate ", ".toList (es.map (chars ν)) ++ (closing.toList ++ rest)) =
        some (es.map Expression.normal, rest) :=
  readItems_intercalate (separates_comma hclosing) h (readExpression_closing owners n hclosing) rest

theorem readPrimary_call {function : String} (hplain : Identifier.isPlain function = true)
    {n : Nat} {arguments : List Expression}
    (h : ∀ e ∈ arguments, ∀ rest, endsExpression rest = true →
      readExpression owners n (e.chars ν ++ rest) = some (e.normal, rest)) (rest : List Char) :
    readPrimary owners (readExpression owners n)
        ((Expression.call function arguments).chars ν ++ rest) =
      some (.call function (arguments.map Expression.normal), rest) := by
  have hitems := readItems_expressions h (show ")" ∈ closings by decide) rest
  have hname := Identifier.escape_of_isPlain hplain
  simp only [Expression.chars_call, List.append_assoc]
  rw [← hname, readPrimary_escape, readWord_call, hitems, hname]
  rfl

/-- The items of a list take part in its size. -/
theorem whole_of_mem {es : List Expression} (h : ∀ e ∈ es, ReadsBack owners ν e) {n : Nat}
    (hsize : sizeOf es ≤ n) : ∀ e ∈ es, ∀ rest, endsExpression rest = true →
      readExpression owners n (e.chars ν ++ rest) = some (e.normal, rest) := by
  intro e he rest hends
  have := List.sizeOf_lt_of_mem he
  exact (h e he).whole n rest (by omega) hends

theorem readsBack_call {function : String} (hplain : Identifier.isPlain function = true)
    {arguments : List Expression} (h : ∀ e ∈ arguments, ReadsBack owners ν e) :
    ReadsBack owners ν (.call function arguments) := by
  refine readsBack_of_primary fun n rest hsize _ => ?_
  have hsize' : sizeOf arguments ≤ n := by
    simp only [Expression.call.sizeOf_spec] at hsize
    omega
  rw [readPrimary_call hplain (whole_of_mem h hsize') rest, Expression.normal,
    Expression.normalAll_eq_map]

/-- The call of a function on a variable is read back. -/
theorem readsBack_variableCall {e : Expression} {v : Variable} (hv : IsKnown owners ν v)
    {function : String} (hplain : Identifier.isPlain function = true)
    (hsizeOf : sizeOf v < sizeOf e)
    (hchars : e.chars ν = (Expression.call function [.reference v]).chars ν)
    (hnormal : e.normal = .call function [.reference v]) : ReadsBack owners ν e := by
  refine readsBack_of_primary fun n rest hsize _ => ?_
  have hpos : 0 < sizeOf v := by
    cases v
    simp +arith
  obtain ⟨n, rfl⟩ : ∃ m, n = m + 1 := Nat.exists_eq_add_one.2 (by omega)
  have hargument : ∀ e ∈ [Expression.reference v], ∀ following, endsExpression following = true →
      readExpression owners (n + 1) (e.chars ν ++ following) = some (e.normal, following) := by
    refine List.forall_mem_singleton.2 fun following hends => ?_
    have hends' := endsOperand_of_endsExpression hends
    have hread : readOperand owners (readExpression owners n)
        ((Expression.reference v).chars ν ++ following) = some (.reference v, following) := by
      simp only [readOperand, readPrimary_reference hv (endsWord_of_endsOperand hends'),
        Option.bind_eq_bind, Option.bind_some, readKeys_of_endsOperand _ hends']
    rw [readExpression_succ hread, readTail_of_endsExpression _ hends]
    rfl
  rw [hchars, readPrimary_call hplain hargument rest, hnormal]
  rfl

theorem readsBack_list {items : List Expression} (h : ∀ e ∈ items, ReadsBack owners ν e) :
    ReadsBack owners ν (.list items) := by
  refine readsBack_of_primary fun n rest hsize _ => ?_
  have hsize' : sizeOf items ≤ n := by
    simp only [Expression.list.sizeOf_spec] at hsize
    omega
  have hitems := readItems_expressions (whole_of_mem h hsize')
    (show "]" ∈ closings by decide) rest
  simp only [Expression.chars_list, List.append_assoc]
  rw [readPrimary_list, hitems, Expression.normal, Expression.normalAll_eq_map]
  rfl

/-- Entries with commas between them are read back, if their values are. -/
theorem readItems_entries {inner : Reader Expression} {entries : List (String × Expression)}
    (h : ∀ entry ∈ entries, ∀ rest, endsExpression rest = true →
      inner (entry.2.chars ν ++ rest) = some (entry.2.normal, rest)) (rest : List Char) :
    readItems (readEntry inner) ", " "\x7d"
      (List.intercalate ", ".toList (entries.map (entryChars ν)) ++ ("\x7d".toList ++ rest)) =
        some (entries.map Expression.normalEntry, rest) := by
  have hentry : ∀ entry ∈ entries, ∀ following, endsExpression following = true →
      readEntry inner (entryChars ν entry ++ following) =
        some (Expression.normalEntry entry, following) := by
    intro entry hmem following hends
    have hname : readName ((Identifier.escape entry.1).toList ++
        (": ".toList ++ (entry.2.chars ν ++ following))) = some (entry.1, _) :=
      readName_escape entry.1 (by rfl)
    simp only [readEntry, entryChars, List.append_assoc, hname, skip_append,
      h entry hmem following hends, Option.bind_eq_bind, Option.bind_some, Expression.normalEntry]
  have hclosing : ∀ rest, readEntry inner ("\x7d".toList ++ rest) = none := fun _ => rfl
  exact readItems_intercalate (separates_comma (by decide)) hentry hclosing rest

theorem readsBack_map {entries : List (String × Expression)}
    (h : ∀ entry ∈ entries, ReadsBack owners ν entry.2) : ReadsBack owners ν (.map entries) := by
  refine readsBack_of_primary fun n rest hsize _ => ?_
  have hvalue : ∀ entry ∈ entries, ∀ following, endsExpression following = true →
      readExpression owners n (entry.2.chars ν ++ following) =
        some (entry.2.normal, following) := by
    intro entry hmem following hends
    have hsize' : sizeOf entry.2 ≤ n := by
      have := List.sizeOf_lt_of_mem hmem
      simp only [Expression.map.sizeOf_spec] at hsize
      obtain ⟨key, e⟩ := entry
      simp only [Prod.mk.sizeOf_spec] at this
      change sizeOf e ≤ n
      omega
    exact (h entry hmem).whole n following hsize' hends
  have hitems := readItems_entries hvalue rest
  simp only [Expression.chars_map, List.append_assoc]
  rw [readPrimary_map, hitems, Expression.normal, Expression.normalEntries_eq_map]
  rfl

/-! ### Applications -/

/-- An operand is read back beside an operator. -/
theorem readOperand_beside {e : Expression} (h : ReadsBack owners ν e) {n : Nat}
    (hsize : sizeOf e ≤ n) {rest : List Char} (hends : endsOperand rest = true) :
    readOperand owners (readExpression owners n) (e.besideChars ν ++ rest) =
      some (e.normal, rest) := by
  have hkeys := readKeys_of_endsOperand e.normal hends
  unfold besideChars
  cases hdelimited : e.isUndelimited with
  | false =>
      have hread := h.operand hdelimited n rest (by omega) (endsWord_of_endsOperand hends)
      simpa [hkeys] using hread
  | true =>
      -- in parentheses it is read as a whole
      have hread := readGroup_single (h.whole n (")".toList ++ rest) hsize (by rfl))
      simp only [if_true, List.append_assoc]
      rw [readOperand, readPrimary_group, hread]
      exact hkeys

theorem readExpression_beside {e : Expression} (h : ReadsBack owners ν e) {n : Nat}
    (hsize : sizeOf e + 1 ≤ n) {rest : List Char} (hends : endsExpression rest = true) :
    readExpression owners n (e.besideChars ν ++ rest) = some (e.normal, rest) := by
  obtain ⟨n, rfl⟩ : ∃ m, n = m + 1 := Nat.exists_eq_add_one.2 (by omega)
  have hread := readOperand_beside h (Nat.le_of_succ_le_succ hsize)
    (endsOperand_of_endsExpression hends)
  rw [readExpression_succ hread, readTail_of_endsExpression _ hends]

theorem sizeOf_operand_lt (op : Operator) {operands : List Expression} {e : Expression}
    (h : e ∈ operands) : sizeOf e + 1 < sizeOf (Expression.application op operands) := by
  have := List.sizeOf_lt_of_mem h
  simp only [Expression.application.sizeOf_spec]
  omega

/-- Several operands in parentheses are read back. -/
theorem readsBack_group {op : Operator} (hop : op ∈ groupings)
    {first second : Expression} {others : List Expression} {written : Expression → List Char}
    (hchars : (Expression.application op (first :: second :: others)).chars ν = "(".toList ++
      (List.intercalate (signBetween op).toList ((first :: second :: others).map written) ++
        ")".toList))
    (hitem : ∀ e ∈ first :: second :: others, ∀ n rest, sizeOf e + 1 ≤ n →
      endsExpression rest = true →
        readExpression owners n (written e ++ rest) = some (e.normal, rest)) :
    ReadsBack owners ν (.application op (first :: second :: others)) := by
  refine readsBack_of_primary fun n rest hsize _ => ?_
  have hitem' : ∀ e ∈ first :: second :: others, ∀ following, endsExpression following = true →
      readExpression owners n (written e ++ following) = some (e.normal, following) := by
    intro e he following hends
    have := sizeOf_operand_lt op he
    exact hitem e he n following (by omega) hends
  rw [hchars, List.append_assoc, List.append_assoc, readPrimary_group,
    readGroup_operands hop hitem' rest, Expression.normal_application]
  simp only [List.map_cons, Expression.unwrapped_cons_cons]

/-- A comparison is put in parentheses in front of keys; as a whole it is read back. -/
theorem readsBack_comparison {op : Operator} (hop : op.family = .comparison)
    {first second : Expression}
    (hfirst : ReadsBack owners ν first) (hsecond : ReadsBack owners ν second)
    (hchars : (Expression.application op [first, second]).chars ν =
      first.besideChars ν ++ ((signBetween op).toList ++ second.besideChars ν)) :
    ReadsBack owners ν (.application op [first, second]) := by
  refine ⟨fun n rest hsize hends => ?_, fun hdelimited => ?_⟩
  · have hsizeFirst := sizeOf_operand_lt op (show first ∈ [first, second] by simp)
    have hsizeSecond := sizeOf_operand_lt op (show second ∈ [first, second] by simp)
    obtain ⟨n, rfl⟩ : ∃ m, n = m + 1 := Nat.exists_eq_add_one.2 (by omega)
    have hreadFirst := readOperand_beside hfirst (n := n) (by omega)
      (endsOperand_signBetween op (second.besideChars ν ++ rest))
    have hreadSecond := readOperand_beside hsecond (n := n) (by omega)
      (endsOperand_of_endsExpression hends)
    rw [hchars, List.append_assoc, List.append_assoc, readExpression_succ hreadFirst,
      readTail_comparison (mem_comparisons_iff.2 hop) hreadSecond, Expression.normal_application,
      Expression.unwrapped_of_family_ne (by simp [hop])]
    rfl
  · simp [Expression.isUndelimited, Operator.isDelimited, hop] at hdelimited

/-- A test for null is put in parentheses in front of keys; as a whole it is read back. -/
theorem readsBack_after {op : Operator} (hop : op.family = .after) {operand : Expression}
    (h : ReadsBack owners ν operand)
    (hchars : (Expression.application op [operand]).chars ν =
      operand.besideChars ν ++ (signAfter op).toList) :
    ReadsBack owners ν (.application op [operand]) := by
  refine ⟨fun n rest hsize hends => ?_, fun hdelimited => ?_⟩
  · have hsizeOperand := sizeOf_operand_lt op (List.mem_singleton_self operand)
    obtain ⟨n, rfl⟩ : ∃ m, n = m + 1 := Nat.exists_eq_add_one.2 (by omega)
    have hread := readOperand_beside h (n := n) (by omega) (endsOperand_signAfter op rest)
    rw [hchars, List.append_assoc, readExpression_succ hread, readTail_after hop,
      Expression.normal_application, Expression.unwrapped_of_family_ne (by simp [hop])]
    rfl
  · simp [Expression.isUndelimited, Operator.isDelimited, hop] at hdelimited

theorem readsBack_negation {operand : Expression} (h : ReadsBack owners ν operand)
    (hchars : (Expression.application .negation [operand]).chars ν =
      "NOT".toList ++ (" (".toList ++ (operand.chars ν ++ ")".toList))) :
    ReadsBack owners ν (.application .negation [operand]) := by
  refine readsBack_of_primary fun n rest hsize _ => ?_
  have hsizeOperand := sizeOf_operand_lt .negation (List.mem_singleton_self operand)
  have hread := h.whole n (")".toList ++ rest) (by omega) (by rfl)
  simp only [hchars, List.append_assoc]
  exact (readPrimary_escape "NOT" _).trans (readWord_negation hread)

/-- A connective with a single operand is read back as the operand. -/
theorem readsBack_wrapping {op : Operator} (hop : op.family = .connective) {operand : Expression}
    (h : ReadsBack owners ν operand)
    (hchars : (Expression.application op [operand]).chars ν = operand.chars ν) :
    ReadsBack owners ν (.application op [operand]) := by
  refine ⟨fun n rest hsize hends => ?_, fun hdelimited => ?_⟩
  · have hsizeOperand := sizeOf_operand_lt op (List.mem_singleton_self operand)
    rw [hchars, h.whole n rest (by omega) hends, Expression.normal_application,
      List.map_singleton, Expression.unwrapped_singleton hop]
  · simp [Expression.isUndelimited, Operator.isDelimited, hop] at hdelimited

/-- **An application is read back** if its operands are. -/
theorem readsBack_application {op : Operator} {operands : List Expression}
    (hfault : op.fault? operands.length = none) (h : ∀ e ∈ operands, ReadsBack owners ν e) :
    ReadsBack owners ν (.application op operands) := by
  have hchars := Expression.chars_application ν hfault
  cases hfamily : op.family with
  | arithmetic =>
      have hlength : operands.length = 2 := by simpa [Operator.fault?, hfamily] using hfault
      obtain ⟨first, second, rfl⟩ := List.length_eq_two.1 hlength
      rw [hfamily] at hchars
      exact readsBack_group (mem_groupings_iff.2 (Or.inl hfamily)) hchars
        fun e he n rest hsize hends => readExpression_beside (h e he) hsize hends
  | comparison =>
      have hlength : operands.length = 2 := by simpa [Operator.fault?, hfamily] using hfault
      obtain ⟨first, second, rfl⟩ := List.length_eq_two.1 hlength
      rw [hfamily] at hchars
      refine readsBack_comparison hfamily (h first (by simp)) (h second (by simp)) ?_
      simpa [List.intercalate_cons_cons] using hchars
  | connective =>
      rw [hfamily] at hchars
      -- a single operand has no parentheses, and is all that is read
      rcases operands with _ | ⟨first, _ | ⟨second, others⟩⟩
      · simp [Operator.fault?, hfamily] at hfault
      · exact readsBack_wrapping hfamily (h first (by simp)) (by simpa using hchars)
      · refine readsBack_group (mem_groupings_iff.2 (Or.inr hfamily)) (by simpa using hchars)
          fun e he n rest hsize hends => (h e he).whole n rest (by omega) hends
  | before =>
      have hop : op = .negation := by
        cases op <;> first
          | rfl
          | cases hfamily
      subst hop
      have hlength : operands.length = 1 := by simpa [Operator.fault?, hfamily] using hfault
      obtain ⟨operand, rfl⟩ := List.length_eq_one_iff.1 hlength
      rw [hfamily] at hchars
      exact readsBack_negation (h operand (by simp)) (by simpa [Operator.keyword] using hchars)
  | after =>
      have hlength : operands.length = 1 := by simpa [Operator.fault?, hfamily] using hfault
      obtain ⟨operand, rfl⟩ := List.length_eq_one_iff.1 hlength
      rw [hfamily] at hchars
      exact readsBack_after hfamily (h operand (by simp)) (by simpa using hchars)

/-! ### All expressions -/

/-- **The text of an expression is read back.** -/
theorem readsBack_of_isLegible {e : Expression} (h : ∀ x ∈ e.parts, IsLegible owners ν x) :
    ReadsBack owners ν e := by
  induction e using Expression.induction with
  | literal l => exact readsBack_literal (h _ (Expression.self_mem_parts _))
  | reference v =>
      have hv := h _ (Expression.self_mem_parts _)
      exact readsBack_of_primary fun _ _ _ hends => readPrimary_reference hv hends
  | placeholder p =>
      have hp := h _ (Expression.self_mem_parts _)
      refine readsBack_of_primary fun n rest _ hends => ?_
      rw [Expression.chars_placeholder, List.append_assoc]
      exact readPrimary_parameter hp (endsName_of_endsWord hends)
  | property base key ih =>
      have hbase := h _ (Expression.self_mem_parts _)
      exact readsBack_property key
        (ih (Expression.all_parts_child h base (List.mem_singleton_self base))) hbase
  | application op operands ih =>
      have hfault := h _ (Expression.self_mem_parts _)
      exact readsBack_application hfault fun e he => ih e he (Expression.all_parts_child h e he)
  | call function arguments ih =>
      have hplain := h _ (Expression.self_mem_parts _)
      exact readsBack_call hplain fun e he => ih e he (Expression.all_parts_child h e he)
  | list items ih =>
      exact readsBack_list fun e he => ih e he (Expression.all_parts_child h e he)
  | map entries ih =>
      exact readsBack_map fun entry hentry => ih entry hentry
        (Expression.all_parts_child h entry.2 (List.mem_map_of_mem hentry))
  | identityOf v =>
      have hv := h _ (Expression.self_mem_parts _)
      exact readsBack_variableCall hv (by decide) (by simp +arith)
        (Expression.chars_identityOf ν v) rfl
  | labelsOf v =>
      have hv := h _ (Expression.self_mem_parts _)
      exact readsBack_variableCall hv (by decide) (by simp +arith)
        (Expression.chars_labelsOf ν v) rfl
  | raw text => exact (h _ (Expression.self_mem_parts _)).elim

end Reading

end CypherQuery
