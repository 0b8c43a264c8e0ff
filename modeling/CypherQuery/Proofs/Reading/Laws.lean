/-
**What the readers do to written text.**

There is one law for each reader, which says what it does where something written stands in front of
it.  What follows has to end the thing that is read: a word ends where it cannot go on, an operand
where no key follows, and an expression where no operator would make it an operand.

Main definitions:

* `CypherQuery.Reading.endsWord`, `CypherQuery.Reading.endsOperand`,
  `CypherQuery.Reading.endsExpression` — where words, operands and expressions end.

Main results:

* `CypherQuery.Reading.readPrimary_escape`, `CypherQuery.Reading.readPrimary_text`,
  `CypherQuery.Reading.readPrimary_integer` — words and literals;
* `CypherQuery.Reading.readGroup_single`, `CypherQuery.Reading.readGroup_operands` —
  **parentheses**, around one expression and around several;
* `CypherQuery.Reading.readTail_comparison`, `CypherQuery.Reading.readTail_after` — operators behind
  an operand.
-/

import CypherQuery.Proofs.Reading.Expression

set_option autoImplicit false

namespace CypherQuery.Reading

/-! ### Where expressions end -/

/-- Whether a word ends before a text: it does not go on, and it is no function. -/
def endsWord : List Char → Bool
  | [] => true
  | c :: cs => endsName (c :: cs) && c != '('

/-- Whether an operand ends before a text: there is no key. -/
def endsOperand (cs : List Char) : Bool := endsWord cs && cs.head? != some '.'

/-- Whether an expression ends before a text: there is no operator that would make it an
operand. -/
def endsExpression (cs : List Char) : Bool :=
  endsOperand cs && (readOperator signBetween comparisons cs).isNone &&
    (readOperator signAfter [.isNull, .isNotNull] cs).isNone

theorem endsName_of_endsWord {cs : List Char} (h : endsWord cs = true) : endsName cs = true := by
  cases cs with
  | nil => rfl
  | cons c cs =>
      rw [endsWord, Bool.and_eq_true] at h
      exact h.1

theorem endsWord_of_endsOperand {cs : List Char} (h : endsOperand cs = true) :
    endsWord cs = true := by
  rw [endsOperand, Bool.and_eq_true] at h
  exact h.1

theorem endsOperand_of_endsExpression {cs : List Char} (h : endsExpression cs = true) :
    endsOperand cs = true := by
  rw [endsExpression, Bool.and_eq_true, Bool.and_eq_true] at h
  exact h.1.1

/-- Numbers end where names do. -/
theorem isDigit_of_endsName {cs : List Char} (h : endsName cs = true) :
    ∀ c ∈ cs.head?, c.isDigit = false := by
  intro c hc
  cases cs with
  | nil => cases hc
  | cons d cs =>
      cases hc
      simp only [endsName, Identifier.isPart, Char.isAlphanum, Bool.and_eq_true,
        Bool.not_eq_true', Bool.or_eq_false_iff] at h
      exact h.1.1.2

theorem readKeys_of_endsOperand (base : Expression) {cs : List Char}
    (h : endsOperand cs = true) : readKeys base cs = some (base, cs) := by
  rw [endsOperand, Bool.and_eq_true, bne_iff_ne] at h
  rw [readKeys.eq_def]
  split
  next rest => exact absurd rfl h.2
  next => rfl

theorem readTail_of_endsExpression {owners : Owners} {inner : Reader Expression}
    (first : Expression) {cs : List Char} (h : endsExpression cs = true) :
    readTail owners inner first cs = some (first, cs) := by
  simp only [endsExpression, Bool.and_eq_true, Option.isNone_iff_eq_none] at h
  rw [readTail, h.1.2, h.2]

/-- A key is read back. -/
theorem readKeys_escape (base : Expression) (key : String) {rest : List Char}
    (h : endsName rest = true) :
    readKeys base ('.' :: ((Identifier.escape key).toList ++ rest)) =
      readKeys (.property base key) rest := by
  rw [readKeys.eq_def]
  simp [readName_escape key h]

/-! ### Words -/

section

variable {owners : Owners} {inner : Reader Expression}

/-- Where a name is written, a word is read. -/
theorem readPrimary_escape (name : String) (rest : List Char) :
    readPrimary owners inner ((Identifier.escape name).toList ++ rest) =
      readWord owners inner ((Identifier.escape name).toList ++ rest) := by
  obtain ⟨c, cs, hname, hc⟩ := Identifier.escape_eq_cons name
  -- no sign and no digit starts a name
  have hne : ∀ d, d ≠ Identifier.backtick → Identifier.isStart d = false → c ≠ d := by
    rintro d hd hstart rfl
    rcases hc with hc | hc
    · exact hd hc
    · rw [hc] at hstart
      cases hstart
  have hdigit : c.isDigit = false := by
    rcases hc with rfl | hc
    · rfl
    · exact Identifier.isDigit_of_isStart hc
  rw [hname, List.cons_append]
  simp [readPrimary, hdigit, hne StringLiteral.quote (by decide) (by decide),
    hne '-' (by decide) (by decide), hne '$' (by decide) (by decide),
    hne '(' (by decide) (by decide), hne '[' (by decide) (by decide),
    hne '\x7b' (by decide) (by decide)]

/-- A name that is no function is a constant or a variable. -/
theorem readWord_escape {name : String} (hname : name ≠ "NOT") {rest : List Char}
    (h : endsWord rest = true) :
    readWord owners inner ((Identifier.escape name).toList ++ rest) =
      (wordMeaning? owners name).map fun e => (e, rest) := by
  rw [readWord, readName_escape name (endsName_of_endsWord h)]
  cases rest with
  | nil => simp [hname]
  | cons c cs =>
      have hc : c ≠ '(' := by
        rw [endsWord, Bool.and_eq_true, bne_iff_ne] at h
        exact h.2
      simp [hname, hc]

/-- A function is read with its arguments. -/
theorem readWord_call (function : String) (rest : List Char) :
    readWord owners inner ((Identifier.escape function).toList ++ ("(".toList ++ rest)) =
      (readItems inner ", " ")" rest).map fun r => (.call function r.1, r.2) := by
  rw [readWord, readName_escape function (by rfl)]
  change (readItems inner ", " ")" rest >>= _) = _
  cases readItems inner ", " ")" rest <;> rfl

/-- A negation is read with its operand. -/
theorem readWord_negation {operand : Expression} {cs rest : List Char}
    (h : inner (cs ++ (")".toList ++ rest)) = some (operand, ")".toList ++ rest)) :
    readWord owners inner ("NOT".toList ++ (" (".toList ++ (cs ++ (")".toList ++ rest)))) =
      some (.application .negation [operand], rest) := by
  have hword : readName ("NOT".toList ++ (" (".toList ++ (cs ++ (")".toList ++ rest)))) =
      some ("NOT", " (".toList ++ (cs ++ (")".toList ++ rest))) :=
    readName_escape "NOT" (by rfl)
  rw [readWord, hword]
  change readNegated inner (" (".toList ++ (cs ++ (")".toList ++ rest))) = _
  simp only [readNegated, skip_append, h, Option.bind_eq_bind, Option.bind_some]

/-! ### Signs -/

theorem readPrimary_group (cs : List Char) :
    readPrimary owners inner ("(".toList ++ cs) = readGroup inner cs := rfl

theorem readPrimary_list (cs : List Char) :
    readPrimary owners inner ("[".toList ++ cs) =
      (readItems inner ", " "]" cs).map fun r => (.list r.1, r.2) := rfl

theorem readPrimary_map (cs : List Char) :
    readPrimary owners inner ("\x7b".toList ++ cs) =
      (readItems (readEntry inner) ", " "\x7d" cs).map fun r => (.map r.1, r.2) := rfl

theorem readPrimary_parameter {name : String} {p : Parameter}
    (hp : owners.parameterOf name = some p) {rest : List Char} (h : endsName rest = true) :
    readPrimary owners inner ("$".toList ++ ((Identifier.escape name).toList ++ rest)) =
      some (.placeholder p, rest) := by
  have hname := readName_escape name h
  change (readName ((Identifier.escape name).toList ++ rest) >>= _) = _
  rw [hname]
  simp only [Option.bind_eq_bind, Option.bind_some, hp]

theorem readPrimary_text (text : String) (rest : List Char) :
    readPrimary owners inner ((StringLiteral.render text).toList ++ rest) =
      some (.literal (.text text), rest) := by
  have hread := readString_render text rest
  rw [StringLiteral.toList_render] at hread ⊢
  rw [List.cons_append, List.cons_append] at hread ⊢
  rw [readPrimary, if_pos rfl, hread]
  rfl

theorem readPrimary_integer (n : Int) {rest : List Char} (h : endsName rest = true) :
    readPrimary owners inner ((toString n).toList ++ rest) =
      some (.literal (.integer n), rest) := by
  have hread := readInteger_toString n (isDigit_of_endsName h)
  obtain ⟨c, cs, htext, hc⟩ := toString_integer_eq_cons n
  have hquote : c ≠ StringLiteral.quote := by
    rintro rfl
    exact absurd hc (by decide)
  have hnumber : (c = '-' || c.isDigit) = true := by simpa using hc
  rw [htext, List.cons_append] at hread ⊢
  rw [readPrimary, if_neg hquote, if_pos hnumber, hread]
  rfl

end

/-! ### Items and groups -/

/-- The brackets that close a list of expressions. -/
def closings : List String := [")", "]", "\x7d"]

/-- Commas stand between expressions in brackets. -/
theorem separates_comma {closing : String} (h : closing ∈ closings) :
    Separates endsExpression ", " closing := by
  refine ⟨by decide, fun rest => ?_, fun _ => rfl, fun rest => ?_⟩
  · revert closing
    simp only [closings, List.forall_mem_cons]
    exact ⟨rfl, rfl, rfl, List.forall_mem_nil _⟩
  · revert closing
    simp only [closings, List.forall_mem_cons]
    exact ⟨rfl, rfl, rfl, List.forall_mem_nil _⟩

/-- Operators in parentheses stand between expressions. -/
theorem separates_grouping {op : Operator} (h : op ∈ groupings) :
    Separates endsExpression (signBetween op) ")" where
  sign_ne := by simp [signBetween]
  skip_closing _ := by cases op <;> rfl
  ends_sign _ := by
    cases op <;> first
      | rfl
      | exact absurd h (by decide)
  ends_closing _ := rfl

section

variable {owners : Owners} {inner : Reader Expression}

/-- Parentheses around a single expression. -/
theorem readGroup_single {e : Expression} {cs rest : List Char}
    (h : inner (cs ++ (")".toList ++ rest)) = some (e, ")".toList ++ rest)) :
    readGroup inner (cs ++ (")".toList ++ rest)) = some (e, rest) := by
  simp only [readGroup, h, Option.bind_eq_bind, Option.bind_some, skip_append]

theorem readOperator_groupings {op : Operator} (h : op ∈ groupings) (rest : List Char) :
    readOperator signBetween groupings ((signBetween op).toList ++ rest) = some (op, rest) := by
  cases op <;> first
    | rfl
    | exact absurd h (by decide)

/-- **Parentheses around operands**, of which there are several. -/
theorem readGroup_operands {β : Type} {written : β → List Char} {value : β → Expression}
    {op : Operator} (hop : op ∈ groupings) {first second : β} {others : List β}
    (hitem : ∀ b ∈ first :: second :: others, ∀ following, endsExpression following = true →
      inner (written b ++ following) = some (value b, following)) (rest : List Char) :
    readGroup inner (List.intercalate (signBetween op).toList
        ((first :: second :: others).map written) ++ (")".toList ++ rest)) =
      some (.application op ((first :: second :: others).map value), rest) := by
  have hsep := separates_grouping hop
  -- the first operand is read before it is known that there are others
  have htail := readSeparated_intercalate hsep (List.forall_mem_cons.1 hitem).2
    (List.cons_ne_nil second others) rest
  have hhead := hitem first List.mem_cons_self _ (hsep.ends_sign
    (List.intercalate (signBetween op).toList ((second :: others).map written) ++
      (")".toList ++ rest)))
  simp only [List.map_cons, List.intercalate_cons_cons, List.append_assoc] at hhead htail ⊢
  simp only [readGroup, hhead, Option.bind_eq_bind, Option.bind_some, hsep.skip_closing,
    readOperator_groupings hop, htail]

theorem endsOperand_signBetween (op : Operator) (cs : List Char) :
    endsOperand ((signBetween op).toList ++ cs) = true := by
  cases op <;> rfl

theorem endsOperand_signAfter (op : Operator) (cs : List Char) :
    endsOperand ((signAfter op).toList ++ cs) = true := by
  cases op <;> rfl

theorem readTail_comparison {op : Operator} (hop : op ∈ comparisons) {first second : Expression}
    {cs rest : List Char} (h : readOperand owners inner cs = some (second, rest)) :
    readTail owners inner first ((signBetween op).toList ++ cs) =
      some (.application op [first, second], rest) := by
  have hread : readOperator signBetween comparisons ((signBetween op).toList ++ cs) =
      some (op, cs) := by
    cases op <;> first
      | rfl
      | exact absurd hop (by decide)
  simp only [readTail, hread, h, Option.bind_eq_bind, Option.bind_some]

theorem readTail_after {op : Operator} (hop : op.family = .after) (first : Expression)
    (rest : List Char) :
    readTail owners inner first ((signAfter op).toList ++ rest) =
      some (.application op [first], rest) := by
  have hbetween : readOperator signBetween comparisons ((signAfter op).toList ++ rest) = none := by
    cases op <;> first
      | rfl
      | exact absurd hop (by decide)
  have hread : readOperator signAfter [.isNull, .isNotNull] ((signAfter op).toList ++ rest) =
      some (op, rest) := by
    cases op <;> first
      | rfl
      | exact absurd hop (by decide)
  simp only [readTail, hbetween, hread]

end

/-- No expression starts with a closing bracket. -/
theorem readExpression_closing (owners : Owners) (n : Nat) {closing : String}
    (h : closing ∈ closings) (rest : List Char) :
    readExpression owners n (closing.toList ++ rest) = none := by
  revert closing
  simp only [closings, List.forall_mem_cons]
  cases n with
  | zero => exact ⟨rfl, rfl, rfl, List.forall_mem_nil _⟩
  | succ n => exact ⟨rfl, rfl, rfl, List.forall_mem_nil _⟩

end CypherQuery.Reading
