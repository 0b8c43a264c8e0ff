/-
**What a reader of string literals reads.**

Between the quotes of a string literal a backslash and the character behind it can stand for one
character: for a backslash, for a quote, or for one of three characters that would break or shift a
line.  Every other character stands for itself, and the first quote that no backslash takes is the
end of the literal.

The inside of a literal can be got by five replacements, one after the other and each over the whole
text.  What one replacement writes, the next ones read; so the backslashes have to be replaced first,
and no later replacement may look for a character that an earlier one writes.  Then the five come to
one pass over the text, which is how a literal is written here, and the reader undoes that pass,
whatever follows the literal.

Main definitions:

* `CypherQuery.Reading.SpellsEscaped`, `CypherQuery.Reading.SpellsString` — **the spellings of a
  text**;
* `CypherQuery.Reading.replaceInTurn` — replacements one after the other.

Main results:

* `CypherQuery.Reading.readString_eq_some_iff` — the reader finds exactly the spellings;
* `CypherQuery.Reading.replaceInTurn_eq_flatMap` — replacements in a good order are one pass;
* `CypherQuery.Reading.written_literals_read_back` — **written literals are read back**, and are
  different for different texts.
-/

import CypherQuery.Expression.Rendering
import CypherQuery.Proofs.Reading.Lexical

set_option autoImplicit false

namespace CypherQuery.Reading

open CypherQuery.StringLiteral

/-- Look-up in a table that has another entry in front. -/
theorem lookup_cons_ite {α β : Type} [DecidableEq α] (key key' : α) (value : β)
    (table : List (α × β)) :
    ((key, value) :: table).lookup key' = if key' = key then some value else table.lookup key' := by
  by_cases h : key' = key
  · simp [h]
  · simp [List.lookup_cons, beq_false_of_ne h, h]

/-! ### The spellings of a text -/

/-- The characters that belong to a backslash in front of them, each with what the two stand for. -/
def escapes : List (Char × Char) :=
  [('\\', '\\'), (quote, quote), ('n', '\n'), ('r', '\r'), ('t', '\t')]

/-- **The inside of a string literal**, and the text that it stands for. -/
inductive SpellsEscaped : List Char → List Char → Prop where
  /-- Nothing. -/
  | nil : SpellsEscaped [] []
  /-- A backslash and a character that belongs to it. -/
  | escape {d c : Char} {body text : List Char} (hd : escapes.lookup d = some c)
      (h : SpellsEscaped body text) : SpellsEscaped ('\\' :: d :: body) (c :: text)
  /-- A backslash and a character that does not belong to it. -/
  | lone {d : Char} {body text : List Char} (hd : escapes.lookup d = none)
      (h : SpellsEscaped body text) : SpellsEscaped ('\\' :: d :: body) ('\\' :: d :: text)
  /-- Another character, but not a quote. -/
  | other {c : Char} {body text : List Char} (hquote : c ≠ quote) (hbackslash : c ≠ '\\')
      (h : SpellsEscaped body text) : SpellsEscaped (c :: body) (c :: text)

/-- **A string literal in front of a text**, with what it stands for and the rest of the text. -/
def SpellsString (cs : List Char) (text : String) (rest : List Char) : Prop :=
  ∃ body, SpellsEscaped body text.toList ∧ cs = quote :: (body ++ quote :: rest)

/-! ### The reader -/

theorem unescapePair_eq (d : Char) :
    unescapePair d = (escapes.lookup d).elim ['\\', d] fun c => [c] := by
  simp only [unescapePair, escapes, lookup_cons_ite, List.lookup_nil]
  split_ifs <;> rfl

theorem readEscaped_of_spells {body text : List Char} (h : SpellsEscaped body text)
    (rest : List Char) : readEscaped (body ++ quote :: rest) = some (text, rest) := by
  have hquote : '\\' ≠ quote := by decide
  induction h with
  | nil =>
      rw [List.nil_append, readEscaped.eq_def]
      simp
  | escape hd _ ih => simp [readEscaped, hquote, unescapePair_eq, hd, ih]
  | lone hd _ ih => simp [readEscaped, hquote, unescapePair_eq, hd, ih]
  | other hc hbackslash _ ih =>
      rw [List.cons_append, readEscaped.eq_def]
      simp [hc, hbackslash, ih]

theorem spells_of_readEscaped {cs : List Char} : ∀ {text rest : List Char},
    readEscaped cs = some (text, rest) →
      ∃ body, SpellsEscaped body text ∧ cs = body ++ quote :: rest := by
  fun_induction readEscaped cs with
  | case1 => intro text rest h; cases h
  | case2 =>
      rintro _ _ ⟨⟩
      exact ⟨[], .nil, rfl⟩
  | case3 => intro text rest h; cases h
  | case4 d cs _ ih =>
      -- a backslash takes the character behind it with it, be it a quote
      intro text rest h
      obtain ⟨⟨inner, following⟩, hread, hr⟩ := Option.map_eq_some_iff.1 h
      cases hr
      obtain ⟨body, hbody, rfl⟩ := ih hread
      rw [unescapePair_eq]
      cases hd : escapes.lookup d with
      | some c => exact ⟨_, .escape hd hbody, rfl⟩
      | none => exact ⟨_, .lone hd hbody, rfl⟩
  | case5 c cs hquote hbackslash ih =>
      intro text rest h
      obtain ⟨⟨inner, following⟩, hread, hr⟩ := Option.map_eq_some_iff.1 h
      cases hr
      obtain ⟨body, hbody, rfl⟩ := ih hread
      exact ⟨_, .other hquote hbackslash hbody, rfl⟩

/-- **The reader finds exactly the spellings.** -/
theorem readString_eq_some_iff {cs rest : List Char} {text : String} :
    readString cs = some (text, rest) ↔ SpellsString cs text rest := by
  constructor
  · intro h
    cases cs with
    | nil => cases h
    | cons c cs =>
        rw [readString] at h
        split at h
        next hc =>
          obtain ⟨⟨inner, following⟩, hread, hr⟩ := Option.map_eq_some_iff.1 h
          cases hr
          obtain ⟨body, hbody, rfl⟩ := spells_of_readEscaped hread
          exact ⟨body, by rwa [String.toList_ofList], by rw [hc]⟩
        next => cases h
  · rintro ⟨body, hbody, rfl⟩
    rw [readString, if_pos rfl, readEscaped_of_spells hbody, Option.map_some, String.ofList_toList]

/-! ### Replacements one after the other -/

/-- A text with something else wherever a character was. -/
def replaceAll (c : Char) (written cs : List Char) : List Char :=
  cs.flatMap fun d => if d = c then written else [d]

/-- **Replacements one after the other**, each over the whole of what the one before it left. -/
def replaceInTurn (table : List (Char × List Char)) (cs : List Char) : List Char :=
  table.foldl (fun cs r => replaceAll r.1 r.2 cs) cs

/-- What stands for a character after one pass with all replacements. -/
def replacement (table : List (Char × List Char)) (c : Char) : List Char :=
  (table.lookup c).getD [c]

theorem flatMap_replacement_of_not_mem {table : List (Char × List Char)} {cs : List Char}
    (h : ∀ r ∈ table, r.1 ∉ cs) : cs.flatMap (replacement table) = cs := by
  have hself : ∀ c ∈ cs, replacement table c = [c] := by
    intro c hc
    have hnone : table.lookup c = none := by
      refine List.lookup_eq_none_iff.2 fun r hr => bne_iff_ne.2 ?_
      rintro rfl
      exact h r hr hc
    rw [replacement, hnone, Option.getD_none]
  rw [List.flatMap_congr hself, List.flatMap_singleton']

/-- **Replacements in a good order are one pass**: no later one looks for a character that an earlier
one writes. -/
theorem replaceInTurn_eq_flatMap {table : List (Char × List Char)}
    (h : table.Pairwise fun r s => s.1 ∉ r.2) (cs : List Char) :
    replaceInTurn table cs = cs.flatMap (replacement table) := by
  induction table generalizing cs with
  | nil => exact (List.flatMap_singleton' cs).symm
  | cons r table ih =>
      obtain ⟨hr, htable⟩ := List.pairwise_cons.1 h
      -- what the first replacement writes, the others leave as it is
      have hstep : ∀ c ∈ cs, (if c = r.1 then r.2 else [c]).flatMap (replacement table) =
          replacement (r :: table) c := by
        intro c _
        rw [replacement, lookup_cons_ite]
        split
        · exact flatMap_replacement_of_not_mem hr
        · rw [List.flatMap_singleton, replacement]
      calc replaceInTurn (r :: table) cs
          = replaceInTurn table (replaceAll r.1 r.2 cs) := rfl
        _ = (replaceAll r.1 r.2 cs).flatMap (replacement table) := ih htable _
        _ = cs.flatMap (replacement (r :: table)) := by
            rw [replaceAll, List.flatMap_assoc, List.flatMap_congr hstep]

/-- In another order the backslash of a quote is taken for one of the text. -/
example : replaceInTurn [(quote, ['\\', quote]), ('\\', ['\\', '\\'])] [quote] =
    ['\\', '\\', quote] := by decide

/-- The replacements that make the inside of a literal, in their order. -/
def literalReplacements : List (Char × List Char) :=
  [('\\', ['\\', '\\']), (quote, ['\\', quote]), ('\n', ['\\', 'n']), ('\r', ['\\', 'r']),
    ('\t', ['\\', 't'])]

theorem escapeChar_eq_replacement (c : Char) : escapeChar c = replacement literalReplacements c := by
  simp only [escapeChar, replacement, literalReplacements, lookup_cons_ite, List.lookup_nil]
  split_ifs <;> rfl

theorem toList_render_eq_replaceInTurn (text : String) :
    (render text).toList = quote :: replaceInTurn literalReplacements text.toList ++ [quote] := by
  have horder : literalReplacements.Pairwise fun r s => s.1 ∉ r.2 := by decide
  rw [toList_render, replaceInTurn_eq_flatMap horder, funext escapeChar_eq_replacement]

/-! ### Written literals -/

/-- What one pass writes, some replacement writes, or it is no character to be replaced. -/
theorem mem_replacement {table : List (Char × List Char)} {c d : Char}
    (h : d ∈ replacement table c) : (∃ r ∈ table, d ∈ r.2) ∨ ∀ r ∈ table, r.1 ≠ d := by
  cases hc : table.lookup c with
  | some written =>
      obtain ⟨before, after, rfl, -⟩ := List.lookup_eq_some_iff.1 hc
      rw [replacement, hc, Option.getD_some] at h
      exact .inl ⟨(c, written), by simp, h⟩
  | none =>
      rw [replacement, hc, Option.getD_none, List.mem_singleton] at h
      rw [h]
      exact .inr fun r hr => (bne_iff_ne.1 (List.lookup_eq_none_iff.1 hc r hr)).symm

/-- The characters that would break or shift a line. -/
def lineSigns : List Char := ['\n', '\r', '\t']

theorem not_mem_render_of_mem_lineSigns {d : Char} (hd : d ∈ lineSigns) (text : String) :
    d ∉ (render text).toList := by
  have hquote : d ≠ quote := by
    rintro rfl
    exact absurd hd (by decide)
  have hwritten : ∀ c, d ∉ escapeChar c := by
    intro c h
    rw [escapeChar_eq_replacement] at h
    rcases mem_replacement h with ⟨r, hr, hdr⟩ | hkeys
    · have hnone : ∀ r ∈ literalReplacements, ∀ d ∈ r.2, d ∉ lineSigns := by
        simp [literalReplacements, lineSigns, quote]
      exact hnone r hr d hdr hd
    · have hall : ∀ d ∈ lineSigns, ∃ r ∈ literalReplacements, r.1 = d := by
        simp [literalReplacements, lineSigns]
      obtain ⟨r, hr, hkey⟩ := hall d hd
      exact hkeys r hr hkey
  rw [toList_render]
  simp [hquote, hwritten]

/-- **Written literals are read back, and are different for different texts.**  The reader is that of
the spellings: what it finds is spelt in front of the text, and what is spelt there it finds.  A
literal is what five replacements one after the other make of the text, between quotes, and this is
how a constant is written in every environment.  It is read back whatever follows it, and has no
character in it that breaks or shifts a line. -/
theorem written_literals_read_back :
    (∀ (cs rest : List Char) (text : String),
      readString cs = some (text, rest) ↔ SpellsString cs text rest) ∧
    (∀ text : String, (render text).toList =
      quote :: replaceInTurn literalReplacements text.toList ++ [quote]) ∧
    (∀ (text : String) (env : Environment),
      (Literal.text text).render env = ⟨.ok (render text), env, []⟩) ∧
    (∀ (text : String) (rest : List Char),
      readString ((render text).toList ++ rest) = some (text, rest)) ∧
    (∀ text : String, '\n' ∉ (render text).toList ∧ '\r' ∉ (render text).toList ∧
      '\t' ∉ (render text).toList) ∧
    Function.Injective render := by
  refine ⟨fun _ _ _ => readString_eq_some_iff, toList_render_eq_replaceInTurn, fun _ _ => rfl,
    readString_render, fun text => ?_, ?_⟩
  · exact ⟨not_mem_render_of_mem_lineSigns (by decide) text,
      not_mem_render_of_mem_lineSigns (by decide) text,
      not_mem_render_of_mem_lineSigns (by decide) text⟩
  · intro a b h
    -- nothing follows, and the same literal is read twice
    have ha := readString_render a []
    rw [h, readString_render b []] at ha
    cases ha
    rfl

/-- A text of a backslash, the letter that stands for the end of a line, a quote, the end of a line
and one more backslash, in front of another quote; and a backslash that stands for itself. -/
theorem mixed_text_reads_back :
    (render "\\n'\n\\").toList ++ "'n".toList = "'\\\\n\\'\\n\\\\''n".toList ∧
      readString "'\\\\n\\'\\n\\\\''n".toList = some ("\\n'\n\\", "'n".toList) ∧
      readString "'\\m'".toList = some ("\\m", []) ∧
      '\n' ∉ (render "\\n'\n\\").toList ∧ render "\n" ≠ render "\\n" := by
  obtain ⟨hspells, -, -, hread, hsigns, hinjective⟩ := written_literals_read_back
  have hlone : SpellsString "'\\m'".toList "\\m" [] :=
    ⟨"\\m".toList, .lone (by decide) .nil, rfl⟩
  exact ⟨rfl, hread "\\n'\n\\" "'n".toList, (hspells _ _ _).2 hlone, (hsigns _).1,
    fun h => absurd (hinjective h) (by decide)⟩

end CypherQuery.Reading
