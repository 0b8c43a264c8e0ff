/-
**Reading back names, literals and lists.**

A reader takes a value off the front of a text and returns it together with the rest, or fails.
What is written can be read back whatever follows it, as long as what follows cannot be mistaken for
more of it: after a plain name no identifier character may come, after a quoted one no backtick.

Main definitions:

* `CypherQuery.Reading.Reader` — readers;
* `CypherQuery.Reading.readName`, `CypherQuery.Reading.readString`,
  `CypherQuery.Reading.readInteger` — names, string literals and whole numbers;
* `CypherQuery.Reading.readSeparated` — items with a sign between each two.

Main results:

* `CypherQuery.Reading.readName_escape`, `CypherQuery.Reading.readString_render`,
  `CypherQuery.Reading.readInteger_toString` — **what is written is read back**;
* `CypherQuery.Reading.readSeparated_intercalate` — items are read back if each of them is.
-/

import CypherQuery.Text.Identifier
import CypherQuery.Text.StringLiteral
import Mathlib.Data.List.Basic

set_option autoImplicit false

namespace CypherQuery.Reading

/-- A reader takes a value off the front of a text, and returns it with the rest. -/
abbrev Reader (α : Type) := List Char → Option (α × List Char)

/-! ### Fixed texts -/

/-- The rest of a text behind a fixed one. -/
def skip (fixed : String) (cs : List Char) : Option (List Char) := fixed.toList.isPrefixOf? cs

@[simp] theorem skip_append (fixed : String) (rest : List Char) :
    skip fixed (fixed.toList ++ rest) = some rest :=
  List.isPrefixOf?_eq_some_iff_append_eq.mpr rfl

/-! ### Names -/

/-- The rest of a quoted name. -/
def readQuoted : Reader (List Char)
  | [] => none
  | c :: cs =>
      if c = Identifier.backtick then
        match cs with
        | [] => some ([], [])
        | d :: rest =>
            if d = Identifier.backtick then
              (readQuoted rest).map fun r => (Identifier.backtick :: r.1, r.2)
            else some ([], d :: rest)
      else (readQuoted cs).map fun r => (c :: r.1, r.2)

/-- A name, plain or quoted. -/
def readName : Reader String
  | [] => none
  | c :: cs =>
      if c = Identifier.backtick then (readQuoted cs).map fun r => (String.ofList r.1, r.2)
      else if Identifier.isStart c then
        some (String.ofList (c :: cs.takeWhile Identifier.isPart), cs.dropWhile Identifier.isPart)
      else none

/-- Whether a name ends before a text: there is no identifier character and no backtick. -/
def endsName : List Char → Bool
  | [] => true
  | c :: _ => !Identifier.isPart c && c != Identifier.backtick

theorem readQuoted_quotedChars (name : List Char) {rest : List Char}
    (h : endsName rest = true) :
    readQuoted (name.flatMap Identifier.quotedChar ++ Identifier.backtick :: rest) =
      some (name, rest) := by
  induction name with
  | nil =>
      cases rest with
      | nil => rfl
      | cons d rest =>
          have hd : d ≠ Identifier.backtick := by
            simp only [endsName, Bool.and_eq_true, bne_iff_ne] at h
            exact h.2
          simp [readQuoted, hd]
  | cons c name ih =>
      by_cases hc : c = Identifier.backtick
      · subst hc
        simp [Identifier.quotedChar, readQuoted, ih]
      · simp only [List.flatMap_cons, Identifier.quotedChar, hc, if_false, List.cons_append,
          List.nil_append]
        rw [readQuoted.eq_def]
        simp [hc, ih]

theorem takeWhile_append_of_all {p : Char → Bool} {as : List Char} (has : as.all p = true)
    {rest : List Char} (hrest : ∀ c ∈ rest.head?, p c = false) :
    (as ++ rest).takeWhile p = as ∧ (as ++ rest).dropWhile p = rest := by
  rw [List.all_eq_true] at has
  rw [List.takeWhile_append_of_pos has, List.dropWhile_append_of_pos has]
  cases rest with
  | nil => simp
  | cons c rest => simp [hrest c rfl]

/-- A plain identifier takes up all identifier characters, if none follows it. -/
theorem readName_of_isPlain {name : String} (h : Identifier.isPlain name = true) {rest : List Char}
    (hrest : ∀ c ∈ rest.head?, Identifier.isPart c = false) :
    readName (name.toList ++ rest) = some (name, rest) := by
  obtain ⟨c, cs, hcs, hstart, hparts⟩ := Identifier.exists_cons_of_isPlain h
  obtain ⟨htake, hdrop⟩ := takeWhile_append_of_all hparts hrest
  have hc : c ≠ Identifier.backtick := by
    rintro rfl
    exact absurd hstart (by decide)
  have hname : String.ofList (c :: cs) = name := by rw [← hcs, String.ofList_toList]
  rw [hcs, List.cons_append, readName, if_neg hc, if_pos hstart, htake, hdrop, hname]

/-- **A name is read back.** -/
theorem readName_escape (name : String) {rest : List Char} (h : endsName rest = true) :
    readName ((Identifier.escape name).toList ++ rest) = some (name, rest) := by
  cases hplain : Identifier.isPlain name with
  | true =>
      rw [Identifier.escape_of_isPlain hplain]
      refine readName_of_isPlain hplain fun d hd => ?_
      cases rest with
      | nil => cases hd
      | cons e rest =>
          cases hd
          simp only [endsName, Bool.and_eq_true, Bool.not_eq_true'] at h
          exact h.1
  | false =>
      rw [Identifier.toList_escape_of_not_isPlain hplain]
      simp [Identifier.quoted, readName, readQuoted_quotedChars _ h, String.ofList_toList]

/-! ### String literals -/

/-- What a backslash and the character behind it stand for: one character, or the two themselves if
they do not belong together. -/
def unescapePair (c : Char) : List Char :=
  if c = '\\' then ['\\']
  else if c = StringLiteral.quote then [StringLiteral.quote]
  else if c = 'n' then ['\n']
  else if c = 'r' then ['\r']
  else if c = 't' then ['\t']
  else ['\\', c]

/-- The rest of a string literal. -/
def readEscaped : Reader (List Char)
  | [] => none
  | c :: cs =>
      if c = StringLiteral.quote then some ([], cs)
      else if c = '\\' then
        match cs with
        | [] => none
        | d :: rest => (readEscaped rest).map fun r => (unescapePair d ++ r.1, r.2)
      else (readEscaped cs).map fun r => (c :: r.1, r.2)

/-- A string literal. -/
def readString : Reader String
  | [] => none
  | c :: cs =>
      if c = StringLiteral.quote then (readEscaped cs).map fun r => (String.ofList r.1, r.2)
      else none

theorem readEscaped_escapeChar (c : Char) (cs : List Char) :
    readEscaped (StringLiteral.escapeChar c ++ cs) =
      (readEscaped cs).map fun r => (c :: r.1, r.2) := by
  by_cases hbackslash : c = '\\'
  · subst hbackslash
    rfl
  by_cases hquote : c = StringLiteral.quote
  · subst hquote
    rfl
  by_cases hline : c = '\n'
  · subst hline
    rfl
  by_cases hreturn : c = '\r'
  · subst hreturn
    rfl
  by_cases htab : c = '\t'
  · subst htab
    rfl
  simp only [StringLiteral.escapeChar, hbackslash, hquote, hline, hreturn, htab, if_false,
    List.cons_append, List.nil_append]
  rw [readEscaped.eq_def]
  simp [hbackslash, hquote]

/-- **A string literal is read back**, whatever follows. -/
theorem readString_render (text : String) (rest : List Char) :
    readString ((StringLiteral.render text).toList ++ rest) = some (text, rest) := by
  have hescaped : ∀ cs : List Char,
      readEscaped (cs.flatMap StringLiteral.escapeChar ++ StringLiteral.quote :: rest) =
        some (cs, rest) := by
    intro cs
    induction cs with
    | nil =>
        rw [List.flatMap_nil, List.nil_append, readEscaped.eq_def]
        simp
    | cons c cs ih => simp [readEscaped_escapeChar, ih]
  rw [StringLiteral.toList_render]
  simp [readString, hescaped, String.ofList_toList]

/-! ### Whole numbers -/

/-- A number without a sign. -/
def readNatural (cs : List Char) : Option (Nat × List Char) :=
  match cs.takeWhile Char.isDigit with
  | [] => none
  | digits => some (Nat.ofDigitChars 10 digits 0, cs.dropWhile Char.isDigit)

/-- A whole number. -/
def readInteger : Reader Int
  | [] => none
  | c :: cs =>
      if c = '-' then (readNatural cs).map fun r => (-(r.1 : Int), r.2)
      else (readNatural (c :: cs)).map fun r => ((r.1 : Int), r.2)

theorem toList_toString_natural (n : Nat) : (toString n).toList = Nat.toDigits 10 n := by simp

/-- A number without a sign starts with a digit. -/
theorem toString_natural_eq_cons (n : Nat) :
    ∃ d ds, (toString n).toList = d :: ds ∧ d.isDigit = true := by
  rw [toList_toString_natural]
  cases hcs : Nat.toDigits 10 n with
  | nil => exact absurd hcs (by simp)
  | cons d ds =>
      refine ⟨d, ds, rfl, Nat.isDigit_of_mem_toDigits (b := 10) (n := n) (by decide) (by decide) ?_⟩
      rw [hcs]
      exact List.mem_cons_self

theorem toString_negSucc (n : Nat) :
    (toString (Int.negSucc n)).toList = '-' :: (toString (n + 1)).toList := by
  change ("-" ++ toString (n + 1)).toList = _
  simp

/-- A whole number starts with a sign or a digit. -/
theorem toString_integer_eq_cons (n : Int) :
    ∃ c cs, (toString n).toList = c :: cs ∧ (c = '-' ∨ c.isDigit = true) := by
  cases n with
  | negSucc n => exact ⟨'-', _, toString_negSucc n, Or.inl rfl⟩
  | ofNat n =>
      obtain ⟨d, ds, htext, hdigit⟩ := toString_natural_eq_cons n
      exact ⟨d, ds, htext, Or.inr hdigit⟩

theorem readNatural_toString (n : Nat) {rest : List Char}
    (h : ∀ c ∈ rest.head?, c.isDigit = false) :
    readNatural ((toString n).toList ++ rest) = some (n, rest) := by
  obtain ⟨d, ds, htext, -⟩ := toString_natural_eq_cons n
  have hall : (toString n).toList.all Char.isDigit = true := by
    rw [toList_toString_natural]
    exact List.all_eq_true.2 fun c hc => Nat.isDigit_of_mem_toDigits (by decide) (by decide) hc
  obtain ⟨htake, hdrop⟩ := takeWhile_append_of_all hall h
  rw [readNatural, htake, hdrop, htext]
  simp [← htext, Nat.ofDigitChars_ten_toDigits]

/-- **A whole number is read back.** -/
theorem readInteger_toString (n : Int) {rest : List Char}
    (h : ∀ c ∈ rest.head?, c.isDigit = false) :
    readInteger ((toString n).toList ++ rest) = some (n, rest) := by
  cases n with
  | negSucc n =>
      -- behind the sign stands the number without it
      rw [toString_negSucc, List.cons_append, readInteger, if_pos rfl, readNatural_toString _ h]
      rfl
  | ofNat n =>
      have hread := readNatural_toString n h
      obtain ⟨d, ds, htext, hdigit⟩ := toString_natural_eq_cons n
      have hd : d ≠ '-' := by
        rintro rfl
        exact absurd hdigit (by decide)
      change readInteger ((toString n).toList ++ rest) = _
      rw [htext, List.cons_append] at hread ⊢
      rw [readInteger, if_neg hd, hread]
      rfl

/-! ### Items with a sign between each two -/

/-- Items, at least one, with a sign between each two and a closing text behind the last.  Every
item and every sign have to be taken off the text. -/
def readSeparated {α : Type} (item : Reader α) (sign closing : String) (cs : List Char) :
    Option (List α × List Char) := do
  let (a, following) ← item cs
  match skip closing following with
  | some rest => some ([a], rest)
  | none =>
      let next ← skip sign following
      if next.length < cs.length then
        let (as, rest) ← readSeparated item sign closing next
        some (a :: as, rest)
      else none
termination_by cs.length

/-- Any number of items. -/
def readItems {α : Type} (item : Reader α) (sign closing : String) : Reader (List α) := fun cs =>
  readSeparated item sign closing cs <|> (skip closing cs).map fun rest => ([], rest)

/-- A sign and a closing text behind which items end, and which cannot be mistaken for each
other. -/
structure Separates (ends : List Char → Bool) (sign closing : String) : Prop where
  /-- The sign is something. -/
  sign_ne : sign.toList ≠ []
  /-- Where the sign stands, the closing text does not. -/
  skip_closing : ∀ rest, skip closing (sign.toList ++ rest) = none
  /-- Items end before the sign. -/
  ends_sign : ∀ rest, ends (sign.toList ++ rest) = true
  /-- Items end before the closing text. -/
  ends_closing : ∀ rest, ends (closing.toList ++ rest) = true

section Items

variable {α β : Type} {item : Reader α} {written : β → List Char} {value : β → α}
  {ends : List Char → Bool} {sign closing : String} (h : Separates ends sign closing) {bs : List β}
  (hitem : ∀ b ∈ bs, ∀ following, ends following = true →
    item (written b ++ following) = some (value b, following))

include h hitem

/-- **Items are read back** if each of them is, wherever an item ends. -/
theorem readSeparated_intercalate (hne : bs ≠ []) (rest : List Char) :
    readSeparated item sign closing
      (List.intercalate sign.toList (bs.map written) ++ (closing.toList ++ rest)) =
        some (bs.map value, rest) := by
  induction bs with
  | nil => exact absurd rfl hne
  | cons b bs ih =>
      rw [List.forall_mem_cons] at hitem
      cases bs with
      | nil =>
          rw [readSeparated, List.map_singleton, List.intercalate_singleton,
            hitem.1 _ (h.ends_closing rest)]
          simp
      | cons c cs =>
          -- behind the first item stands the sign, so the closing text does not
          have hrest := ih hitem.2 (List.cons_ne_nil c cs)
          simp only [List.map_cons, List.intercalate_cons_cons, List.append_assoc] at hrest ⊢
          rw [readSeparated, hitem.1 _ (h.ends_sign _)]
          have hlength : 0 < sign.toList.length := List.length_pos_iff.2 h.sign_ne
          simp [h.skip_closing, hrest]
          omega

/-- Any number of items is read back, if the closing text is no item. -/
theorem readItems_intercalate (hclosing : ∀ rest, item (closing.toList ++ rest) = none)
    (rest : List Char) :
    readItems item sign closing
      (List.intercalate sign.toList (bs.map written) ++ (closing.toList ++ rest)) =
        some (bs.map value, rest) := by
  cases bs with
  | nil =>
      have hnone : readSeparated item sign closing (closing.toList ++ rest) = none := by
        rw [readSeparated, hclosing]
        rfl
      simp [readItems, hnone]
  | cons b bs =>
      rw [readItems, readSeparated_intercalate h hitem (List.cons_ne_nil b bs)]
      rfl

end Items

end CypherQuery.Reading
