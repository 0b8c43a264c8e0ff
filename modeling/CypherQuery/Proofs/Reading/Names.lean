/-
**What a reader of names reads.**

A name stands in front of a text in one of two spellings.  It is a plain identifier, which goes on
as long as there are identifier characters; or it stands between backticks, where two backticks are
one of the name and a single one is the end.  The reader finds exactly these two spellings, so each
text has at most one name in front.

A written name is one or the other.  It is read back, and nothing more than it, as long as the text
behind it does not go on with it; so two names are never written alike, be they plain or quoted,
empty, or made of backticks.

Main definitions:

* `CypherQuery.Reading.SpellsQuoted`, `CypherQuery.Reading.SpellsName` — **the two spellings**.

Main results:

* `CypherQuery.Reading.readName_eq_some_iff` — the reader finds exactly the two spellings;
* `CypherQuery.Reading.spellsName_escape_iff` — when a written name is in front of a text;
* `CypherQuery.Reading.written_names_read_back` — **written names are read back, and are different
  for different names**.
-/

import CypherQuery.Proofs.Reading.Lexical

set_option autoImplicit false

namespace CypherQuery.Reading

open CypherQuery.Identifier

/-! ### The two spellings -/

/-- **The inside of a quoted name**: two backticks stand for one, and every other character for
itself. -/
inductive SpellsQuoted : List Char → List Char → Prop where
  /-- Nothing. -/
  | nil : SpellsQuoted [] []
  /-- Two backticks. -/
  | backticks {body name : List Char} (h : SpellsQuoted body name) :
      SpellsQuoted (backtick :: backtick :: body) (backtick :: name)
  /-- Another character. -/
  | other {c : Char} {body name : List Char} (hc : c ≠ backtick) (h : SpellsQuoted body name) :
      SpellsQuoted (c :: body) (c :: name)

/-- **A name in front of a text**, with the rest of the text. -/
inductive SpellsName : List Char → String → List Char → Prop where
  /-- A plain identifier that does not go on. -/
  | plain {name : String} {rest : List Char} (h : isPlain name = true)
      (hrest : ∀ c ∈ rest.head?, isPart c = false) : SpellsName (name.toList ++ rest) name rest
  /-- A name between backticks, the last of which is not followed by another. -/
  | quoted {body name rest : List Char} (h : SpellsQuoted body name)
      (hrest : ∀ c ∈ rest.head?, c ≠ backtick) :
      SpellsName (backtick :: (body ++ backtick :: rest)) (String.ofList name) rest

/-! ### The reader -/

theorem readQuoted_of_spells {body name : List Char} (h : SpellsQuoted body name)
    {rest : List Char} (hrest : ∀ c ∈ rest.head?, c ≠ backtick) :
    readQuoted (body ++ backtick :: rest) = some (name, rest) := by
  induction h with
  | nil =>
      cases rest with
      | nil => rfl
      | cons d rest => simp [readQuoted, hrest d rfl]
  | backticks _ ih => simp [readQuoted, ih]
  | other hc _ ih =>
      rw [List.cons_append, readQuoted.eq_def]
      simp [hc, ih]

theorem spells_of_readQuoted {cs : List Char} : ∀ {name rest : List Char},
    readQuoted cs = some (name, rest) →
      ∃ body, SpellsQuoted body name ∧ cs = body ++ backtick :: rest ∧
        ∀ c ∈ rest.head?, c ≠ backtick := by
  fun_induction readQuoted cs with
  | case1 => intro name rest h; cases h
  | case2 =>
      rintro _ _ ⟨⟩
      exact ⟨[], .nil, rfl, nofun⟩
  | case3 cs ih =>
      -- a doubled backtick belongs to the name
      intro name rest h
      obtain ⟨⟨inner, following⟩, hread, hr⟩ := Option.map_eq_some_iff.1 h
      cases hr
      obtain ⟨body, hbody, rfl, hrest⟩ := ih hread
      exact ⟨_, .backticks hbody, rfl, hrest⟩
  | case4 d cs hd =>
      rintro _ _ ⟨⟩
      refine ⟨[], .nil, rfl, ?_⟩
      rintro c ⟨⟩
      exact hd
  | case5 c cs hc ih =>
      intro name rest h
      obtain ⟨⟨inner, following⟩, hread, hr⟩ := Option.map_eq_some_iff.1 h
      cases hr
      obtain ⟨body, hbody, rfl, hrest⟩ := ih hread
      exact ⟨_, .other hc hbody, rfl, hrest⟩

/-- **The reader finds exactly the two spellings.** -/
theorem readName_eq_some_iff {cs rest : List Char} {name : String} :
    readName cs = some (name, rest) ↔ SpellsName cs name rest := by
  constructor
  · intro h
    cases cs with
    | nil => cases h
    | cons c cs =>
        rw [readName] at h
        split at h
        next hc =>
          obtain ⟨⟨inner, following⟩, hread, hr⟩ := Option.map_eq_some_iff.1 h
          cases hr
          obtain ⟨body, hbody, rfl, hrest⟩ := spells_of_readQuoted hread
          rw [hc]
          exact .quoted hbody hrest
        next =>
          split at h
          next hstart =>
            cases h
            have hcs : c :: cs =
                (String.ofList (c :: cs.takeWhile isPart)).toList ++ cs.dropWhile isPart := by
              simp
            rw [hcs]
            refine .plain ?_ ?_
            · simp [isPlain, isPlainSpelling, hstart]
            · intro d hd
              have hhead := List.head?_dropWhile_not isPart cs
              rw [Option.mem_def.1 hd] at hhead
              exact hhead
          next => cases h
  · rintro (⟨hplain, hrest⟩ | ⟨hbody, hrest⟩)
    · exact readName_of_isPlain hplain hrest
    · rw [readName, if_pos rfl, readQuoted_of_spells hbody hrest]
      rfl

/-! ### Written names -/

theorem spellsQuoted_quotedChars (name : List Char) :
    SpellsQuoted (name.flatMap quotedChar) name := by
  induction name with
  | nil => exact .nil
  | cons c name ih =>
      by_cases hc : c = backtick
      · subst hc
        exact .backticks ih
      · rw [List.flatMap_cons, quotedChar, if_neg hc]
        exact .other hc ih

/-- **When a written name is in front of a text**: if the text does not go on with it. -/
theorem spellsName_escape_iff {name : String} {rest : List Char} :
    SpellsName ((escape name).toList ++ rest) name rest ↔
      ∀ c ∈ rest.head?, if isPlain name then isPart c = false else c ≠ backtick := by
  cases hplain : isPlain name with
  | true =>
      simp only [if_true]
      rw [escape_of_isPlain hplain]
      refine ⟨fun h => ?_, .plain hplain⟩
      generalize hcs : name.toList ++ rest = cs at h
      cases h with
      | plain _ hrest => exact hrest
      | quoted _ _ =>
          -- no plain identifier starts with a backtick
          obtain ⟨c, tail, hname, hstart, -⟩ := exists_cons_of_isPlain hplain
          rw [hname] at hcs
          obtain rfl : c = backtick := (List.cons.inj hcs).1
          exact absurd hstart (by decide)
  | false =>
      simp only [Bool.false_eq_true, if_false]
      rw [toList_escape_of_not_isPlain hplain]
      constructor
      · intro h
        generalize quoted name.toList ++ rest = cs at h
        cases h with
        | plain h _ =>
            rw [hplain] at h
            cases h
        | quoted _ hrest => exact hrest
      · intro hrest
        have h := SpellsName.quoted (spellsQuoted_quotedChars name.toList) hrest
        rw [String.ofList_toList] at h
        simpa [quoted] using h

/-- **Written names are read back, and are different for different names.**  The reader is that of
the two spellings: what it finds is spelt in front of the text, and what is spelt there it finds.  A
written name is read back from any text that does not go on with an identifier character or a
backtick.  Of these two, a plain name may still be followed by a backtick, and a quoted one by an
identifier character. -/
theorem written_names_read_back :
    (∀ (cs rest : List Char) (name : String),
      readName cs = some (name, rest) ↔ SpellsName cs name rest) ∧
    (∀ (name : String) (rest : List Char), endsName rest = true →
      readName ((escape name).toList ++ rest) = some (name, rest)) ∧
    (∀ (name : String) (rest : List Char),
      readName ((escape name).toList ++ rest) = some (name, rest) ↔
        ∀ c ∈ rest.head?, if isPlain name then isPart c = false else c ≠ backtick) ∧
    Function.Injective escape := by
  refine ⟨fun _ _ _ => readName_eq_some_iff, fun name rest h => readName_escape name h,
    fun _ _ => readName_eq_some_iff.trans spellsName_escape_iff, ?_⟩
  intro a b h
  -- nothing follows, and the same text is read twice
  have hread : ∀ name, readName ((escape name).toList ++ []) = some (name, []) :=
    fun name => readName_escape name rfl
  have ha := hread a
  rw [h, hread b] at ha
  cases ha
  rfl

/-- A name of two backticks is read back before an arrow, and so is the empty one, which is not
written like any other. -/
theorem backticks_read_back :
    endsName "]->".toList = true ∧
      (escape "\x60\x60").toList ++ "]->".toList = "\x60\x60\x60\x60\x60\x60]->".toList ∧
      readName "\x60\x60\x60\x60\x60\x60]->".toList = some ("\x60\x60", "]->".toList) ∧
      readName "\x60\x60]->".toList = some ("", "]->".toList) ∧
      escape "" ≠ escape "\x60\x60" := by
  obtain ⟨-, hread, -, hinjective⟩ := written_names_read_back
  exact ⟨rfl, rfl, hread "\x60\x60" "]->".toList rfl, hread "" "]->".toList rfl,
    fun h => absurd (hinjective h) (by decide)⟩

end CypherQuery.Reading
