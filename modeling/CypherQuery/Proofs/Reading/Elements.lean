/-
**The elements of a pattern are read back.**

The parts of an element have no separators of their own, and any of them may be missing.  They can
be told apart because each starts with a character of its own, with which no later part starts; so
one has to know, part by part, with which characters the rest of an element can start.

Main definitions:

* `CypherQuery.Reading.StartsWith` — which character comes first;
* `CypherQuery.Reading.endings`, `CypherQuery.Reading.beforeProperties`,
  `CypherQuery.Reading.beforeLength`, `CypherQuery.Reading.beforeAnnotations` — the characters
  behind the parts of an element;
* `CypherQuery.PatternElement.ReadsBack` — what has to hold of an element.

Main results:

* `CypherQuery.Reading.readChain_intercalate` — items behind which anything else may come;
* `CypherQuery.Reading.readNode_chars`, `CypherQuery.Reading.readRelationship_chars` —
  **the elements of a pattern are read back**.
-/

import CypherQuery.Proofs.Reading.Pattern
import CypherQuery.Proofs.Template.Pattern

set_option autoImplicit false

namespace CypherQuery

namespace Template

/-- The characters of a template, with names that are known. -/
def chars (ν : Naming) (t : Template) : List Char := (t.fill ν).toList

variable (ν : Naming)

@[simp] theorem chars_nil : chars ν [] = [] := by simp [chars]

@[simp] theorem chars_cons (piece : Piece) (t : Template) :
    chars ν (piece :: t) = (piece.write ν).toList ++ chars ν t := by
  simp [chars]

@[simp] theorem chars_append (t u : Template) : chars ν (t ++ u) = chars ν t ++ chars ν u := by
  simp [chars]

theorem chars_flatMap {α : Type} (template : α → Template) (as : List α) :
    chars ν (as.flatMap template) = as.flatMap fun a => chars ν (template a) := by
  induction as with
  | nil => simp
  | cons a rest ih => simp [ih]

end Template

namespace Reading

/-! ### Which character comes first -/

/-- Whether a text starts with one of several characters. -/
def StartsWith (allowed : List Char) (cs : List Char) : Prop :=
  ∃ c ∈ allowed, ∃ rest, cs = c :: rest

theorem StartsWith.mono {allowed more : List Char} {cs : List Char} (h : StartsWith allowed cs)
    (hsub : allowed ⊆ more) : StartsWith more cs := by
  obtain ⟨c, hc, rest, rfl⟩ := h
  exact ⟨c, hsub hc, rest, rfl⟩

/-- Behind a part that may be empty, the rest comes first if it is. -/
theorem startsWith_append {firsts allowed part rest : List Char}
    (hpart : part = [] ∨ StartsWith firsts part) (hrest : StartsWith allowed rest) :
    StartsWith (firsts ++ allowed) (part ++ rest) := by
  rcases hpart with rfl | ⟨c, hc, following, rfl⟩
  · exact hrest.mono (List.subset_append_right firsts allowed)
  · exact ⟨c, List.mem_append_left allowed hc, following ++ rest, rfl⟩

theorem skip_cons_of_ne {fixed : String} {c d : Char} {ds : List Char}
    (h : fixed.toList = d :: ds) (hc : d ≠ c) (cs : List Char) : skip fixed (c :: cs) = none := by
  simp [skip, h, List.isPrefixOf?, hc]

/-- The characters that close an element. -/
def endings : List Char := [')', ']']

/-- The characters that can stand behind the labels of a node, or the length of a relationship. -/
def beforeProperties : List Char := [' ', '\x7b'] ++ endings

/-- The characters that can stand behind the type of a relationship. -/
def beforeLength : List Char := ['*'] ++ beforeProperties

/-- The characters that can stand behind the variable of an element. -/
def beforeAnnotations : List Char := [':'] ++ beforeLength

theorem endsName_of_startsWith {cs : List Char} (h : StartsWith beforeAnnotations cs) :
    endsName cs = true := by
  have hall : ∀ c ∈ beforeAnnotations, endsName [c] = true := List.all_eq_true.1 rfl
  obtain ⟨c, hc, rest, rfl⟩ := h
  exact hall c hc

theorem readName_of_startsWith {cs : List Char} (h : StartsWith beforeAnnotations cs) :
    readName cs = none := by
  have hall : ∀ c ∈ beforeAnnotations, c ≠ Identifier.backtick ∧ Identifier.isStart c = false := by
    simp [beforeAnnotations, beforeLength, beforeProperties, endings, Identifier.backtick,
      Identifier.isStart]
  obtain ⟨c, hc, rest, rfl⟩ := h
  simp [readName, hall c hc]

/-- Behind the labels, no label operator stands. -/
theorem skip_separator_of_startsWith (op : LabelOperator) {cs : List Char}
    (h : StartsWith beforeProperties cs) : skip op.separator cs = none := by
  have hall : ∀ c ∈ beforeProperties, ':' ≠ c ∧ '&' ≠ c := by simp [beforeProperties, endings]
  obtain ⟨c, hc, rest, rfl⟩ := h
  cases op with
  | colon => exact skip_cons_of_ne rfl (hall c hc).1 rest
  | ampersand => exact skip_cons_of_ne rfl (hall c hc).2 rest

theorem skip_colon_of_startsWith {cs : List Char} (h : StartsWith beforeLength cs) :
    skip ":" cs = none := by
  have hall : ∀ c ∈ beforeLength, ':' ≠ c := by simp [beforeLength, beforeProperties, endings]
  obtain ⟨c, hc, rest, rfl⟩ := h
  exact skip_cons_of_ne rfl (hall c hc) rest

theorem skip_star_of_startsWith {cs : List Char} (h : StartsWith beforeProperties cs) :
    skip "*" cs = none := by
  have hall : ∀ c ∈ beforeProperties, '*' ≠ c := by simp [beforeProperties, endings]
  obtain ⟨c, hc, rest, rfl⟩ := h
  exact skip_cons_of_ne rfl (hall c hc) rest

/-! ### Parts that may be missing -/

section

variable {α : Type} {part : Reader α} {cs rest : List Char} {a : α}

theorem readOr_of_some (missing : α) (h : part cs = some (a, rest)) :
    readOr missing part cs = some (a, rest) := by
  simp [readOr, h]

theorem readOr_of_none (missing : α) (h : part cs = none) :
    readOr missing part cs = some (missing, cs) := by
  simp [readOr, h]

theorem readIf_of_some (h : part cs = some (a, rest)) : readIf part cs = some (some a, rest) := by
  simp [readIf, readOr, h]

theorem readIf_of_none (h : part cs = none) : readIf part cs = some (none, cs) := by
  simp [readIf, readOr, h]

theorem readMarked_append (sign : String) (part : Reader α) (cs : List Char) :
    readMarked sign part (sign.toList ++ cs) = part cs := by
  simp [readMarked]

theorem readMarked_of_none {sign : String} (part : Reader α) (h : skip sign cs = none) :
    readMarked sign part cs = none := by
  simp [readMarked, h]

end

/-- **Items are read back** if each of them is, in front of the sign and of what follows the
last. -/
theorem readChain_intercalate {α β : Type} {item : Reader α} {written : β → List Char}
    {value : β → α} {sign : String} {rest : List Char} (hsign : sign.toList ≠ [])
    (hrest : skip sign rest = none) {bs : List β} (hne : bs ≠ [])
    (hbetween : ∀ b ∈ bs, ∀ following, item (written b ++ (sign.toList ++ following)) =
      some (value b, sign.toList ++ following))
    (hlast : ∀ b ∈ bs, item (written b ++ rest) = some (value b, rest)) :
    readChain item sign (List.intercalate sign.toList (bs.map written) ++ rest) =
      some (bs.map value, rest) := by
  induction bs with
  | nil => exact absurd rfl hne
  | cons b bs ih =>
      rw [List.forall_mem_cons] at hbetween hlast
      cases bs with
      | nil =>
          rw [readChain, List.map_singleton, List.intercalate_singleton, hlast.1]
          simp [hrest]
      | cons c cs =>
          have htail := ih (List.cons_ne_nil c cs) hbetween.2 hlast.2
          have hlength : 0 < sign.toList.length := List.length_pos_iff.2 hsign
          simp only [List.map_cons, List.intercalate_cons_cons, List.append_assoc] at htail ⊢
          rw [readChain, hbetween.1]
          simp [htail]
          omega

/-! ### Parts of elements -/

variable {owners : Owners} {ν : Naming}

/-- The variable of an element is read back, or found missing. -/
theorem readIf_variable {v : Variable} {shown : Bool}
    (hv : shown = true → owners.variableOf (ν.ofVariable v) = some v) {rest : List Char}
    (h : StartsWith beforeAnnotations rest) :
    readIf (readVariable owners) ((nameTemplate v shown).chars ν ++ rest) =
      some (shownVariable v shown, rest) := by
  cases shown with
  | false =>
      have hnone : readVariable owners rest = none := by
        simp [readVariable, readName_of_startsWith h]
      exact readIf_of_none hnone
  | true =>
      have hname := readName_escape (ν.ofVariable v) (endsName_of_startsWith h)
      have hchars : (nameTemplate v true).chars ν =
          (Identifier.escape (ν.ofVariable v)).toList := by
        simp [nameTemplate, Piece.write]
      refine readIf_of_some ?_
      simp [readVariable, hchars, hname, hv rfl]

/-- The characters of labels. -/
theorem chars_labelTemplate {node : NodePattern} (h : node.shownLabels ≠ []) :
    node.labelTemplate.chars ν = ":".toList ++
      List.intercalate ν.labelOperator.separator.toList
        (node.shownLabels.map fun label => (Identifier.escape label).toList) := by
  have hlabel : ∀ label : String, (Template.fill ν [.text (Identifier.escape label)]).toList =
      (Identifier.escape label).toList := by
    intro label
    simp [Piece.write]
  have hjoined := Expression.toList_fill_joined ν hlabel .labelSign node.shownLabels
  rw [NodePattern.labelTemplate, if_neg (by simpa using h), Template.chars_cons]
  exact congrArg (":".toList ++ ·) hjoined

theorem startsWith_labelTemplate (node : NodePattern) :
    node.labelTemplate.chars ν = [] ∨ StartsWith [':'] (node.labelTemplate.chars ν) := by
  by_cases h : node.shownLabels = []
  · exact .inl (by simp [NodePattern.labelTemplate, h])
  · rw [chars_labelTemplate h]
    exact .inr ⟨':', by decide, _, rfl⟩

/-- The labels of a node are read back. -/
theorem readOr_labels (node : NodePattern) {rest : List Char}
    (h : StartsWith beforeProperties rest) :
    readOr [] (readMarked ":" (readChain readName ν.labelOperator.separator))
      (node.labelTemplate.chars ν ++ rest) = some (node.shownLabels, rest) := by
  have hends : StartsWith beforeAnnotations rest := h.mono (by decide)
  by_cases hlabels : node.shownLabels = []
  · have hnone := skip_colon_of_startsWith (h.mono (by decide))
    rw [NodePattern.labelTemplate, hlabels]
    exact readOr_of_none [] (readMarked_of_none _ hnone)
  · have hsign : ν.labelOperator.separator.toList ≠ [] ∧
        ∀ following, endsName (ν.labelOperator.separator.toList ++ following) = true := by
      cases ν.labelOperator <;> exact ⟨by decide, fun _ => rfl⟩
    have hchain : readChain readName ν.labelOperator.separator
        (List.intercalate ν.labelOperator.separator.toList
          (node.shownLabels.map fun label => (Identifier.escape label).toList) ++ rest) =
            some (node.shownLabels.map id, rest) :=
      readChain_intercalate hsign.1 (skip_separator_of_startsWith ν.labelOperator h) hlabels
        (fun label _ following => readName_escape label (hsign.2 following))
        (fun label _ => readName_escape label (endsName_of_startsWith hends))
    rw [List.map_id] at hchain
    rw [chars_labelTemplate hlabels, List.append_assoc]
    refine readOr_of_some [] ?_
    rw [readMarked_append, hchain]

/-- The type of a relationship is read back, or found missing. -/
theorem readIf_type (rel : RelationshipPattern) {rest : List Char}
    (h : StartsWith beforeLength rest) :
    readIf (readMarked ":" readName) (rel.typeText.toList ++ rest) =
      some (rel.shownType, rest) := by
  cases htype : rel.shownType with
  | none =>
      have htext : rel.typeText.toList = [] := by simp [RelationshipPattern.typeText, htype]
      rw [htext]
      exact readIf_of_none (readMarked_of_none readName (skip_colon_of_startsWith h))
  | some relationType =>
      have htext : rel.typeText.toList = ":".toList ++ (Identifier.escape relationType).toList := by
        simp [RelationshipPattern.typeText, htype]
      have hends : StartsWith beforeAnnotations rest := h.mono (by decide)
      rw [htext, List.append_assoc]
      refine readIf_of_some ?_
      rw [readMarked_append, readName_escape relationType (endsName_of_startsWith hends)]

theorem startsWith_typeText (rel : RelationshipPattern) :
    rel.typeText.toList = [] ∨ StartsWith [':'] rel.typeText.toList := by
  unfold RelationshipPattern.typeText
  cases rel.shownType with
  | none => exact .inl rfl
  | some relationType =>
      exact .inr ⟨':', by decide, (Identifier.escape relationType).toList, by simp⟩

/-! ### Lengths -/

/-- A bound is read back, or found missing. -/
theorem readIf_bound (bound : Option Nat) {rest : List Char}
    (h : ∀ c ∈ rest.head?, c.isDigit = false) :
    readIf readNatural ((PathLength.boundText bound).toList ++ rest) = some (bound, rest) := by
  cases bound with
  | none =>
      have hnone : readNatural rest = none := by
        cases rest with
        | nil => rfl
        | cons c cs => simp [readNatural, h c rfl]
      exact readIf_of_none hnone
  | some n => exact readIf_of_some (readNatural_toString n h)

/-- Whether a text does not go on with what could belong to a bound. -/
def EndsBounds (cs : List Char) : Prop := ∀ c ∈ cs.head?, c.isDigit = false ∧ c ≠ '.'

theorem endsBounds_nil : EndsBounds [] := nofun

theorem endsBounds_of_startsWith {cs : List Char} (h : StartsWith beforeProperties cs) :
    EndsBounds cs := by
  have hall : ∀ c ∈ beforeProperties, c.isDigit = false ∧ c ≠ '.' := by
    simp [beforeProperties, endings]
  obtain ⟨c, hc, rest, rfl⟩ := h
  rintro d ⟨⟩
  exact hall c hc

/-- A length with a single number, or none. -/
theorem readBounds_single (bound : Option Nat) {rest : List Char} (h : EndsBounds rest) :
    readBounds ((PathLength.boundText bound).toList ++ rest) =
      some (bound.elim .any .exactly, rest) := by
  have hdots : skip ".." rest = none := by
    cases rest with
    | nil => rfl
    | cons c cs => exact skip_cons_of_ne rfl (h c rfl).2.symm cs
  simp [readBounds, readIf_bound bound (fun c hc => (h c hc).1), hdots]

/-- A length with dots between its bounds. -/
theorem readBounds_range (least greatest : Option Nat) {rest : List Char} (h : EndsBounds rest) :
    readBounds ((PathLength.boundText least).toList ++
        ("..".toList ++ ((PathLength.boundText greatest).toList ++ rest))) =
      some (.between least greatest, rest) := by
  have hleast : readIf readNatural ((PathLength.boundText least).toList ++
      ("..".toList ++ ((PathLength.boundText greatest).toList ++ rest))) = some (least, _) :=
    readIf_bound least (by rintro d ⟨⟩; rfl)
  simp only [readBounds, hleast, skip_append, readIf_bound greatest (fun c hc => (h c hc).1),
    Option.bind_eq_bind, Option.bind_some]

/-- **A length is read back.** -/
theorem readBounds_render (length : PathLength) {rest : List Char} (h : EndsBounds rest) :
    readMarked "*" readBounds (length.render.toList ++ rest) = some (length.normal, rest) := by
  have hmarked : ∀ text : String, readMarked "*" readBounds (("*" ++ text).toList ++ rest) =
      readBounds (text.toList ++ rest) := by
    intro text
    rw [String.toList_append, List.append_assoc, readMarked_append]
  cases length with
  | exactly hops => exact (hmarked (toString hops)).trans (readBounds_single (some hops) h)
  | any => exact (hmarked "").trans (readBounds_single none h)
  | between least greatest =>
      have hbetween := readBounds_range least greatest h
      -- dots are written if there is a bound
      rcases least with _ | least <;> rcases greatest with _ | greatest
      · exact (hmarked "").trans (readBounds_single none h)
      all_goals
        simp only [PathLength.render, String.append_assoc]
        rw [hmarked]
        simp only [String.toList_append, List.append_assoc]
        exact hbetween

theorem startsWith_render (length : PathLength) : StartsWith ['*'] length.render.toList := by
  have hstar : ∀ text : String, StartsWith ['*'] ("*" ++ text).toList := fun text =>
    ⟨'*', by decide, text.toList, by simp⟩
  unfold PathLength.render
  split
  · exact hstar _
  · exact hstar ""
  · rw [String.append_assoc, String.append_assoc]
    exact hstar _
  · exact hstar ""

/-- The length of a relationship is read back, or found missing. -/
theorem readIf_length (rel : RelationshipPattern) {rest : List Char}
    (h : StartsWith beforeProperties rest) :
    readIf (readMarked "*" readBounds) (rel.lengthText.toList ++ rest) =
      some (rel.length.map PathLength.normal, rest) := by
  unfold RelationshipPattern.lengthText
  cases rel.length with
  | none => exact readIf_of_none (readMarked_of_none readBounds (skip_star_of_startsWith h))
  | some length => exact readIf_of_some (readBounds_render length (endsBounds_of_startsWith h))

theorem startsWith_lengthText (rel : RelationshipPattern) :
    rel.lengthText.toList = [] ∨ StartsWith ['*'] rel.lengthText.toList := by
  unfold RelationshipPattern.lengthText
  cases rel.length with
  | none => exact .inl rfl
  | some length => exact .inr (startsWith_render length)

/-! ### Properties -/

/-- The characters of properties, of which there are some. -/
theorem chars_propertiesTemplate (first : Bool) {properties : List (String × Expression)}
    (h : properties ≠ []) : (propertiesTemplate first properties).chars ν =
      (if first then [] else " ".toList) ++ (Expression.map properties).chars ν := by
  rw [propertiesTemplate, if_neg (by simpa using h), Template.chars_append]
  cases first <;> simp [Template.chars, Expression.chars, Expression.template, Piece.write]

theorem startsWith_propertiesTemplate (first : Bool) (properties : List (String × Expression)) :
    (propertiesTemplate first properties).chars ν = [] ∨
      StartsWith [' ', '\x7b'] ((propertiesTemplate first properties).chars ν) := by
  by_cases h : properties = []
  · exact .inl (by simp [propertiesTemplate, h])
  · rw [chars_propertiesTemplate first h, Expression.chars_map]
    cases first with
    | true => exact .inr ⟨'\x7b', by decide, _, rfl⟩
    | false => exact .inr ⟨' ', by decide, _, rfl⟩

/-- The properties of an element are read back. -/
theorem readOr_map {inner : Reader Expression} {first : Bool}
    {properties : List (String × Expression)}
    (hvalue : ∀ entry ∈ properties, ∀ following, endsExpression following = true →
      inner (entry.2.chars ν ++ following) = some (entry.2.normal, following))
    {rest : List Char} (h : StartsWith endings rest) :
    readOr [] (readMap inner) ((propertiesTemplate first properties).chars ν ++ rest) =
      some (properties.map Expression.normalEntry, rest) := by
  by_cases hproperties : properties = []
  · have hnone : readMap inner rest = none := by
      have hall : ∀ c ∈ endings, ' ' ≠ c ∧ '\x7b' ≠ c := by simp [endings]
      obtain ⟨c, hc, cs, rfl⟩ := h
      rw [readMap, skip_cons_of_ne rfl (hall c hc).1]
      exact readMarked_of_none _ (skip_cons_of_ne rfl (hall c hc).2 cs)
    rw [hproperties]
    exact readOr_of_none [] hnone
  · -- the space, if there is one, is skipped
    have hskip : (skip " " ((propertiesTemplate first properties).chars ν ++ rest)).getD
        ((propertiesTemplate first properties).chars ν ++ rest) =
          (Expression.map properties).chars ν ++ rest := by
      rw [chars_propertiesTemplate first hproperties, Expression.chars_map]
      cases first <;> rfl
    have hitems := readItems_entries hvalue rest
    refine readOr_of_some [] ?_
    rw [readMap, hskip, Expression.chars_map, List.append_assoc, readMarked_append,
      List.append_assoc, hitems]

end Reading

/-! ### Elements -/

open Reading

/-- **What has to hold of an element of a pattern that can be read back**: its variable has a name
of its own, if it is shown, and the values of its properties are read back. -/
structure PatternElement.ReadsBack (owners : Owners) (ν : Naming) (inner : Reader Expression)
    (x : PatternElement) : Prop where
  /-- The variable has a name of its own. -/
  subject : x.shown = true → owners.variableOf (ν.ofVariable x.identity) = some x.identity
  /-- The values of the properties are read back. -/
  values : ∀ entry ∈ x.properties, ∀ following, endsExpression following = true →
    inner (entry.2.chars ν ++ following) = some (entry.2.normal, following)

/-- The template of a relationship, from what stands in its brackets. -/
theorem Direction.arrowTemplate_eq (d : Direction) (t : Template) :
    d.arrowTemplate t = .text d.opening :: t ++ [.text d.closing] := by
  cases d <;> rfl

/-- The template of what stands in the brackets of a relationship with its annotations. -/
def RelationshipPattern.bracketTemplate (rel : RelationshipPattern) : Template :=
  nameTemplate rel.identity rel.showsVariable ++ rel.annotationTemplate

namespace Reading

variable {owners : Owners} {ν : Naming} {inner : Reader Expression}

/-- **A node is read back.** -/
theorem readNode_chars {node : NodePattern} (h : node.element.ReadsBack owners ν inner)
    (rest : List Char) :
    readNode owners ν.labelOperator.separator inner ((node.template true).chars ν ++ rest) =
      some (node.printed, rest) := by
  let properties := propertiesTemplate (!node.showsVariable && node.shownLabels.isEmpty)
    node.properties
  have hending : StartsWith endings (")".toList ++ rest) := ⟨')', by decide, rest, rfl⟩
  have hbefore : StartsWith beforeProperties (properties.chars ν ++ (")".toList ++ rest)) :=
    startsWith_append (startsWith_propertiesTemplate _ _) hending
  have hafter : StartsWith beforeAnnotations
      (node.labelTemplate.chars ν ++ (properties.chars ν ++ (")".toList ++ rest))) :=
    (startsWith_append (startsWith_labelTemplate node) hbefore).mono (by decide)
  have hsubject : readIf (readVariable owners)
      ((nameTemplate node.identity node.showsVariable).chars ν ++ _) =
        some (shownVariable node.identity node.showsVariable, _) := readIf_variable h.subject hafter
  have hproperties : readOr [] (readMap inner) (properties.chars ν ++ (")".toList ++ rest)) =
      some (node.properties.map Expression.normalEntry, _) := readOr_map h.values hending
  have hchars : (node.template true).chars ν ++ rest = "(".toList ++
      ((nameTemplate node.identity node.showsVariable).chars ν ++
        (node.labelTemplate.chars ν ++ (properties.chars ν ++ (")".toList ++ rest)))) := by
    simp [NodePattern.template, NodePattern.annotationTemplate, properties, Piece.write]
  simp only [hchars, readNode, skip_append, hsubject, readOr_labels node hbefore, hproperties,
    Option.bind_eq_bind, Option.bind_some]
  rfl

section

variable {rel : RelationshipPattern} (h : rel.element.ReadsBack owners ν inner)

include h

/-- What stands in the brackets of a relationship is read back, wherever it is taken to point. -/
theorem readBrackets_chars (d : Direction) {rest : List Char} (hending : StartsWith endings rest) :
    readBrackets owners inner d (rel.bracketTemplate.chars ν ++ rest) =
      some ({ rel.printed with direction := d }, rest) := by
  let properties := propertiesTemplate (!rel.showsVariable && rel.measureText.isEmpty)
    rel.properties
  have hbefore : StartsWith beforeProperties (properties.chars ν ++ rest) :=
    startsWith_append (startsWith_propertiesTemplate _ _) hending
  have hlength : StartsWith beforeLength
      (rel.lengthText.toList ++ (properties.chars ν ++ rest)) :=
    startsWith_append (startsWith_lengthText rel) hbefore
  have hafter : StartsWith beforeAnnotations
      (rel.typeText.toList ++ (rel.lengthText.toList ++ (properties.chars ν ++ rest))) :=
    startsWith_append (startsWith_typeText rel) hlength
  have hsubject : readIf (readVariable owners)
      ((nameTemplate rel.identity rel.showsVariable).chars ν ++ _) =
        some (shownVariable rel.identity rel.showsVariable, _) := readIf_variable h.subject hafter
  have hproperties : readOr [] (readMap inner) (properties.chars ν ++ rest) =
      some (rel.properties.map Expression.normalEntry, _) := readOr_map h.values hending
  have hchars : rel.bracketTemplate.chars ν ++ rest =
      (nameTemplate rel.identity rel.showsVariable).chars ν ++
        (rel.typeText.toList ++ (rel.lengthText.toList ++ (properties.chars ν ++ rest))) := by
    simp [RelationshipPattern.bracketTemplate, RelationshipPattern.annotationTemplate,
      RelationshipPattern.measureText, properties, Piece.write]
  simp only [hchars, readBrackets, hsubject, readIf_type rel hlength, readIf_length rel hbefore,
    hproperties, Option.bind_eq_bind, Option.bind_some]
  rfl

theorem readArrow_chars (d : Direction) {following : List Char}
    (hending : StartsWith endings following) :
    readArrow owners inner d (d.opening.toList ++ (rel.bracketTemplate.chars ν ++ following)) =
      (skip d.closing following).map fun rest => ({ rel.printed with direction := d }, rest) := by
  simp only [readArrow, skip_append, readBrackets_chars h d hending, Option.bind_eq_bind,
    Option.bind_some, Option.map_eq_bind]
  rfl

omit h in
theorem readArrow_left_of_ne {d : Direction} (hd : d ≠ .left) (cs : List Char) :
    readArrow owners inner .left (d.opening.toList ++ cs) = none := by
  cases d with
  | left => exact absurd rfl hd
  | right => rfl
  | undirected => rfl

/-- **A relationship is read back** in front of a node. -/
theorem readRelationship_chars {rest : List Char} (hnode : StartsWith ['('] rest) :
    readRelationship owners inner ((rel.template true).chars ν ++ rest) =
      some (rel.printed, rest) := by
  have hchars : (rel.template true).chars ν ++ rest = rel.direction.opening.toList ++
      (rel.bracketTemplate.chars ν ++ (rel.direction.closing.toList ++ rest)) := by
    simp [RelationshipPattern.template, RelationshipPattern.bracketTemplate,
      Direction.arrowTemplate_eq, Piece.write]
  have hending : StartsWith endings (rel.direction.closing.toList ++ rest) := by
    cases rel.direction <;> exact ⟨']', by decide, _, rfl⟩
  have hread := fun d => readArrow_chars h d hending
  rw [hchars, readRelationship]
  change _ = some ({ rel.printed with direction := rel.direction }, rest)
  clear hchars hending
  generalize rel.direction = d at hread ⊢
  cases d with
  | left =>
      rw [List.findSome?_cons, hread .left, skip_append]
      rfl
  | right =>
      rw [List.findSome?_cons, readArrow_left_of_ne (by decide), List.findSome?_cons,
        hread .right, skip_append]
      rfl
  | undirected =>
      -- it is tried as one that points to the right first, but a node follows
      have hnone : skip Direction.right.closing (Direction.undirected.closing.toList ++ rest) =
          none := by
        obtain ⟨c, hc, cs, rfl⟩ := hnode
        rw [List.mem_singleton.1 hc]
        rfl
      have hright : readArrow owners inner .right (Direction.undirected.opening.toList ++
          (rel.bracketTemplate.chars ν ++ (Direction.undirected.closing.toList ++ rest))) = none :=
        (hread .right).trans (by rw [hnone]; rfl)
      rw [List.findSome?_cons, readArrow_left_of_ne (by decide), List.findSome?_cons, hright,
        List.findSome?_cons, hread .undirected, skip_append]
      rfl

end

end Reading

end CypherQuery
