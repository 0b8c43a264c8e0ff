/-
**What a property is a property of.**

A key is written behind its base, which gets no parentheses.  If a comparison stands in the text of
the base outside of all brackets, the key belongs to the last operand of that comparison: `a = b.k`
is a comparison with a property.  All other bases keep their keys.  What ends in a word, such as a
test for null, leaves a point before the key, which stands in no test; and brackets hold together
what is in them.

That nothing but properties is written like a property is seen in the outline of the text.  A
property ends with a name behind a point, and has no space before the sign of a comparison; every
other form lacks the one or has the other.

Main definitions:

* `CypherQuery.follows` — whether a character is followed by what it may be followed by;
* `CypherQuery.Expression.showsComparison` — **whether a comparison stands in the text outside of
  all brackets**;
* `CypherQuery.Expression.isAccess` — what is a property, apart from connectives with a single
  operand;
* `CypherQuery.IsPropertyText` — what the text of a property shows.

Main results:

* `CypherQuery.Expression.follows_space`, `CypherQuery.Expression.not_follows_space` — the spaces
  before the signs of comparisons;
* `CypherQuery.Expression.isPropertyText_chars`,
  `CypherQuery.Expression.not_isPropertyText_chars` — **properties and all other forms are told
  apart**;
* `CypherQuery.Expression.exists_isCompared` — the last operand of a comparison takes the key;
* `CypherQuery.Expression.property_text_ne_iff` — **when a property is one of its whole base**.
-/

import CypherQuery.Proofs.Outline.Expression
import CypherQuery.Proofs.Session

set_option autoImplicit false

namespace CypherQuery

open Scanner (outline)

/-! ### What follows a character -/

/-- Whether a character is followed by what it may be followed by, wherever it stands in a text. -/
def follows (c : Char) (p : List Char → Bool) : List Char → Bool
  | [] => true
  | d :: cs => (d != c || p cs) && follows c p cs

theorem follows_append {c : Char} {p : List Char → Bool} {as bs : List Char}
    (has : follows c p as = true) (hbs : follows c p bs = true)
    (hp : ∀ cs, p cs = true → p (cs ++ bs) = true) : follows c p (as ++ bs) = true := by
  induction as with
  | nil => exact hbs
  | cons a as ih =>
      rw [follows, Bool.and_eq_true, Bool.or_eq_true] at has
      rw [List.cons_append, follows, ih has.2, Bool.and_true, Bool.or_eq_true]
      exact has.1.imp_right (hp as)

/-- What no character of a text can be is not followed by anything. -/
theorem follows_of_all {c : Char} {p : List Char → Bool} {q : Char → Bool} {cs : List Char}
    (h : cs.all q = true) (hc : q c = false) : follows c p cs = true := by
  induction cs with
  | nil => rfl
  | cons d cs ih =>
      rw [List.all_cons, Bool.and_eq_true] at h
      have hne : d ≠ c := by
        rintro rfl
        rw [h.1] at hc
        cases hc
      rw [follows, ih h.2, Bool.and_true, bne_iff_ne.2 hne, Bool.true_or]

theorem of_follows {c : Char} {p : List Char → Bool} {as bs : List Char}
    (h : follows c p (as ++ c :: bs) = true) : p bs = true := by
  induction as with
  | nil =>
      rw [List.nil_append, follows, Bool.and_eq_true, bne_self_eq_false, Bool.false_or] at h
      exact h.1
  | cons a as ih =>
      rw [List.cons_append, follows, Bool.and_eq_true] at h
      exact ih h.2

/-- What may follow a space that no comparison stands behind: the end, another space, a point, or
the words of a test for null. -/
def mayFollowSpace : List Char → Bool
  | [] => true
  | 'I' :: cs => cs.head? == some 'S'
  | c :: _ => c == ' ' || c == '.' || c == 'N'

theorem mayFollowSpace_append {d : Char} (hd : d = ' ' ∨ d = '.') (bs : List Char) {cs : List Char}
    (h : mayFollowSpace cs = true) : mayFollowSpace (cs ++ d :: bs) = true := by
  unfold mayFollowSpace at h
  split at h
  · rcases hd with rfl | rfl <;> rfl
  next cs =>
    cases cs with
    | nil => cases h
    | cons e cs => exact h
  next c cs hc =>
    rw [List.cons_append, mayFollowSpace]
    · exact h
    · exact hc

/-! ### Where comparisons show -/

namespace Expression

/-- **Whether a comparison stands in the text of an expression outside of all brackets.** -/
def showsComparison : Expression → Bool
  | .property base _ => showsComparison base
  | .application op [x] =>
      match op.family with
      | .connective => showsComparison x
      | .after => !x.isUndelimited && showsComparison x
      | _ => false
  | .application op [_, _] => op.family == .comparison
  | _ => false

/-- Whether an expression is a property, or the same within connectives with a single operand. -/
def isAccess : Expression → Bool
  | .property _ _ => true
  | .application op [x] => op.family == .connective && isAccess x
  | _ => false

end Expression

/-! ### Words and numbers -/

/-- A number has no spaces. -/
theorem follows_space_of_isNumberText {p : List Char → Bool} {cs : List Char}
    (h : isNumberText cs = true) : follows ' ' p cs = true := by
  refine follows_of_all (q := (· != ' ')) ?_ rfl
  refine all_of_isNumberText (fun c hc => bne_iff_ne.2 ?_) (by decide) h
  rintro rfl
  cases hc

/-- In a number every point has a digit behind it. -/
theorem follows_point_of_isNumberText {cs : List Char} (h : isNumberText cs = true) :
    follows '.' startsWithDigit cs = true := by
  induction cs with
  | nil => rfl
  | cons c cs ih =>
      rw [isNumberText, Bool.and_eq_true] at h
      rw [follows, ih h.2, Bool.and_true]
      by_cases hc : c = '.'
      · subst hc
        simpa [isNumberSign] using h.1
      · simp [hc]

namespace Expression

variable (ν : Naming)

/-! ### Spaces outside of all brackets -/

/-- **Where no comparison shows**, every space outside of all brackets is at the end, or stands
before another one, a point or the words of a test for null. -/
theorem follows_space {e : Expression} (h : e.IsSound) (hshows : e.showsComparison = false) :
    follows ' ' mayFollowSpace (outline (e.chars ν)) = true := by
  have hname : ∀ name : String,
      follows ' ' mayFollowSpace (outline (Identifier.escape name).toList) = true :=
    fun name => follows_of_all (all_isPart_outline_escape name) rfl
  induction e using Expression.induction with
  | literal l =>
      rcases outline_literal ν l with hword | hnumber
      · exact follows_of_all hword rfl
      · exact follows_space_of_isNumberText hnumber
  | reference v =>
      rw [chars_reference]
      exact hname _
  | placeholder p =>
      rw [outline_placeholder, follows, hname]
      rfl
  | property base key ih =>
      rw [outline_property ν h]
      have hkey : follows ' ' mayFollowSpace
          ('.' :: outline (Identifier.escape key).toList) = true := by
        rw [follows, hname]
        rfl
      exact follows_append (ih (h.child List.mem_cons_self) hshows) hkey
        fun cs hcs => mayFollowSpace_append (Or.inr rfl) _ hcs
  | application op operands ih =>
      cases hfamily : op.family with
      | arithmetic =>
          rw [outline_arithmetic ν h hfamily]
          rfl
      | comparison =>
          obtain ⟨x, y, rfl⟩ := h.eq_pair hfamily
          rw [showsComparison, hfamily] at hshows
          cases hshows
      | connective =>
          by_cases hlength : operands.length = 1
          · obtain ⟨x, rfl⟩ := List.length_eq_one_iff.1 hlength
            rw [showsComparison, hfamily] at hshows
            rw [chars_connective_singleton ν hfamily]
            exact ih x List.mem_cons_self (h.child List.mem_cons_self) hshows
          · rw [outline_connective ν h hfamily hlength]
            rfl
      | before =>
          rw [outline_before ν h hfamily]
          cases op <;> first | rfl | cases hfamily
      | after =>
          obtain ⟨x, rfl⟩ := h.eq_singleton hfamily
          have hx : x.IsSound := h.child List.mem_cons_self
          rw [showsComparison, hfamily, Bool.and_eq_false_iff, Bool.not_eq_false'] at hshows
          have hsign : follows ' ' mayFollowSpace (' ' :: op.keyword.toList) = true := by
            cases op <;> first | rfl | cases hfamily
          have hafter : (Reading.signAfter op).toList = ' ' :: op.keyword.toList := by
            cases op <;> rfl
          rw [outline_after ν h hfamily, outline_besideChars ν hx, hafter]
          split
          · exact hsign
          · exact follows_append (ih x List.mem_cons_self hx (hshows.resolve_left ‹_›)) hsign
              fun cs hcs => mayFollowSpace_append (Or.inl rfl) _ hcs
  | call function arguments ih =>
      rw [outline_call ν h]
      exact follows_of_all (q := fun c => Identifier.isPart c || c == '.')
        (h.safe _ (self_mem_parts _)) rfl
  | list items ih =>
      rw [outline_list ν h]
      rfl
  | map entries ih =>
      rw [outline_map ν h]
      rfl
  | identityOf v =>
      rw [outline_identityOf]
      rfl
  | labelsOf v =>
      rw [outline_labelsOf]
      rfl
  | raw text => cases h.safe _ (self_mem_parts _)

/-- **A comparison has a space outside of all brackets before its sign.** -/
theorem not_follows_space {op : Operator} {x y : Expression} (h : (application op [x, y]).IsSound)
    (hfamily : op.family = .comparison) :
    follows ' ' mayFollowSpace (outline ((application op [x, y]).chars ν)) = false := by
  rw [outline_comparison ν h hfamily, ← Bool.not_eq_true]
  intro hfollows
  have hsign : (Reading.signBetween op).toList = ' ' :: (op.keyword.toList ++ [' ']) := by
    cases op <;> rfl
  rw [hsign, List.cons_append] at hfollows
  have hnext := of_follows hfollows
  cases op <;> first | (cases hfamily; done) | cases hnext

/-! ### The text of a property -/

end Expression

/-- **What the text of a property shows**, if no comparison shows in it: it ends with a name behind
a point, no space stands before the sign of a comparison, and the last character closes no call. -/
structure IsPropertyText (cs : List Char) : Prop where
  /-- Outside of all brackets a name behind a point comes last, or a point if the name is quoted. -/
  key : ∃ before key, outline cs = before ++ '.' :: key ∧ key.all Identifier.isPart = true ∧
    startsWithDigit key = false
  /-- No space stands before the sign of a comparison. -/
  spaces : follows ' ' mayFollowSpace (outline cs) = true
  /-- A name does not end in a parenthesis. -/
  last : cs.getLast? ≠ some ')'

theorem IsPropertyText.not_follows_point {cs : List Char} (h : IsPropertyText cs) :
    follows '.' startsWithDigit (outline cs) = false := by
  obtain ⟨before, key, houtline, -, hdigit⟩ := h.key
  rw [← Bool.not_eq_true]
  intro hfollows
  rw [houtline] at hfollows
  rw [of_follows hfollows] at hdigit
  cases hdigit

/-- The last character of two texts that can not stand in a name is the same. -/
theorem eq_of_append_cons_eq {p : Char → Bool} {as bs us vs : List Char} {c d : Char}
    (hus : us.all p = true) (hvs : vs.all p = true) (hc : p c = false) (hd : p d = false)
    (h : as ++ c :: us = bs ++ d :: vs) : c = d := by
  have hall : ∀ {ws : List Char} {e : Char}, ws.all p = true → p e = false → e ∉ ws := by
    intro ws e hws he hmem
    rw [List.all_eq_true.1 hws e hmem] at he
    cases he
  rcases List.append_eq_append_iff.1 h with ⟨mid, -, hmid⟩ | ⟨mid, -, hmid⟩
  · cases mid with
    | nil => exact (List.cons.inj hmid).1
    | cons e mid =>
        refine absurd ?_ (hall hus hd)
        rw [(List.cons.inj hmid).2]
        simp
  · cases mid with
    | nil => exact (List.cons.inj hmid).1.symm
    | cons e mid =>
        refine absurd ?_ (hall hvs hc)
        rw [(List.cons.inj hmid).2]
        simp

namespace Expression

variable (ν : Naming)

/-- **A property of a base without a comparison is written as one.** -/
theorem isPropertyText_chars {base : Expression} {key : String} (h : (property base key).IsSound)
    (hshows : base.showsComparison = false) : IsPropertyText ((property base key).chars ν) where
  key := by
    refine ⟨_, _, outline_property ν h, all_isPart_outline_escape key, ?_⟩
    rw [Scanner.outline_escape]
    split
    · obtain ⟨c, cs, hkey, hstart, -⟩ := Identifier.exists_cons_of_isPlain ‹_›
      rw [hkey]
      exact Identifier.isDigit_of_isStart hstart
    · rfl
  spaces := follows_space ν h hshows
  last := by
    obtain ⟨c, hlast, hc⟩ := Identifier.getLast?_escape key
    rw [chars_property, ← List.append_assoc, List.getLast?_append, hlast, Option.some_or]
    rintro hparenthesis
    cases hparenthesis
    rcases hc with hc | hc <;> cases hc

/-- **What is no property is not written as one**, also not within connectives with a single
operand. -/
theorem not_isPropertyText_chars {e : Expression} (h : e.IsSound) (haccess : e.isAccess = false) :
    ¬ IsPropertyText (e.chars ν) := by
  intro htext
  have hpoint := htext.not_follows_point
  have hword : ∀ cs : List Char, cs.all Identifier.isPart = true →
      follows '.' startsWithDigit cs = true := fun cs hcs =>
    follows_of_all hcs rfl
  induction e using Expression.induction with
  | literal l =>
      rcases outline_literal ν l with hall | hnumber
      · rw [hword _ hall] at hpoint
        cases hpoint
      · rw [follows_point_of_isNumberText hnumber] at hpoint
        cases hpoint
  | reference v =>
      rw [chars_reference, hword _ (all_isPart_outline_escape _)] at hpoint
      cases hpoint
  | placeholder p =>
      rw [outline_placeholder, follows, hword _ (all_isPart_outline_escape _)] at hpoint
      cases hpoint
  | property base key ih => cases haccess
  | application op operands ih =>
      cases hfamily : op.family with
      | arithmetic =>
          rw [outline_arithmetic ν h hfamily] at hpoint
          cases hpoint
      | comparison =>
          obtain ⟨x, y, rfl⟩ := h.eq_pair hfamily
          have hspaces := htext.spaces
          rw [not_follows_space ν h hfamily] at hspaces
          cases hspaces
      | connective =>
          by_cases hlength : operands.length = 1
          · obtain ⟨x, rfl⟩ := List.length_eq_one_iff.1 hlength
            rw [chars_connective_singleton ν hfamily] at htext hpoint
            refine ih x List.mem_cons_self (h.child List.mem_cons_self) ?_ htext hpoint
            simpa [isAccess, hfamily] using haccess
          · rw [outline_connective ν h hfamily hlength] at hpoint
            cases hpoint
      | before =>
          rw [outline_before ν h hfamily] at hpoint
          cases op <;> cases hpoint
      | after =>
          obtain ⟨x, rfl⟩ := h.eq_singleton hfamily
          obtain ⟨before, key, houtline, hkey, -⟩ := htext.key
          have hlast : ∃ rest, (Reading.signAfter op).toList = rest ++ ' ' :: "NULL".toList := by
            cases op <;> first | (cases hfamily; done) | exact ⟨[' ', 'I', 'S'], rfl⟩ |
              exact ⟨[' ', 'I', 'S', ' ', 'N', 'O', 'T'], rfl⟩
          obtain ⟨rest, hrest⟩ := hlast
          rw [outline_after ν h hfamily, hrest, ← List.append_assoc] at houtline
          have hsame := eq_of_append_cons_eq (by decide) hkey rfl rfl houtline
          cases hsame
  | call function arguments ih =>
      refine htext.last ?_
      rw [chars_call, ← List.append_assoc, ← List.append_assoc]
      exact List.getLast?_concat
  | list items ih =>
      rw [outline_list ν h] at hpoint
      cases hpoint
  | map entries ih =>
      rw [outline_map ν h] at hpoint
      cases hpoint
  | identityOf v =>
      rw [outline_identityOf] at hpoint
      cases hpoint
  | labelsOf v =>
      rw [outline_labelsOf] at hpoint
      cases hpoint
  | raw text => cases h.safe _ (self_mem_parts _)

/-! ### Comparisons take the key of their last operand -/

theorem all_isSafe_child {e child : Expression} (h : e.parts.all isSafe = true)
    (hchild : child ∈ e.children) : child.parts.all isSafe = true :=
  List.all_eq_true.2 (all_parts_child (List.all_eq_true.1 h) child hchild)

theorem all_isSafe_of_children {e : Expression} (he : e.isSafe = true)
    (h : ∀ child ∈ e.children, child.parts.all isSafe = true) : e.parts.all isSafe = true := by
  rw [parts_eq, List.all_cons, he, Bool.true_and, List.all_flatMap, List.all_eq_true]
  exact h

/-- Writing a comparison whose last operand has no parentheses around it. -/
def renderCompared (op : Operator) (x y : Expression) : BuildM String := do
  let s ← x.render
  let t ← y.render
  return besideText x s ++ (" " ++ op.keyword ++ " ") ++ t

/-- What is written like a comparison whose last operand has no parentheses around it. -/
structure IsCompared (e : Expression) (op : Operator) (x y : Expression) : Prop where
  /-- There is a comparison. -/
  family : op.family = .comparison
  /-- What the operand before the sign writes as it stands is harmless. -/
  safeFirst : x.parts.all isSafe = true
  /-- What the operand behind the sign writes as it stands is harmless. -/
  safeLast : y.parts.all isSafe = true
  /-- If the whole needs no parentheses beside an operator, neither does the last operand. -/
  delimited : e.isUndelimited = false → y.isUndelimited = false
  /-- The whole is written like the comparison. -/
  render_eq : e.render = renderCompared op x y

theorem render_connective_singleton {op : Operator} (hfamily : op.family = .connective)
    (x : Expression) : (application op [x]).render = x.render := by
  simp [render, renderAll, Operator.fault?, hfamily, applicationText, Operator.compose]

theorem render_after {op : Operator} (hfamily : op.family = .after) {x : Expression}
    (hx : x.isUndelimited = false) :
    (application op [x]).render = x.render >>= fun s => pure (s ++ " " ++ op.keyword) := by
  simp [-bind_pure_comp, render, renderAll, Operator.fault?, hfamily, applicationText,
    Operator.compose, besideText, hx]

theorem render_comparison {op : Operator} (hfamily : op.family = .comparison) (x y : Expression) :
    (application op [x, y]).render =
      x.render >>= fun s => y.render >>= fun t =>
        pure (besideText x s ++ (" " ++ op.keyword ++ " ") ++ besideText y t) := by
  simp [-bind_pure_comp, render, renderAll, Operator.fault?, hfamily, applicationText,
    Operator.compose, String.intercalate_cons_cons, String.append_assoc]

/-- Parentheses around an expression are those of a call of a function without a name. -/
theorem render_call_empty (y : Expression) :
    (call "" [y]).render = y.render >>= fun t => pure ("(" ++ t ++ ")") := by
  simp [-bind_pure_comp, render, renderAll]

/-- **Where a comparison shows**, an expression is written like that comparison with another last
operand. -/
theorem exists_isCompared {e : Expression} (h : e.parts.all isSafe = true)
    (hshows : e.showsComparison = true) : ∃ op x y, e.IsCompared op x y := by
  fun_induction showsComparison e with
  | case1 base key ih =>
      -- the key is written behind the last operand
      obtain ⟨op, x, y, hbase⟩ := ih (all_isSafe_child h List.mem_cons_self) hshows
      refine ⟨op, x, .property y key, hbase.family, hbase.safeFirst, ?_, fun _ => rfl, ?_⟩
      · exact all_isSafe_of_children rfl (List.forall_mem_singleton.2 hbase.safeLast)
      · simp [-bind_pure_comp, render, hbase.render_eq, renderCompared, String.append_assoc]
  | case2 op x hfamily ih =>
      obtain ⟨op', x', y, hx⟩ := ih (all_isSafe_child h List.mem_cons_self) hshows
      refine ⟨op', x', y, hx.family, hx.safeFirst, hx.safeLast, ?_, ?_⟩
      · intro hdelimited
        rw [isUndelimited, Operator.isDelimited, hfamily] at hdelimited
        cases hdelimited
      · rw [render_connective_singleton hfamily, hx.render_eq]
  | case3 op x hfamily ih =>
      -- the test is written behind the last operand
      rw [Bool.and_eq_true, Bool.not_eq_true'] at hshows
      obtain ⟨op', x', y, hx⟩ := ih (all_isSafe_child h List.mem_cons_self) hshows.2
      refine ⟨op', x', .application op [y], hx.family, hx.safeFirst, ?_, ?_, ?_⟩
      · exact all_isSafe_of_children rfl (List.forall_mem_singleton.2 hx.safeLast)
      · intro hdelimited
        rw [isUndelimited, Operator.isDelimited, hfamily] at hdelimited
        cases hdelimited
      · rw [render_after hfamily hshows.1, renderCompared, hx.render_eq,
          render_after hfamily (hx.delimited hshows.1)]
        simp [-bind_pure_comp, renderCompared, String.append_assoc]
  | case4 op x hconnective hafter => cases hshows
  | case5 op x y =>
      rw [beq_iff_eq] at hshows
      have hx := all_isSafe_child h List.mem_cons_self
      have hy := all_isSafe_child h (List.mem_cons_of_mem x List.mem_cons_self)
      have hundelimited : (application op [x, y]).isUndelimited = true := by
        rw [isUndelimited, Operator.isDelimited, hshows]
        rfl
      have hdelimited : ∀ {P : Prop}, (application op [x, y]).isUndelimited = false → P := by
        intro P hfalse
        rw [hundelimited] at hfalse
        cases hfalse
      cases hbeside : y.isUndelimited with
      | false =>
          refine ⟨op, x, y, hshows, hx, hy, hdelimited, ?_⟩
          rw [render_comparison hshows, renderCompared]
          simp [besideText, hbeside]
      | true =>
          refine ⟨op, x, .call "" [y], hshows, hx, ?_, hdelimited, ?_⟩
          · exact all_isSafe_of_children rfl (List.forall_mem_singleton.2 hy)
          · rw [render_comparison hshows, renderCompared, render_call_empty]
            simp [-bind_pure_comp, besideText, hbeside]
  | case6 e => cases hshows

/-! ### Both -/

/-- What can be written has characters, with the names that there are in the end. -/
theorem exists_toList_eq_chars {e : Expression} {env : Environment} {text : String}
    (h : (e.render env).result = .ok text) : ∃ ν, text.toList = e.chars ν :=
  ⟨_, congrArg String.toList (Template.run_of_ok (result_run_template h)).2⟩

theorem isSound_of_render {e : Expression} (hsafe : e.parts.all isSafe = true) {env : Environment}
    {text : String} (h : (e.render env).result = .ok text) : e.IsSound where
  safe := List.all_eq_true.1 hsafe
  complete _ _ := fault?_of_mem_parts (Template.fault_not_mem_of_ok (result_run_template h))

/-- **Whether a property is a property of its whole base.**  Nothing but properties is written like
a property of an expression, exactly if no comparison shows in the text of that expression. -/
theorem property_text_ne_iff {base : Expression} {key : String}
    (hbase : base.parts.all isSafe = true) {env : Environment} {text : String}
    (htext : ((property base key).render env).result = .ok text) :
    (∀ f : Expression, f.parts.all isSafe = true → f.isAccess = false →
      (f.render env).result ≠ .ok text) ↔ base.showsComparison = false := by
  constructor
  · intro hne
    rw [← Bool.not_eq_true]
    intro hshows
    obtain ⟨op, x, y, hcompared⟩ := exists_isCompared hbase hshows
    have hsame : (application op [x, .property y key]).render = (property base key).render := by
      rw [render_comparison hcompared.family, render, render, hcompared.render_eq]
      simp [-bind_pure_comp, renderCompared, besideText, isUndelimited, String.append_assoc]
    have hlast : (property y key).parts.all isSafe = true :=
      all_isSafe_of_children rfl (List.forall_mem_singleton.2 hcompared.safeLast)
    refine hne (.application op [x, .property y key]) ?_ rfl (hsame ▸ htext)
    refine all_isSafe_of_children rfl (List.forall_mem_cons.2 ⟨hcompared.safeFirst, ?_⟩)
    exact List.forall_mem_singleton.2 hlast
  · intro hshows f hf haccess hftext
    have hsafe : (property base key).parts.all isSafe = true :=
      all_isSafe_of_children rfl (List.forall_mem_singleton.2 hbase)
    obtain ⟨ν, hν⟩ := exists_toList_eq_chars htext
    obtain ⟨ν', hν'⟩ := exists_toList_eq_chars hftext
    refine not_isPropertyText_chars ν' (isSound_of_render hf hftext) haccess ?_
    rw [← hν', hν]
    exact isPropertyText_chars ν (isSound_of_render hsafe htext) hshows

/-- A node with a name. -/
def firstNode : Variable := ⟨0, .node, some "a"⟩

/-- Another one. -/
def secondNode : Variable := ⟨1, .node, some "b"⟩

/-- That they are the same. -/
def sameNodes : Expression := .equals (.reference firstNode) (.reference secondNode)

/-- An environment that has given them their names. -/
def namedNodes : Environment :=
  (Environment.start "" .colon).after [.name firstNode, .name secondNode]

/-- A property of a test for null belongs to the test; a property of a comparison does not belong to
the comparison. -/
theorem property_text_ne_sameNodes :
    ((property (.application .isNull [sameNodes]) "k").render namedNodes).result =
        .ok "(a = b) IS NULL.k" ∧
      (∀ f : Expression, f.parts.all isSafe = true → f.isAccess = false →
        (f.render namedNodes).result ≠ .ok "(a = b) IS NULL.k") ∧
      ((property sameNodes "k").render namedNodes).result = .ok "a = b.k" ∧
      ¬ ∀ f : Expression, f.parts.all isSafe = true → f.isAccess = false →
        (f.render namedNodes).result ≠ .ok "a = b.k" := by
  have hnull : ((property (.application .isNull [sameNodes]) "k").render namedNodes).result =
      .ok "(a = b) IS NULL.k" := rfl
  have hsame : ((property sameNodes "k").render namedNodes).result = .ok "a = b.k" := rfl
  refine ⟨hnull, (property_text_ne_iff (by decide) hnull).2 rfl, hsame, fun hne => ?_⟩
  exact absurd ((property_text_ne_iff (by decide) hsame).1 hne) (by decide)

/-- **The last operand of a comparison takes the key**: a property of the comparison and the
comparison with a property of that operand are written alike. -/
theorem property_sameNodes_text :
    (∀ o ∈ (property sameNodes "k").occurrences, (o.lookup namedNodes).isSome = true) ∧
      (equals (.reference firstNode) (.propertyOf secondNode "k")).parts.all isSafe = true ∧
      (equals (.reference firstNode) (.propertyOf secondNode "k")).isAccess = false ∧
      ((property sameNodes "k").render namedNodes).result = .ok "a = b.k" ∧
      ((equals (.reference firstNode) (.propertyOf secondNode "k")).render namedNodes).result =
        .ok "a = b.k" :=
  ⟨by decide, by decide, rfl, rfl, rfl⟩

end Expression

end CypherQuery
