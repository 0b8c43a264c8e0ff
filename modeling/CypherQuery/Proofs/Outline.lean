/-
**The outline of a text: what stands outside of all quotes and brackets.**

What a text is made of at its outermost level can be seen without the brackets and quotes in it and
what they hold.  The outline of a text is what is left of it then.  The outline of several texts, of
which each closes what it opens, is made of theirs; a text in brackets or quotes has none.

Main definitions:

* `CypherQuery.Scanner.outline` — **the outline of a text**.

Main results:

* `CypherQuery.Scanner.State.scan_below` — brackets that are pending from before are not touched;
* `CypherQuery.Scanner.outline_append`, `CypherQuery.Scanner.outline_within` — **texts one after the
  other, and in brackets**;
* `CypherQuery.Scanner.outline_escape`, `CypherQuery.Scanner.outline_literal` — written names and
  string literals.
-/

import CypherQuery.Proofs.Scanner

set_option autoImplicit false

namespace CypherQuery.Scanner

/-! ### Outlines -/

/-- Whether a scanner stands outside of all quotes and brackets. -/
def State.isOutermost (s : State) : Bool := s.mode.isOutside && s.pending.isEmpty

/-- The characters outside of all quotes and brackets, from a state on.  A bracket or a quote leads
out of the outermost level or back to it, and is left out. -/
def State.outline (s : State) : List Char → List Char
  | [] => []
  | c :: cs =>
      match s.step c with
      | none => []
      | some t => (if s.isOutermost && t.isOutermost then [c] else []) ++ outline t cs

/-- **The outline of a text**: what stands outside of all quotes and brackets. -/
def outline (cs : List Char) : List Char := State.start.outline cs

namespace State

theorem outline_cons {s t : State} {c : Char} (h : s.step c = some t) (cs : List Char) :
    s.outline (c :: cs) = (if s.isOutermost && t.isOutermost then [c] else []) ++ t.outline cs := by
  rw [outline, h]

theorem outline_append {t : State} {as : List Char} : ∀ {s : State}, s.scan as = some t →
    ∀ bs, s.outline (as ++ bs) = s.outline as ++ t.outline bs := by
  induction as with
  | nil =>
      intro s h bs
      cases h
      rfl
  | cons a as ih =>
      intro s h bs
      rw [scan_cons, Option.bind_eq_some_iff] at h
      obtain ⟨mid, hstep, hrest⟩ := h
      rw [List.cons_append, outline_cons hstep, outline_cons hstep, ih hrest, List.append_assoc]

/-- It makes no difference whether quotes have ended just now. -/
theorem outline_of_isOutermost {s : State} (h : s.isOutermost = true) (cs : List Char) :
    s.outline cs = Scanner.outline cs := by
  rw [isOutermost, Bool.and_eq_true, List.isEmpty_iff] at h
  cases cs with
  | nil => rfl
  | cons c cs =>
      have hstep : s.step c = start.step c := by
        rw [step_of_isOutside h.1, h.2]
        rfl
      have hstart : start.isOutermost = s.isOutermost := by
        rw [isOutermost, isOutermost, h.1, h.2]
        rfl
      rw [Scanner.outline, outline, outline, hstep, hstart]

/-! ### Pending brackets -/

/-- A state with more brackets pending, after those that are. -/
def below (s : State) (pending : List Char) : State := ⟨s.mode, s.pending ++ pending⟩

theorem close_below {c : Char} {pending : List Char} {t : State} (h : close c pending = some t)
    (more : List Char) : close c (pending ++ more) = some (t.below more) := by
  cases pending with
  | nil => cases h
  | cons next rest =>
      rw [close] at h
      split at h <;> cases h
      rw [List.cons_append, close, if_pos ‹_›]
      rfl

theorem stepOutside_below {c : Char} {pending : List Char} {t : State}
    (h : stepOutside pending c = some t) (more : List Char) :
    stepOutside (pending ++ more) c = some (t.below more) := by
  unfold stepOutside at h ⊢
  have hclose := fun h : close c pending = some t => close_below h more
  -- only a closing bracket looks at what is pending
  cases hopening : closing? c <;> simp only [hopening] at h ⊢ <;> grind [below]

/-- What a character does does not depend on the brackets below. -/
theorem step_below {s t : State} {c : Char} (h : s.step c = some t) (more : List Char) :
    (s.below more).step c = some (t.below more) := by
  obtain ⟨mode, pending⟩ := s
  have houtside := @stepOutside_below c pending t
  cases mode <;> simp only [step, below] at h ⊢ <;> grind [below]

/-- **Brackets that are pending from before are not touched** by a text that can be scanned without
them. -/
theorem scan_below {cs : List Char} : ∀ {s t : State}, s.scan cs = some t → ∀ more,
    (s.below more).scan cs = some (t.below more) := by
  induction cs with
  | nil =>
      intro s t h more
      cases h
      rfl
  | cons c cs ih =>
      intro s t h more
      rw [scan_cons, Option.bind_eq_some_iff] at h ⊢
      obtain ⟨mid, hstep, hrest⟩ := h
      exact ⟨mid.below more, step_below hstep more, ih hrest more⟩

/-- Within brackets nothing belongs to the outline. -/
theorem outline_below {cs : List Char} {more : List Char} (hmore : more ≠ []) :
    ∀ {s t : State}, s.scan cs = some t → (s.below more).outline cs = [] := by
  induction cs with
  | nil => intro s t _; rfl
  | cons c cs ih =>
      intro s t h
      rw [scan_cons, Option.bind_eq_some_iff] at h
      obtain ⟨mid, hstep, hrest⟩ := h
      have hinner : (s.below more).isOutermost = false := by
        simp [isOutermost, below, hmore]
      rw [outline_cons (step_below hstep more), hinner, ih hrest]
      rfl

end State

/-! ### Outlines of neutral texts -/

@[simp] theorem outline_nil : outline [] = [] := rfl

/-- **The outline of texts one after the other.** -/
theorem outline_append {as : List Char} (has : Neutral as) (bs : List Char) :
    outline (as ++ bs) = outline as ++ outline bs := by
  obtain ⟨mode, hmode, hscan⟩ := has .start rfl
  have hend : (State.mk mode []).isOutermost = true := by simp [State.isOutermost, hmode]
  rw [outline, State.outline_append hscan]
  exact congrArg _ (State.outline_of_isOutermost hend bs)

/-- A text without quotes and brackets is its own outline. -/
theorem outline_of_isIdle {cs : List Char} (h : cs.all isIdle = true) : outline cs = cs := by
  induction cs with
  | nil => rfl
  | cons c cs ih =>
      rw [List.all_cons, Bool.and_eq_true] at h
      rw [outline, State.outline_cons (step_of_isIdle rfl h.1)]
      exact congrArg (c :: ·) (ih h.2)

/-- **A text in brackets has no outline.** -/
theorem outline_bracketed {cs : List Char} (h : Neutral cs) {c d : Char}
    (hc : closing? c = some d) : outline (c :: cs ++ [d]) = [] := by
  obtain ⟨hopen, hclose⟩ := stepOutside_brackets hc
  obtain ⟨mode, hmode, hscan⟩ := h ⟨.outside, []⟩ rfl
  have hstart : State.start.step c = some ⟨.outside, [d]⟩ := hopen []
  have hend : (State.mk mode [d]).step d = some ⟨.outside, []⟩ := by
    rw [step_of_isOutside hmode, hclose]
  have hwithin : (State.mk .outside [d]).scan cs = some ⟨mode, [d]⟩ := State.scan_below hscan [d]
  have hinner : (State.mk .outside [d]).outline cs = [] :=
    State.outline_below (List.cons_ne_nil d []) hscan
  have hlast : (State.mk mode [d]).outline [d] = [] := by
    rw [State.outline_cons hend]
    simp [State.isOutermost, State.outline]
  rw [outline, List.cons_append, State.outline_cons hstart,
    State.outline_append hwithin, hinner, hlast]
  rfl

/-- The outline of a text in brackets is what stands before and after them. -/
theorem outline_within {cs before after : List Char} {c d : Char} (h : Neutral cs)
    (hc : closing? c = some d) (hbefore : before.all isIdle = true)
    (hafter : after.all isIdle = true) :
    outline (before ++ c :: cs ++ d :: after) = before ++ after := by
  have htext : before ++ c :: cs ++ d :: after = before ++ (c :: cs ++ [d] ++ after) := by simp
  rw [htext, outline_append (neutral_of_isIdle hbefore), outline_append (h.bracketed hc),
    outline_bracketed h hc, outline_of_isIdle hbefore, outline_of_isIdle hafter, List.nil_append]

/-! ### Names and string literals -/

/-- Between backticks nothing belongs to the outline. -/
theorem outline_quotedChars (cs : List Char) :
    (State.mk .inName []).outline (cs.flatMap Identifier.quotedChar) = [] := by
  induction cs with
  | nil => rfl
  | cons c cs ih =>
      have hscan := scan_quotedChars [] [c]
      rw [List.flatMap_singleton] at hscan
      rw [List.flatMap_cons, State.outline_append hscan, ih, List.append_nil]
      by_cases hc : c = Identifier.backtick
      · subst hc
        rfl
      · simp [Identifier.quotedChar, hc, State.outline, State.step, State.isOutermost,
          Mode.isOutside]

/-- **The outline of a written name**: the name, or nothing if it is quoted. -/
theorem outline_escape (name : String) :
    outline (Identifier.escape name).toList =
      if Identifier.isPlain name then name.toList else [] := by
  cases hplain : Identifier.isPlain name with
  | true =>
      rw [Identifier.escape_of_isPlain hplain]
      exact outline_of_isIdle (all_isIdle_of_isPlain hplain)
  | false =>
      rw [Identifier.toList_escape_of_not_isPlain hplain, Identifier.quoted, List.cons_append]
      change (State.mk .inName []).outline _ = _
      rw [State.outline_append (scan_quotedChars [] _), outline_quotedChars]
      rfl

/-- Between single quotes nothing belongs to the outline. -/
theorem outline_escapedChars (cs : List Char) :
    (State.mk .inString []).outline (cs.flatMap StringLiteral.escapeChar) = [] := by
  induction cs with
  | nil => rfl
  | cons c cs ih =>
      have hscan := scan_escapedChars [] [c]
      rw [List.flatMap_singleton] at hscan
      rw [List.flatMap_cons, State.outline_append hscan, ih, List.append_nil]
      obtain ⟨hplain, hbackslash, hquote⟩ | ⟨d, hd⟩ := StringLiteral.escapeChar_cases c
      · simp [hplain, State.outline, State.step, hbackslash, hquote, State.isOutermost,
          Mode.isOutside]
      · rw [hd]
        rfl

/-- **A string literal has no outline.** -/
theorem outline_literal (text : String) : outline (StringLiteral.render text).toList = [] := by
  rw [StringLiteral.toList_render, List.cons_append]
  change (State.mk .inString []).outline _ = _
  rw [State.outline_append (scan_escapedChars [] _), outline_escapedChars]
  rfl

end CypherQuery.Scanner
