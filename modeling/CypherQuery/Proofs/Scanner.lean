/-
**Scanning text for quotes and brackets.**

A scanner goes through a text of the query language from left to right and looks at nothing but
quotes and brackets.  A single quote opens a string, which ends at the next single quote that no
backslash stands before; a backtick opens a quoted name, which ends at the next backtick that is
not written twice; and outside of both a bracket closes the last one that is open, which has to be
of its own kind.

Main definitions:

* `CypherQuery.Scanner.State`, `CypherQuery.Scanner.State.step` — where a scanner stands, and what a
  character does;
* `CypherQuery.Scanner.isBalanced` — **whether a text ends outside of all quotes with all brackets
  closed**;
* `CypherQuery.Scanner.Neutral` — texts that leave a scanner as they find it, wherever they stand.

Main results:

* `CypherQuery.Scanner.Neutral.append`, `CypherQuery.Scanner.Neutral.within` — neutral texts one
  after the other, and in brackets;
* `CypherQuery.Scanner.neutral_escape`, `CypherQuery.Scanner.neutral_literal` — **written names and
  string literals are neutral**, whatever they hold.
-/

import CypherQuery.Text.Identifier
import CypherQuery.Text.StringLiteral

set_option autoImplicit false

namespace CypherQuery.Scanner

/-! ### Characters -/

/-- The bracket that closes another. -/
def closing? : Char → Option Char
  | '(' => some ')'
  | '[' => some ']'
  | '\x7b' => some '\x7d'
  | _ => none

/-- The closing brackets. -/
def isClosing (c : Char) : Bool := c == ')' || c == ']' || c == '\x7d'

/-- The characters that a scanner takes no notice of outside of quotes. -/
def isIdle (c : Char) : Bool :=
  c != StringLiteral.quote && c != Identifier.backtick && (closing? c).isNone && !isClosing c

/-! ### Scanners -/

/-- What a scanner is in. -/
inductive Mode where
  /-- No quotes. -/
  | outside
  /-- A string. -/
  | inString
  /-- A string, after a backslash. -/
  | afterBackslash
  /-- A quoted name. -/
  | inName
  /-- A quoted name, after a backtick: the name has ended unless another backtick follows. -/
  | afterBacktick
  deriving DecidableEq, Repr

/-- Whether all quotes have ended. -/
def Mode.isOutside : Mode → Bool
  | .outside | .afterBacktick => true
  | _ => false

/-- Where a scanner stands. -/
structure State where
  /-- What it is in. -/
  mode : Mode
  /-- The brackets that have to come, the next one first. -/
  pending : List Char
  deriving DecidableEq, Repr

namespace State

/-- The start of a text. -/
def start : State := ⟨.outside, []⟩

/-- A closing bracket has to be the next one that is pending. -/
def close (c : Char) : List Char → Option State
  | [] => none
  | next :: pending => if c = next then some ⟨.outside, pending⟩ else none

/-- A character outside of quotes. -/
def stepOutside (pending : List Char) (c : Char) : Option State :=
  if c = StringLiteral.quote then some ⟨.inString, pending⟩
  else if c = Identifier.backtick then some ⟨.inName, pending⟩
  else
    match closing? c with
    | some d => some ⟨.outside, d :: pending⟩
    | none => if isClosing c then close c pending else some ⟨.outside, pending⟩

/-- **What a character does.** -/
def step (s : State) (c : Char) : Option State :=
  match s.mode with
  | .outside => stepOutside s.pending c
  | .inString =>
      if c = '\\' then some ⟨.afterBackslash, s.pending⟩
      else if c = StringLiteral.quote then some ⟨.outside, s.pending⟩
      else some s
  | .afterBackslash => some ⟨.inString, s.pending⟩
  | .inName => some ⟨if c = Identifier.backtick then .afterBacktick else .inName, s.pending⟩
  | .afterBacktick =>
      if c = Identifier.backtick then some ⟨.inName, s.pending⟩ else stepOutside s.pending c

/-- Going through a text; nothing if a bracket closes none of its own kind. -/
def scan (s : State) (cs : List Char) : Option State := cs.foldlM step s

@[simp] theorem scan_nil (s : State) : s.scan [] = some s := rfl

theorem scan_cons (s : State) (c : Char) (cs : List Char) :
    s.scan (c :: cs) = (s.step c).bind fun t => t.scan cs := by
  simp [scan, List.foldlM_cons]

theorem scan_append (s : State) (as bs : List Char) :
    s.scan (as ++ bs) = (s.scan as).bind fun t => t.scan bs := by
  simp [scan, List.foldlM_append]

end State

/-- **Whether a text ends outside of all quotes, with every bracket closed by one of its own kind in
properly nested order.** -/
def isBalanced (text : String) : Bool :=
  match State.start.scan text.toList with
  | some s => s.mode.isOutside && s.pending.isEmpty
  | none => false

/-- A single quote in a string has to be written with a backslash before it. -/
example : (isBalanced "'it\\'s'", isBalanced "'it's'") = (true, false) := by decide

/-! ### Neutral texts -/

/-- **A text that leaves a scanner as it finds it**: outside of quotes, with the same brackets
pending. -/
def Neutral (cs : List Char) : Prop :=
  ∀ s : State, s.mode.isOutside = true →
    ∃ mode : Mode, mode.isOutside = true ∧ s.scan cs = some ⟨mode, s.pending⟩

theorem isBalanced_of_neutral {text : String} (h : Neutral text.toList) :
    isBalanced text = true := by
  obtain ⟨mode, hmode, hscan⟩ := h .start rfl
  rw [isBalanced, hscan]
  simp [hmode, State.start]

/-- It makes no difference whether quotes have ended just now: a backtick opens a quoted name, or
goes on with the last one. -/
theorem step_of_isOutside {s : State} (h : s.mode.isOutside = true) (c : Char) :
    s.step c = State.stepOutside s.pending c := by
  obtain ⟨mode, pending⟩ := s
  cases mode with
  | outside => rfl
  | afterBacktick =>
      by_cases hc : c = Identifier.backtick
      · subst hc
        rfl
      · simp [State.step, hc]
  | inString => cases h
  | afterBackslash => cases h
  | inName => cases h

theorem neutral_nil : Neutral [] := fun s hs => ⟨s.mode, hs, rfl⟩

/-- Neutral texts one after the other. -/
theorem Neutral.append {as bs : List Char} (ha : Neutral as) (hb : Neutral bs) :
    Neutral (as ++ bs) := by
  intro s hs
  -- the second text starts where the first one ends, outside of quotes again
  obtain ⟨mode, hmode, hscan⟩ := ha s hs
  obtain ⟨last, hlast, hscan'⟩ := hb ⟨mode, s.pending⟩ hmode
  exact ⟨last, hlast, by rw [State.scan_append, hscan]; exact hscan'⟩

theorem step_of_isIdle {s : State} (h : s.mode.isOutside = true) {c : Char}
    (hc : isIdle c = true) : s.step c = some ⟨.outside, s.pending⟩ := by
  simp only [isIdle, Bool.and_eq_true, bne_iff_ne, Option.isNone_iff_eq_none,
    Bool.not_eq_true'] at hc
  obtain ⟨⟨⟨hquote, hbacktick⟩, hopening⟩, hclosing⟩ := hc
  rw [step_of_isOutside h]
  simp [State.stepOutside, hquote, hbacktick, hopening, hclosing]

/-- A text without quotes and brackets is neutral. -/
theorem neutral_of_isIdle {cs : List Char} (h : cs.all isIdle = true) : Neutral cs := by
  induction cs with
  | nil => exact neutral_nil
  | cons c cs ih =>
      rw [List.all_cons, Bool.and_eq_true] at h
      intro s hs
      obtain ⟨mode, hmode, hscan⟩ := ih h.2 ⟨.outside, s.pending⟩ rfl
      exact ⟨mode, hmode, by rw [State.scan_cons, step_of_isIdle hs h.1]; exact hscan⟩

/-- A bracket has the one that closes it pending, which takes it away again. -/
theorem stepOutside_brackets {c d : Char} (hc : closing? c = some d) :
    (∀ pending, State.stepOutside pending c = some ⟨.outside, d :: pending⟩) ∧
      ∀ pending, State.stepOutside (d :: pending) d = some ⟨.outside, pending⟩ := by
  unfold closing? at hc
  split at hc <;> cases hc <;> exact ⟨fun _ => rfl, fun _ => rfl⟩

/-- **A neutral text in brackets is neutral.** -/
theorem Neutral.bracketed {cs : List Char} (h : Neutral cs) {c d : Char}
    (hc : closing? c = some d) : Neutral (c :: cs ++ [d]) := by
  obtain ⟨hopen, hclose⟩ := stepOutside_brackets hc
  intro s hs
  -- the text in between leaves the closing bracket pending
  obtain ⟨mode, hmode, hscan⟩ := h ⟨.outside, d :: s.pending⟩ rfl
  refine ⟨.outside, rfl, ?_⟩
  rw [List.cons_append, State.scan_cons, step_of_isOutside hs, hopen, Option.bind_some,
    State.scan_append, hscan, Option.bind_some, State.scan_cons, step_of_isOutside hmode, hclose]
  rfl

/-- Whether two texts are a bracket and the one that closes it, apart from idle characters before
the one and after the other. -/
def areBrackets (opening closing : List Char) : Bool :=
  match opening.getLast?, closing with
  | some c, d :: after => closing? c == some d && opening.dropLast.all isIdle && after.all isIdle
  | _, _ => false

/-- A neutral text between such texts is neutral. -/
theorem Neutral.within {cs opening closing : List Char} (h : Neutral cs)
    (hbrackets : areBrackets opening closing = true) : Neutral (opening ++ cs ++ closing) := by
  unfold areBrackets at hbrackets
  split at hbrackets
  next c d after hlast =>
    obtain ⟨before, rfl⟩ := List.getLast?_eq_some_iff.1 hlast
    rw [List.dropLast_concat, Bool.and_eq_true, Bool.and_eq_true, beq_iff_eq] at hbrackets
    obtain ⟨⟨hclosing, hbefore⟩, hafter⟩ := hbrackets
    have htext : before ++ [c] ++ cs ++ d :: after = before ++ (c :: cs ++ [d]) ++ after := by
      simp
    rw [htext]
    exact ((neutral_of_isIdle hbefore).append (h.bracketed hclosing)).append
      (neutral_of_isIdle hafter)
  next => cases hbrackets

/-! ### Written names -/

theorem isIdle_of_isAlphanum {c : Char} (h : c.isAlphanum = true) : isIdle c = true := by
  have hne : ∀ d : Char, d.isAlphanum = false → c ≠ d := by
    rintro d hd rfl
    rw [h] at hd
    cases hd
  have hopening : closing? c = none := by
    unfold closing?
    split
    · exact absurd rfl (hne '(' rfl)
    · exact absurd rfl (hne '[' rfl)
    · exact absurd rfl (hne '\x7b' rfl)
    · rfl
  simp [isIdle, isClosing, hopening, hne StringLiteral.quote rfl, hne Identifier.backtick rfl,
    hne ')' rfl, hne ']' rfl, hne '\x7d' rfl]

theorem isIdle_of_isPart {c : Char} (h : Identifier.isPart c = true) : isIdle c = true := by
  rw [Identifier.isPart, Bool.or_eq_true, beq_iff_eq] at h
  rcases h with h | rfl
  · exact isIdle_of_isAlphanum h
  · rfl

/-- Plain identifiers have no quotes and brackets. -/
theorem all_isIdle_of_isPlain {name : String} (h : Identifier.isPlain name = true) :
    name.toList.all isIdle = true := by
  refine List.all_eq_true.2 fun c hc => isIdle_of_isPart ?_
  exact List.all_eq_true.1 (Identifier.all_isPart_of_isPlain h) c hc

/-- Between backticks a name cannot end. -/
theorem scan_quotedChars (pending cs : List Char) :
    (State.mk .inName pending).scan (cs.flatMap Identifier.quotedChar) =
      some ⟨.inName, pending⟩ := by
  induction cs with
  | nil => rfl
  | cons c cs ih =>
      rw [List.flatMap_cons, State.scan_append]
      by_cases hc : c = Identifier.backtick
      · -- the second of two backticks goes back into the name
        subst hc
        exact ih
      · simpa [Identifier.quotedChar, hc, State.scan_cons, State.step] using ih

/-- **Written names are neutral**, whatever they hold. -/
theorem neutral_escape (name : String) : Neutral (Identifier.escape name).toList := by
  cases hplain : Identifier.isPlain name with
  | true =>
      rw [Identifier.escape_of_isPlain hplain]
      exact neutral_of_isIdle (all_isIdle_of_isPlain hplain)
  | false =>
      rw [Identifier.toList_escape_of_not_isPlain hplain]
      intro s hs
      -- whether the name has ended at the last backtick is for the next character to say
      refine ⟨.afterBacktick, rfl, ?_⟩
      rw [Identifier.quoted, List.cons_append, State.scan_cons, step_of_isOutside hs]
      change (State.mk .inName s.pending).scan _ = _
      rw [State.scan_append, scan_quotedChars]
      rfl

/-! ### String literals -/

/-- Between single quotes a string cannot end. -/
theorem scan_escapedChars (pending cs : List Char) :
    (State.mk .inString pending).scan (cs.flatMap StringLiteral.escapeChar) =
      some ⟨.inString, pending⟩ := by
  have hchar : ∀ c, (State.mk .inString pending).scan (StringLiteral.escapeChar c) =
      some ⟨.inString, pending⟩ := by
    intro c
    obtain ⟨hplain, hbackslash, hquote⟩ | ⟨d, hd⟩ := StringLiteral.escapeChar_cases c
    · simp [hplain, State.scan_cons, State.step, hbackslash, hquote]
    · rw [hd]
      rfl
  induction cs with
  | nil => rfl
  | cons c cs ih =>
      rw [List.flatMap_cons, State.scan_append, hchar]
      exact ih

/-- **String literals are neutral**, whatever they hold. -/
theorem neutral_literal (text : String) : Neutral (StringLiteral.render text).toList := by
  rw [StringLiteral.toList_render]
  intro s hs
  refine ⟨.outside, rfl, ?_⟩
  rw [List.cons_append, State.scan_cons, step_of_isOutside hs]
  change (State.mk .inString s.pending).scan _ = _
  rw [State.scan_append, scan_escapedChars]
  rfl

end CypherQuery.Scanner
