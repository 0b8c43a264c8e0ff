/-
**Text without commands to a terminal.**

A terminal takes control characters as commands, and an escape character starts a command of
several characters: a short one, one with parameters after an opening bracket, or one with a
content of its own.  Without its commands a text can be shown anywhere.  Tabs, line breaks and page
breaks are control characters too, but they stay.

They also interrupt a command that has no content: what follows is text up to the next other
control character, and there the command goes on, unless the text had a character beyond ASCII.

Main definitions:

* `CypherQuery.Terminal.Mode`, `CypherQuery.Terminal.Mode.after` — where commands start and end;
* `CypherQuery.Terminal.State`, `CypherQuery.Terminal.State.shows` — which characters are shown;
* `CypherQuery.Terminal.shown` — **a text without its commands**;
* `CypherQuery.Terminal.emphasised` — a text in a style of its own.

Main results:

* `CypherQuery.Terminal.shown_of_isVisible` — a text without commands is shown as it is;
* `CypherQuery.Terminal.shown_emphasised` — a style adds nothing that is shown.
-/

set_option autoImplicit false

namespace CypherQuery.Terminal

/-! ### Characters -/

/-- The escape character. -/
def escape : Char := '\x1b'

/-- The character that rings the bell, and that ends a title. -/
def bell : Char := '\x07'

/-- The control characters that end every command. -/
def isCancel (c : Char) : Bool := c == '\x18' || c == '\x1a'

/-- The control characters that stay: tabs, line breaks and page breaks. -/
def isSpacing (c : Char) : Bool := c ∈ ['\t', '\n', '\x0c', '\r']

/-- The characters of ASCII. -/
def isAscii (c : Char) : Bool := c ≤ '\x7f'

/-- The characters of which commands are made: those of ASCII that are no control characters. -/
def isGraphic (c : Char) : Bool := ' ' ≤ c && c ≤ '~'

/-- The characters that are shown where they are text. -/
def isVisible (c : Char) : Bool := isSpacing c || isGraphic c || !isAscii c

/-- The characters between the start and the end of a short command. -/
def isFiller (c : Char) : Bool := ' ' ≤ c && c ≤ '/'

/-- The byte that ends the content of a command. -/
def terminator : UInt8 := 0x9c

/-- Whether a character ends the content of a command, by one of its bytes in UTF-8. -/
def isTerminating (c : Char) : Bool := (String.utf8EncodeChar c).contains terminator

/-! ### Commands -/

/-- What was begun. -/
inductive Mode where
  /-- Text. -/
  | text
  /-- A command, by an escape character. -/
  | escape
  /-- A short command, of which the last character is missing. -/
  | short
  /-- A command with parameters. -/
  | parameters
  /-- A command that sets a title. -/
  | title
  /-- A command for a device, of which nothing else was given. -/
  | device
  /-- A command for a device, of which some parameters were given. -/
  | deviceParameters
  /-- A command for a device, of which the parameters were given. -/
  | deviceFiller
  /-- The content of any other command. -/
  | content
  deriving DecidableEq, Repr

namespace Mode

/-- Whether a control character that stays interrupts a command. -/
def isInterruptible : Mode → Bool
  | .escape | .short | .parameters => true
  | _ => false

/-- The mode after the character that follows an escape character. -/
def afterEscape (c : Char) : Mode :=
  if isFiller c then .short
  else if c = '[' then .parameters
  else if c = ']' then .title
  else if c = 'P' then .device
  else if c ∈ ['X', '^', '_'] then .content
  else .text

/-- The mode after a character of which commands are made. -/
def afterGraphic (mode : Mode) (c : Char) : Mode :=
  match mode with
  | .escape => afterEscape c
  | .short => if isFiller c then .short else .text
  | .parameters => if c < '@' then .parameters else .text
  | .device =>
      if isFiller c then .deviceFiller else if c < '@' then .deviceParameters else .content
  | .deviceParameters =>
      if isFiller c then .deviceFiller else if c < '<' then .deviceParameters else .content
  | .deviceFiller => if isFiller c then .deviceFiller else .content
  | mode => mode

/-- The mode after a character that is not shown. -/
def after (mode : Mode) (c : Char) : Mode :=
  if c = Terminal.escape then .escape
  else if isCancel c || (mode == .title && c == bell) || (mode == .content && isTerminating c) then
    .text
  else if isGraphic c then mode.afterGraphic c
  else mode

end Mode

/-! ### Text -/

/-- Where a reader of a text is. -/
structure State where
  /-- What was begun. -/
  mode : Mode
  /-- Whether the last character was shown. -/
  isShowing : Bool
  deriving DecidableEq, Repr

namespace State

/-- The start of a text. -/
def start : State := ⟨.text, false⟩

/-- Whether the next character is shown: in text, and where it interrupts a command. -/
def shows (s : State) (c : Char) : Bool :=
  if s.isShowing || s.mode == .text then isVisible c else s.mode.isInterruptible && isSpacing c

/-- The state after a character. -/
def next (s : State) (c : Char) : State :=
  if s.shows c then ⟨if isAscii c then s.mode else .text, true⟩ else ⟨s.mode.after c, false⟩

end State

/-- The characters that are shown. -/
def shownFrom (s : State) : List Char → List Char
  | [] => []
  | c :: rest => if s.shows c then c :: shownFrom (s.next c) rest else shownFrom (s.next c) rest

/-- **A text without its commands.** -/
def shown (text : String) : String := String.ofList (shownFrom .start text.toList)

/-- A text between the commands for a style of its own and for the standard style. -/
def emphasised (text : String) : String := "\x1b[1m" ++ text ++ "\x1b[0m"

/-! ### Visible text -/

/-- In text it does not matter whether the last character was shown. -/
theorem shownFrom_text (showing : Bool) (cs : List Char) :
    shownFrom ⟨.text, showing⟩ cs = shownFrom .start cs := by
  cases cs with
  | nil => rfl
  | cons c rest => simp [shownFrom, State.next, State.shows, State.start]

/-- In text a visible character is shown, and text follows. -/
theorem shownFrom_start_cons {c : Char} (h : isVisible c = true) (rest : List Char) :
    shownFrom .start (c :: rest) = c :: shownFrom .start rest := by
  have hShows : State.start.shows c = true := by simp [State.shows, State.start, h]
  simp only [shownFrom, hShows, if_true, State.next]
  simp [State.start, shownFrom_text]

/-- In text visible characters are shown, and text follows. -/
theorem shownFrom_start_append {cs : List Char} (h : ∀ c ∈ cs, isVisible c = true)
    (rest : List Char) : shownFrom .start (cs ++ rest) = cs ++ shownFrom .start rest := by
  induction cs with
  | nil => rfl
  | cons c cs ih =>
      rw [List.cons_append, shownFrom_start_cons (h c (by simp)),
        ih fun d hd => h d (by simp [hd]), List.cons_append]

/-- A text without commands is shown as it is. -/
theorem shown_of_isVisible {text : String} (h : ∀ c ∈ text.toList, isVisible c = true) :
    shown text = text := by
  have hs := shownFrom_start_append h []
  rw [List.append_nil] at hs
  rw [shown, hs, shownFrom, List.append_nil, String.ofList_toList]

/-- A style adds nothing that is shown. -/
theorem shown_emphasised {text : String} (h : ∀ c ∈ text.toList, isVisible c = true) :
    shown (emphasised text) = text := by
  have hBegin (rest : List Char) :
      shownFrom .start ("\x1b[1m".toList ++ rest) = shownFrom .start rest :=
    shownFrom_text false rest
  have hEnd : shownFrom .start "\x1b[0m".toList = [] := by decide
  rw [shown, emphasised, String.toList_append, String.toList_append, List.append_assoc, hBegin,
    shownFrom_start_append h, hEnd, List.append_nil, String.ofList_toList]

end CypherQuery.Terminal
