import DrawStyle.Text

/-!
Control sequences of a terminal.

A text that is meant for a terminal may hold sequences which the terminal obeys and does not
show. A sequence begins with an escape; the character behind it tells how the sequence goes on
and what ends it. All control characters but the blanks are left out as well, so that what is
left is a subsequence of the text that any reader can show.

A blank within a sequence is shown, and so is what comes behind it. The sequence goes on only
at the next character that is not shown.
-/

namespace DrawStyle

/-- The sequence that has begun, as far as it matters for what may come next. -/
inductive ControlSequence where
  | none
  | escape
  /-- Behind an escape and a character that selects something; one more is to come. -/
  | selection
  | function
  /-- A message to the device: its start, its parameters, what stands behind them, its text. -/
  | device
  | deviceParameters
  | deviceSelection
  | deviceText
  | command
deriving DecidableEq, Repr

def isControl (c : Char) : Bool := c < ' '

def isControlBlank (c : Char) : Bool := c = '\t' || c = '\n' || c = '\x0c' || c = '\r'

/-- Whether the encoding of a character holds the byte that ends the text of a message. -/
def hasTerminator (c : Char) : Bool := (String.utf8EncodeChar c).contains 0x9c

namespace ControlSequence

/-- What has begun behind a character of a sequence. An escape begins a new one, and two control
characters break one off. Outside of the text of a message, characters beyond ASCII change
nothing. -/
def next (s : ControlSequence) (c : Char) : ControlSequence :=
  let inRange (first last : Char) : Bool := first ≤ c && c ≤ last
  if c = '\x1b' then .escape
  else if c = '\x18' ∨ c = '\x1a' then .none
  else match s with
  | none => .none
  | escape =>
    if inRange ' ' '/' then .selection
    else if c = '[' then .function
    else if c = ']' then .command
    else if c = 'P' then .device
    else if c = 'X' ∨ c = '^' ∨ c = '_' then .deviceText
    else if inRange '0' '~' then .none
    else s
  | selection => if inRange '0' '~' then .none else s
  | function => if inRange '@' '~' then .none else s
  | device =>
    if inRange ' ' '/' then .deviceSelection
    else if inRange '0' '?' then .deviceParameters
    else if inRange '@' '~' then .deviceText
    else s
  | deviceParameters =>
    if inRange ' ' '/' then .deviceSelection
    else if inRange '<' '~' then .deviceText
    else s
  | deviceSelection => if inRange '0' '~' then .deviceText else s
  | deviceText => if hasTerminator c then .none else s
  | command => if c = '\x07' then .none else s

def shows (s : ControlSequence) (c : Char) : Bool :=
  match s with
  | none => isControlBlank c || (!isControl c && c != '\x7f')
  | escape => isControlBlank c
  | selection => isControlBlank c
  | function => isControlBlank c
  | _ => false

end ControlSequence

structure Terminal where
  sequence : ControlSequence := .none
  showing : Bool := false
deriving DecidableEq, Repr

namespace Terminal

/-- The terminal behind a character, and whether the character is shown. What comes behind a
character that was shown is taken as if no sequence had begun, and a character beyond ASCII ends
the sequence there. -/
def take (t : Terminal) (c : Char) : Terminal × Bool :=
  if t.showing ∧ ControlSequence.none.shows c then
    (⟨if c.toNat < 128 then t.sequence else .none, true⟩, true)
  else
    let shown := t.sequence.shows c
    (⟨t.sequence.next c, shown⟩, shown)

def shown (t : Terminal) : Text → Text
  | [] => []
  | c :: cs =>
    let taken := t.take c
    if taken.2 then c :: shown taken.1 cs else shown taken.1 cs

end Terminal

/-- A text without what a terminal obeys and does not show. -/
def withoutControls (t : Text) : Text := Terminal.shown {} t

end DrawStyle
