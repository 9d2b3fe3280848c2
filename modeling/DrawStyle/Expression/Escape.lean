import DrawStyle.Expression.Cursor
import DrawStyle.Expression.Basic
import DrawStyle.Text.Digit
import DrawStyle.Unicode.Query

/-!
Backslashes in expressions.

A backslash before punctuation takes its meaning away, and gives one to some letters: a control
character, a character by its number, a set of characters, or a requirement on a place. Other
letters are refused.
-/

namespace DrawStyle

inductive Atom where
  | character (c : Char)
  /-- A byte that is no character of ASCII, where characters of Unicode are not meant. -/
  | byte (c : Char)
  | set (set : CharSet)
  | anchor (a : Anchor)
  | noSet (cause : ExpressionCause)
deriving Repr

namespace Escape

/-- The sets that have a letter of their own: digits, blanks and word characters. -/
def letterSet (unicode : Bool) (letter : Char) : CharSet :=
  if letter = 'd' then if unicode then Unicode.decimalNumber else .range '0' '9'
  else if letter = 's' then
    if unicode then Unicode.whiteSpace else .ofList ['\t', '\n', '\x0b', '\x0c', '\r', ' ']
  else if unicode then Unicode.wordCharacters
  else .unions [.range '0' '9', .range 'A' 'Z', .single '_', .range 'a' 'z']

/-- The set of a letter; a capital stands for the other characters, which are no text unless
they are characters of Unicode. -/
def letterAtom (unicode : Bool) (letter : Char) : Atom :=
  if !letter.isUpper then .set (letterSet unicode letter)
  else if unicode then .set (letterSet unicode letter.toLower).complement
  else .noSet .noText

/-- A question for the characters of a property, or for all others. -/
structure PropertyName where
  query : Unicode.Query
  negated : Bool
deriving DecidableEq, Repr

/-- What stands before a sign and behind it, if there is one; its first place counts. -/
def aroundSign? (sign : Text) : Text → Option (Text × Text)
  | [] => none
  | c :: t =>
    match afterFront? sign (c :: t) with
    | some rest => some ([], rest)
    | none => (aroundSign? sign t).map fun (front, rest) => (c :: front, rest)

/-- The question that is written in braces. A value stands behind an equals sign or a colon; a
value that is not wanted, behind an exclamation mark and an equals sign. -/
def propertyName (t : Text) : PropertyName :=
  match aroundSign? "!=".toList t with
  | some (property, value) => ⟨.valued property value, true⟩
  | none =>
    match (aroundSign? [':'] t).or (aroundSign? ['='] t) with
    | some (property, value) => ⟨.valued property value, false⟩
    | none => ⟨.named t, false⟩

/-- The set of a property, or of the characters without it. -/
def propertyAtom (flags : Flags) (negated : Bool) (name : PropertyName) : Atom :=
  if !flags.unicode then .noSet .unicodeNotAllowed
  else match name.query.set with
    | .ok set => .set ((flags.fold set).negateIf (negated != name.negated))
    | .error .noProperty => .noSet .propertyUnknown
    | .error .noValue => .noSet .propertyValueUnknown

/-- Reads the name of a property, from the letter on that announces it. -/
def readProperty (flags : Flags) (letter : Cursor) : Read (PropertyName × Cursor) :=
  let c := letter.advance flags
  match c.rest with
  | [] => refuse .escapeUnfinished c.here
  | d :: _ =>
    if d = '\x7b' then
      let (name, c) := (c.advance flags).takeAll flags (· ≠ '\x7d')
      if c.rest = [] then refuse .escapeUnfinished c.here else .ok (propertyName name, c.next)
    else if d = '\\' then refuse .propertyInvalid c.ahead
    else .ok (⟨.named [d], false⟩, c.advance flags)

def isCodePoint (n : Nat) : Bool := n < 0xD800 || (0xDFFF < n && n < 0x110000)

def readHexDigits (flags : Flags) : Nat → Cursor → Read (Text × Cursor)
  | 0, c => .ok ([], c)
  | n + 1, c =>
    match c.rest with
    | [] => refuse .escapeUnfinished c.here
    | d :: _ =>
      if (hexDigit? d).isNone then refuse .hexInvalidDigit c.ahead
      else
        match readHexDigits flags n (c.advance flags) with
        | .error fault => .error fault
        | .ok (digits, c) => .ok (d :: digits, c)

def readBracedHex (flags : Flags) (brace : Cursor) : Read (Char × Cursor) :=
  let (digits, c) := (brace.advance flags).takeAll flags fun d => (hexDigit? d).isSome
  match c.rest with
  | [] => refuse .escapeUnfinished (c.since brace.offset)
  | d :: _ =>
    let behind := c.advance flags
    if d ≠ '\x7d' then refuse .hexInvalidDigit c.ahead
    else if digits = [] then refuse .hexEmpty (behind.since brace.offset)
    else if isCodePoint (hexadecimalValue digits) then
      .ok (.ofNat (hexadecimalValue digits), behind)
    else refuse .hexNoCharacter (c.since (brace.offset + 1))

/-- How many digits follow a letter that announces the number of a character. -/
def hexDigitCount (letter : Char) : Nat :=
  if letter = 'x' then 2 else if letter = 'u' then 4 else 8

/-- The atom of the number of a character; two digits stand for a byte. -/
def hexAtom (flags : Flags) (digits : Text) : Atom :=
  let n := hexadecimalValue digits
  if digits.length = 2 ∧ 128 ≤ n ∧ !flags.unicode then .byte (.ofNat n)
  else .character (.ofNat n)

/-- Reads a character that is given by its number, from the letter on that announces it. -/
def readHex (flags : Flags) (name : Char) (letter : Cursor) : Read (Atom × Cursor) :=
  let c := letter.advance flags
  match c.rest with
  | [] => refuse .escapeUnfinished c.here
  | d :: _ =>
    if d = '\x7b' then (readBracedHex flags c).map fun (d, c) => (.character d, c)
    else
      match readHexDigits flags (hexDigitCount name) c with
      | .error fault => .error fault
      | .ok (digits, behind) =>
        if isCodePoint (hexadecimalValue digits) then .ok (hexAtom flags digits, behind)
        else refuse .hexNoCharacter (behind.since c.offset)

def isEdgeLetter (c : Char) : Bool := ('A' ≤ c && c ≤ 'Z') || ('a' ≤ c && c ≤ 'z') || c == '-'

def edge? (plain : Bool) (name : Text) : Option Anchor :=
  if name = "start".toList then some (.wordStart plain)
  else if name = "end".toList then some (.wordStop plain)
  else if name = "start-half".toList then some (.noWordBefore plain)
  else if name = "end-half".toList then some (.noWordAfter plain)
  else none

/-- Reads what stands behind `\b`, which began at `first`: the name of a word edge in braces,
or nothing. Braces without a name count repetitions. -/
def readEdge (flags : Flags) (first : Nat) (c : Cursor) : Read (Anchor × Cursor) :=
  let plain := !flags.unicode
  if c.rest.head? ≠ some '\x7b' then .ok (.wordEdge plain, c)
  else
    let inside := c.advance flags
    match inside.rest with
    | [] => refuse .wordEdgeUnfinished (inside.since first)
    | d :: _ =>
      if !isEdgeLetter d then .ok (.wordEdge plain, c)
      else
        let (name, stop) := inside.takeAll flags isEdgeLetter
        if stop.rest.head? ≠ some '\x7d' then refuse .wordEdgeUnclosed (stop.since c.offset)
        else match edge? plain name with
          | some a => .ok (a, stop.next)
          | none => refuse .wordEdgeUnknown (stop.since inside.offset)

def control? (letter : Char) : Option Char :=
  if letter = 'a' then some '\x07'
  else if letter = 'f' then some '\x0c'
  else if letter = 't' then some '\t'
  else if letter = 'n' then some '\n'
  else if letter = 'r' then some '\r'
  else if letter = 'v' then some '\x0b'
  else none

def anchor? (plain : Bool) (letter : Char) : Option Anchor :=
  if letter = 'A' then some .start
  else if letter = 'z' then some .stop
  else if letter = 'B' then some (.noWordEdge plain)
  else if letter = '<' then some (.wordStart plain)
  else if letter = '>' then some (.wordStop plain)
  else none

def isPunctuation (c : Char) : Bool :=
  c.toNat < 128 && !isAlphanumeric c && c != '<' && c != '>'

/-- The meaning of a character behind a backslash, where nothing that follows adds to it. -/
def atom? (flags : Flags) (d : Char) : Option Atom :=
  if isPunctuation d then some (.character d)
  else if "dswDSW".toList.contains d then some (letterAtom flags.unicode d)
  else ((control? d).map .character).or ((anchor? (!flags.unicode) d).map .anchor)

def read (flags : Flags) (backslash : Cursor) : Read (Atom × Cursor) :=
  let c := backslash.next
  let first := backslash.offset
  match c.rest with
  | [] => refuse .escapeUnfinished (c.since first)
  | d :: _ =>
    if isDigit d then refuse .backReference (c.next.since first)
    else if "xuU".toList.contains d then readHex flags d c
    else if "pP".toList.contains d then
      match readProperty flags c with
      | .error fault => .error fault
      | .ok (name, c) => .ok (propertyAtom flags (d == 'P') name, c)
    else if d = 'b' then
      match readEdge flags first c.next with
      | .error fault => .error fault
      | .ok (a, c) => .ok (.anchor a, c)
    else
      match atom? flags d with
      | some atom => .ok (atom, c.next)
      | none => refuse .escapeUnknown (c.next.since first)

end Escape

end DrawStyle
