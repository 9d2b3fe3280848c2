import DrawStyle.Expression.Bracket
import DrawStyle.Expression.Group
import DrawStyle.Expression.Normal

/-!
Reading a regular expression.

An expression is a choice of sequences of items, each of which may be repeated. The groups that
are open are kept on a stack with the flags that hold when they are closed. What is wrong with
the form of an expression is found first, then what is nested too deep, and only then what the
expression asks for and is not to be had.
-/

namespace DrawStyle.Expression

/-- An item of a sequence, where it begins, and what is nested in it. -/
structure Item where
  expression : Expression
  first : Nat
  levels : Levels := []
deriving Repr

structure Choices where
  first : Nat := 0
  complete : List Expression := []
  levels : Levels := []
  start : Nat := 0
  items : List Item := []
  repeatable : Bool := false
deriving Repr

namespace Choices

def startAt (c : Cursor) : Choices := { first := c.offset, start := c.offset }

def last (c : Choices) : Expression := sequenceOf (c.items.reverse.map Item.expression)

/-- What is nested in the last choice, which ends at a place. Several items are nested in their
sequence. -/
def lastLevels (c : Choices) (stop : Cursor) : Levels :=
  let levels : Levels := c.items.foldl (fun levels item => item.levels.beside levels) []
  if c.items.length ≤ 1 then levels else levels.under (stop.since c.start)

def value (c : Choices) (stop : Cursor) : Expression × Levels :=
  if c.complete = [] then (c.last, c.lastLevels stop)
  else
    (choiceOf (c.last :: c.complete).reverse,
      (c.levels.beside (c.lastLevels stop)).under (stop.since c.first))

def add (c : Choices) (item : Item) : Choices :=
  { c with items := item :: c.items, repeatable := true }

def addEmpty (c : Choices) (first : Nat) : Choices :=
  { c with items := ⟨empty, first, []⟩ :: c.items, repeatable := false }

/-- Choices with the last item repeated. What is nested too deep does not grow any more. -/
def repeatLast (c : Choices) (least : Nat) (most : Option Nat) (greedy : Bool)
    (behind : Cursor) : Choices :=
  match c.items with
  | [] => c
  | item :: items =>
    let repetition := if item.levels.tooDeep?.isSome then item.expression
      else repeatedOf item.expression least most greedy
    { c with items :=
        ⟨repetition, item.first, item.levels.under (behind.since item.first)⟩ :: items }

def another (c : Choices) (sign : Cursor) : Choices where
  first := c.first
  complete := c.last :: c.complete
  levels := c.levels.beside (c.lastLevels sign)
  start := sign.next.offset

end Choices

structure OpenGroup where
  parenthesis : Stretch
  number : Option Nat
  around : Choices
  flags : Flags
deriving Repr

structure Reading where
  cursor : Cursor
  flags : Flags := {}
  inner : Choices := {}
  outer : List OpenGroup := []
  groups : Nat := 0
  names : List (Text × Stretch) := []
  missing : Option ExpressionFault := none
deriving Repr

def lineStartAnchor (flags : Flags) : Anchor :=
  if !flags.multiLine then .start else if flags.anyLine then .anyLineStart else .lineStart

def lineStopAnchor (flags : Flags) : Anchor :=
  if !flags.multiLine then .stop else if flags.anyLine then .anyLineStop else .lineStop

def dotSet (flags : Flags) : CharSet :=
  if flags.dotAll then .all
  else CharSet.complement (.ofList (if flags.anyLine then ['\r', '\n'] else ['\n']))

/-- The expression for a character: a set where it differs in case from others. -/
def ofCharacter (flags : Flags) (c : Char) : Expression :=
  if !flags.caseless then literal [c]
  else if flags.unicode then setOf false (.ofList (Unicode.caseVariants c))
  else setOf true (Unicode.plainCaseClosure (.single c))

def ofAtom (flags : Flags) : Atom → Expression
  | .character c => ofCharacter flags c
  | .byte c => literal [c]
  | .set s => setOf (!flags.unicode) s
  | .anchor a => anchor a
  | .noSet _ => nothing

def atomFault? (stretch : Stretch) : Atom → Option ExpressionFault
  | .noSet cause => some { cause, stretch }
  | .byte _ => some { cause := .noText, stretch }
  | _ => none

namespace Reading

def add (r : Reading) (e : Expression) (levels : Levels) (missing : Option ExpressionFault)
    (behind : Cursor) : Reading :=
  { r with cursor := behind, inner := r.inner.add ⟨e, r.cursor.offset, levels⟩,
           missing := r.missing.or missing }

/-- Repeats the last item; `marked` is set where a question mark asks for the other greed. -/
def repeatLast (r : Reading) (least : Nat) (most : Option Nat) (marked : Bool)
    (behind : Cursor) : Reading :=
  { r with cursor := behind,
           inner := r.inner.repeatLast least most (marked == r.flags.markedGreed) behind }

def requireItem (r : Reading) : Read Unit :=
  if r.inner.repeatable then .ok () else refuse .repetitionOfNothing r.cursor.here

def readMark (c : Cursor) : Bool × Cursor :=
  match c.behind? ['?'] with
  | some c => (true, c)
  | none => (false, c)

def readSign (r : Reading) (least : Nat) (most : Option Nat) : Read Reading := do
  r.requireItem
  let (marked, behind) := readMark r.cursor.next
  return r.repeatLast least most marked behind

def maxCount : Nat := 0xFFFFFFFF

/-- A number of repetitions and the cursor behind it, or why it is none. -/
def readCount (flags : Flags) (c : Cursor) : Read Nat × Cursor :=
  let first := (c.takeAll { flags with spaced := false } isBlank).2
  let (digits, past) := first.takeAll flags isDigit
  let behind := (past.takeAll flags isBlank).2
  let stretch := past.since first.offset
  (if digits = [] then refuse .repetitionNoNumber stretch
    else if decimalValue digits ≤ maxCount then .ok (decimalValue digits)
    else refuse .repetitionNumberTooBig stretch, behind)

/-- Reads the numbers of repetitions between braces, from the opening brace on. -/
def readCounts (flags : Flags) (brace : Cursor) : Read ((Nat × Option Nat) × Cursor) := do
  let unclosed (c : Cursor) : Read Unit :=
    if c.rest = [] then refuse .repetitionUnclosed (c.since brace.offset) else .ok ()
  let c := brace.advance flags
  unclosed c
  let (least, c) := readCount flags c
  unclosed c
  if c.rest.head? = some ',' then
    let c := c.advance flags
    unclosed c
    if c.rest.head? = some '\x7d' then return ((← least, none), c)
    else
      let least ← least
      let (most, c) := readCount flags c
      return ((least, some (← most)), c)
  else
    let least ← least
    return ((least, some least), c)

/-- Reads repetitions that are counted, from the opening brace on. -/
def readCounted (r : Reading) : Read Reading := do
  r.requireItem
  let ((least, most), c) ← readCounts r.flags r.cursor
  if c.rest.head? ≠ some '\x7d' then refuse .repetitionUnclosed (c.since r.cursor.offset)
  else
    let (marked, c) := readMark (c.advance r.flags)
    if most.all (least ≤ ·) then return r.repeatLast least most marked c
    else refuse .repetitionReversed (c.since r.cursor.offset)

def openGroup (r : Reading) : Read Reading := do
  let (kind, c) ← GroupKind.read r.flags r.cursor
  let opened (number : Option Nat) (flags : Flags) (names : List (Text × Stretch)) : Reading :=
    { r with cursor := c, flags, inner := .startAt c, names,
             groups := number.getD r.groups,
             outer := ⟨r.cursor.ahead, number, r.inner, r.flags⟩ :: r.outer }
  let number := some (r.groups + 1)
  match kind with
  | .plain => return opened number r.flags r.names
  | .flagged flags => return opened none flags r.names
  | .change flags =>
    return { r with cursor := c, flags, inner := r.inner.addEmpty r.cursor.offset }
  | .named name stretch =>
    match r.names.find? fun (n, _) => n == name with
    | some (_, earlier) => .error ⟨.groupNameTwice, stretch, some earlier⟩
    | none => return opened number r.flags ((name, stretch) :: r.names)

def closeGroup (r : Reading) : Read Reading :=
  match r.outer with
  | [] => refuse .groupUnopened r.cursor.ahead
  | g :: outer =>
    let (e, levels) := r.inner.value r.cursor
    let behind := r.cursor.next
    let first := g.parenthesis.first
    let e := match g.number with
      | some number => group number e
      | none => e
    .ok { r with cursor := behind, flags := g.flags, outer,
                 inner := g.around.add ⟨e, first, levels.under (behind.since first)⟩ }

def readAtom (r : Reading) (c : Char) : Read Reading :=
  let behind := r.cursor.next
  if c = '\\' then
    match Escape.read r.flags r.cursor with
    | .error fault => .error fault
    | .ok (atom, behind) =>
      .ok (r.add (ofAtom r.flags atom) [] (atomFault? (behind.since r.cursor.offset) atom) behind)
  else if c = '.' then
    .ok (r.add (setOf (!r.flags.unicode) (dotSet r.flags)) []
      (if r.flags.unicode then none else some ⟨.noText, r.cursor.ahead, none⟩) behind)
  else if c = '^' then .ok (r.add (anchor (lineStartAnchor r.flags)) [] none behind)
  else if c = '$' then .ok (r.add (anchor (lineStopAnchor r.flags)) [] none behind)
  else .ok (r.add (ofCharacter r.flags c) [] none behind)

/-- Reads what begins with a character, in at most `n` steps. -/
def step (n : Nat) (r : Reading) (c : Char) : Read Reading :=
  if c = '(' then r.openGroup
  else if c = ')' then r.closeGroup
  else if c = '|' then .ok { r with cursor := r.cursor.next, inner := r.inner.another r.cursor }
  else if c = '[' then
    match Bracket.read r.flags n r.cursor with
    | .error fault => .error fault
    | .ok (⟨part, missing⟩, behind) =>
      .ok (r.add (setOf (!r.flags.unicode) part.set) part.levels missing behind)
  else if c = '?' then r.readSign 0 (some 1)
  else if c = '*' then r.readSign 0 none
  else if c = '+' then r.readSign 1 none
  else if c = '\x7b' then r.readCounted
  else r.readAtom c

/-- The expression that was read, where all groups are closed, nothing is nested too deep and
nothing is missing. -/
def finish (r : Reading) : Read Expression :=
  match r.outer with
  | g :: _ => refuse .groupUnclosed g.parenthesis
  | [] =>
    let (e, levels) := r.inner.value r.cursor
    match levels.tooDeep?, r.missing with
    | some stretch, _ => refuse .tooDeep stretch
    | none, some fault => .error fault
    | none, none => .ok e

def readOn : Nat → Reading → Read Expression
  | 0, r => r.finish
  | n + 1, r =>
    let r := { r with cursor := r.cursor.skip r.flags }
    match r.cursor.rest with
    | [] => r.finish
    | c :: _ =>
      match r.step (n + 1) c with
      | .error fault => .error fault
      | .ok r => readOn n r

end Reading

/-- Reads a regular expression. Each step reads a character, so there are no more steps than
characters. -/
def parse (t : Text) : Read Expression := Reading.readOn t.length { cursor := .start t }

end DrawStyle.Expression
