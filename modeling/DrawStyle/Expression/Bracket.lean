import DrawStyle.Expression.Escape
import DrawStyle.Expression.Nesting

/-!
Sets of characters in brackets.

A set lists characters, ranges, named sets and further sets in brackets; two such lists can be
joined by an operation, and several operations are done from left to right. Brackets that are
open are kept on a stack, so that the innermost one is closed first.
-/

namespace DrawStyle

inductive SetOperation where
  | intersection
  | difference
  | symmetricDifference
deriving DecidableEq, Repr

def SetOperation.apply : SetOperation → CharSet → CharSet → CharSet
  | intersection => .intersection
  | difference => .difference
  | symmetricDifference => .symmetricDifference

/-- A part of a set in brackets: its characters, where it stands and what is nested in it. -/
structure SetPart where
  set : CharSet
  stretch : Stretch
  levels : Levels := []
deriving Repr

structure SetList where
  ranges : List CharRange := []
  count : Nat := 0
  /-- From the first item on to the last one; without items, where the list begins. -/
  stretch : Stretch
  levels : Levels := []
deriving Repr

namespace SetList

def start (c : Cursor) : SetList := { stretch := c.here }

def add (s : SetList) (item : SetPart) : SetList where
  ranges := item.set.ranges ++ s.ranges
  count := s.count + 1
  stretch := ⟨if s.count = 0 then item.stretch.first else s.stretch.first, item.stretch.past⟩
  levels := s.levels.beside item.levels

def value (s : SetList) : SetPart where
  set := .ofRanges s.ranges
  stretch := s.stretch
  levels := if s.count ≤ 1 then s.levels else s.levels.under s.stretch

end SetList

structure OpenSet where
  opening : Stretch
  negated : Bool
  left : Option (SetOperation × SetPart) := none
  items : SetList
deriving Repr

namespace OpenSet

def add (s : OpenSet) (item : SetPart) : OpenSet := { s with items := s.items.add item }

def joined (flags : Flags) (s : OpenSet) : SetPart :=
  let right := s.items.value
  match s.left with
  | none => right
  | some (op, left) =>
    let stretch : Stretch := ⟨left.stretch.first, right.stretch.past⟩
    ⟨op.apply (flags.fold left.set) (flags.fold right.set), stretch,
      (left.levels.beside right.levels).under stretch⟩

def operator (flags : Flags) (op : SetOperation) (behind : Cursor) (s : OpenSet) : OpenSet :=
  { s with left := some (op, s.joined flags), items := .start behind }

def close (flags : Flags) (closed : Cursor) (s : OpenSet) : SetPart :=
  let inside := s.joined flags
  let stretch := closed.since s.opening.first
  ⟨(flags.fold inside.set).negateIf s.negated, stretch, inside.levels.under stretch⟩

end OpenSet

namespace Bracket

def named? (name : Text) : Option CharSet :=
  let ranges (pairs : List (Char × Char)) : Option CharSet :=
    some (.ofRanges (pairs.map fun (first, last) => ⟨first.toNat, last.toNat⟩))
  if name = "alnum".toList then ranges [('0', '9'), ('A', 'Z'), ('a', 'z')]
  else if name = "alpha".toList then ranges [('A', 'Z'), ('a', 'z')]
  else if name = "ascii".toList then ranges [('\x00', '\x7f')]
  else if name = "blank".toList then ranges [('\t', '\t'), (' ', ' ')]
  else if name = "cntrl".toList then ranges [('\x00', '\x1f'), ('\x7f', '\x7f')]
  else if name = "digit".toList then ranges [('0', '9')]
  else if name = "graph".toList then ranges [('!', '~')]
  else if name = "lower".toList then ranges [('a', 'z')]
  else if name = "print".toList then ranges [(' ', '~')]
  else if name = "punct".toList then
    ranges [('!', '/'), (':', '@'), ('[', '\x60'), ('\x7b', '~')]
  else if name = "space".toList then ranges [('\t', '\r'), (' ', ' ')]
  else if name = "upper".toList then ranges [('A', 'Z')]
  else if name = "word".toList then ranges [('0', '9'), ('A', 'Z'), ('_', '_'), ('a', 'z')]
  else if name = "xdigit".toList then ranges [('0', '9'), ('A', 'F'), ('a', 'f')]
  else none

structure Items where
  part : SetPart
  missing : Option ExpressionFault := none
deriving Repr

/-- The named set that comes next, if one does: a name between colons in brackets. The characters
that are not in it make a text only with those of Unicode. -/
def readNamed? (flags : Flags) (bracket : Cursor) : Option (Items × Cursor) := do
  let c ← bracket.behind? "[:".toList
  let (negated, c) := match c.behind? ['^'] with
    | some c => (true, c)
    | none => (false, c)
  let (name, c) := c.takeAll {} (· ≠ ':')
  let c ← c.behind? ":]".toList
  let set ← named? name
  let stretch := c.since bracket.offset
  let missing := if negated ∧ !flags.unicode then some ⟨.noText, stretch, none⟩ else none
  return (⟨⟨(flags.fold set).negateIf negated, stretch, []⟩, missing⟩, c)

/-- Reads so many dashes at the front of a set; they stand for themselves. -/
def readDashes (flags : Flags) (first : Nat) (s : OpenSet) : Nat → Cursor → Read (OpenSet × Cursor)
  | 0, c => .ok (s, c)
  | n + 1, c =>
    let behind := c.advance flags
    if behind.rest = [] then refuse .setUnclosed ⟨first, first⟩
    else readDashes flags first (s.add ⟨.single '-', c.ahead, []⟩) n behind

/-- Reads an opening bracket and what has a meaning of its own directly behind it: a circumflex
negates the set, and a dash or a closing bracket stands for itself. -/
def readOpening (flags : Flags) (bracket : Cursor) : Read (OpenSet × Cursor) := do
  let first := bracket.offset
  let unclosed (c : Cursor) : Read Unit :=
    if c.rest = [] then refuse .setUnclosed (c.since first) else .ok ()
  let c := bracket.advance flags
  unclosed c
  let negated := c.rest.head? = some '^'
  let c := if negated then c.advance flags else c
  unclosed c
  let dashes := (c.takeAll flags (· == '-')).1
  let (s, c) ← readDashes flags first ⟨⟨first, first⟩, negated, none, .start c⟩ dashes.length c
  if s.items.count = 0 ∧ c.rest.head? = some ']' then
    let s := s.add ⟨.single ']', c.ahead, []⟩
    let c := c.advance flags
    unclosed c
    return ({ s with opening := c.since first }, c)
  else return ({ s with opening := c.since first }, c)

def readAtom (flags : Flags) (c : Cursor) : Read (Atom × Cursor) :=
  match c.rest with
  | [] => refuse .setUnclosed c.here
  | '\\' :: _ => Escape.read flags c
  | d :: _ => .ok (.character d, c.next)

def bound (atom : Atom) (stretch : Stretch) : Read Char :=
  match atom with
  | .character c => .ok c
  | .byte c => .ok c
  | _ => refuse .setRangeNoCharacter stretch

def atomFault? (flags : Flags) (atom : Atom) (stretch : Stretch) : Option ExpressionFault :=
  match atom with
  | .character c =>
    if c.toNat < 128 ∨ flags.unicode then none else some ⟨.unicodeNotAllowed, stretch, none⟩
  | .byte _ => some ⟨.noText, stretch, none⟩
  | .noSet cause => some ⟨cause, stretch, none⟩
  | _ => none

def items (flags : Flags) (atom : Atom) (stretch : Stretch) : Read Items :=
  let items (set : CharSet) : Read Items :=
    .ok ⟨⟨set, stretch, []⟩, atomFault? flags atom stretch⟩
  match atom with
  | .character c => items (.single c)
  | .byte c => items (.single c)
  | .set set => items set
  | .noSet _ => items .empty
  | .anchor _ => refuse .anchorInSet stretch

def isRangeDash (flags : Flags) (c : Cursor) : Bool :=
  let behind := c.peek flags
  c.rest.head? == some '-' && behind != some ']' && behind != some '-'

/-- Reads a character, a range or an escape in a set that is open. -/
def readItem (flags : Flags) (s : OpenSet) (first : Cursor) : Read (Items × Cursor) := do
  let (atom, behind) ← readAtom flags first
  let c := behind.skip flags
  if c.rest = [] then refuse .setUnclosed s.opening
  else if !isRangeDash flags c then
    return (← items flags atom (behind.since first.offset), c)
  else
    let second := c.advance flags
    if second.rest = [] then refuse .setUnclosed s.opening
    else
      let (last, c) ← readAtom flags second
      let a ← bound atom (behind.since first.offset)
      let z ← bound last (c.since second.offset)
      let missing := (atomFault? flags atom (behind.since first.offset)).or
        (atomFault? flags last (c.since second.offset))
      let stretch := c.since first.offset
      if a ≤ z then return (⟨⟨.range a z, stretch, []⟩, missing⟩, c)
      else refuse .setRangeReversed stretch

def operator? (c : Cursor) : Option (SetOperation × Cursor) :=
  ((c.behind? "&&".toList).map (.intersection, ·)).or
    (((c.behind? "--".toList).map (.difference, ·)).or
      ((c.behind? "~~".toList).map (.symmetricDifference, ·)))

/-- A set in brackets as it is being read: the innermost set that is open, those around it, and
why something that was listed is not to be had. -/
structure Reading where
  inner : OpenSet
  outer : List OpenSet
  missing : Option ExpressionFault
deriving Repr

def Reading.add (r : Reading) (items : Items) : Reading :=
  { r with inner := r.inner.add items.part, missing := r.missing.or items.missing }

/-- What is not to be had of a set that is closed: only with the characters of Unicode do those
that are not in a set make a text. -/
def closingFault (flags : Flags) (s : OpenSet) (closed : Cursor) : Option ExpressionFault :=
  if s.negated ∧ !flags.unicode then some ⟨.noText, closed.since s.opening.first, none⟩ else none

/-- One step inside brackets: the set, once the last bracket is closed, or how the reading
stands. -/
def step (flags : Flags) (r : Reading) (c : Cursor) : Read ((Items ⊕ Reading) × Cursor) := do
  match c.rest with
  | [] => refuse .setUnclosed r.inner.opening
  | d :: _ =>
    if d = '[' then
      match readNamed? flags c with
      | some (items, c) => return (.inr (r.add items), c)
      | none =>
        let (s, c) ← readOpening flags c
        return (.inr ⟨s, r.inner :: r.outer, r.missing⟩, c)
    else if d = ']' then
      let c := c.next
      let part := r.inner.close flags c
      let missing := r.missing.or (closingFault flags r.inner c)
      match r.outer with
      | [] => return (.inl ⟨part, missing⟩, c)
      | s :: outer => return (.inr ⟨s.add part, outer, missing⟩, c)
    else match operator? c with
      | some (op, c) => return (.inr ⟨r.inner.operator flags op c, r.outer, r.missing⟩, c)
      | none =>
        let (items, c) ← readItem flags r.inner c
        return (.inr (r.add items), c)

/-- Reads on inside brackets for at most `n` steps. -/
def readOn (flags : Flags) : Nat → Reading → Cursor → Read (Items × Cursor)
  | 0, r, _ => refuse .setUnclosed r.inner.opening
  | n + 1, r, c => do
    match ← step flags r (c.skip flags) with
    | (.inl items, c) => return (items, c)
    | (.inr r, c) => readOn flags n r c

/-- Reads a set in brackets, from the opening one on, in at most `n` steps. -/
def read (flags : Flags) (n : Nat) (bracket : Cursor) : Read (Items × Cursor) := do
  let (s, c) ← readOpening flags bracket
  readOn flags n ⟨s, [], none⟩ c

end Bracket

end DrawStyle
