import DrawStyle.Expression.Fault
import DrawStyle.Unicode.CaseFold

/-!
A place in an expression that is being read, and the flags under which it is read.
-/

namespace DrawStyle

structure Flags where
  caseless : Bool := false
  multiLine : Bool := false
  dotAll : Bool := false
  unicode : Bool := true
  spaced : Bool := false
  anyLine : Bool := false
  /-- Repetitions are greedy only if they are marked, and not the others. -/
  markedGreed : Bool := false
deriving DecidableEq, Repr

/-- A set as it is meant under some flags: with the characters that differ in case, or as it is
written. -/
def Flags.fold (flags : Flags) (s : CharSet) : CharSet :=
  if !flags.caseless then s
  else if flags.unicode then Unicode.caseClosure s
  else Unicode.plainCaseClosure s

/-- What was not read yet of an expression, and how many characters were read. -/
structure Cursor where
  rest : Text
  offset : Nat
deriving DecidableEq, Repr

abbrev Read (α : Type) := Except ExpressionFault α

def refuse {α : Type} (cause : ExpressionCause) (stretch : Stretch) : Read α :=
  .error { cause, stretch }

namespace Cursor

def start (t : Text) : Cursor := ⟨t, 0⟩

def here (c : Cursor) : Stretch := ⟨c.offset, c.offset⟩

def ahead (c : Cursor) : Stretch := ⟨c.offset, c.offset + 1⟩

/-- The stretch that was read since a place. -/
def since (first : Nat) (c : Cursor) : Stretch := ⟨first, c.offset⟩

def next (c : Cursor) : Cursor :=
  match c.rest with
  | [] => c
  | _ :: rest => ⟨rest, c.offset + 1⟩

def behind? (c : Cursor) (front : Text) : Option Cursor :=
  (afterFront? front c.rest).map fun rest => ⟨rest, c.offset + front.length⟩

/-- The cursor behind blanks and comments; a comment goes on to the end of its line. -/
def skipFrom (inComment : Bool) : Text → Nat → Cursor
  | [], n => ⟨[], n⟩
  | c :: t, n =>
    if inComment then skipFrom (c ≠ '\n') t (n + 1)
    else if isBlank c then skipFrom false t (n + 1)
    else if c = '#' then skipFrom true t (n + 1)
    else ⟨c :: t, n⟩

def skip (flags : Flags) (c : Cursor) : Cursor :=
  if flags.spaced then skipFrom false c.rest c.offset else c

/-- The cursor behind the next character and what means nothing after it. -/
def advance (flags : Flags) (c : Cursor) : Cursor := c.next.skip flags

/-- The character that is taken for the one behind the next character and what means nothing
after it. Of a comment only the sign is passed over, and only once; where nothing else is left,
it is the very next character that counts. -/
def peek (flags : Flags) (c : Cursor) : Option Char :=
  let rest := c.next.rest
  if !flags.spaced then rest.head?
  else
    let ahead := match rest.dropWhile isBlank with
      | '#' :: t => t.dropWhile isBlank
      | t => t
    ahead.head?.or rest.head?

/-- The characters of a kind that come next behind `n` characters, and the cursor behind them.
Where blanks and comments mean nothing they are passed over. -/
def takeFrom (spaced inComment : Bool) (kind : Char → Bool) : Text → Nat → Text × Cursor
  | [], n => ([], ⟨[], n⟩)
  | c :: t, n =>
    if inComment then takeFrom spaced (c ≠ '\n') kind t (n + 1)
    else if spaced ∧ (isBlank c ∨ c = '#') then takeFrom spaced (c = '#') kind t (n + 1)
    else if kind c then
      let taken := takeFrom spaced false kind t (n + 1)
      (c :: taken.1, taken.2)
    else ([], ⟨c :: t, n⟩)

def takeAll (flags : Flags) (kind : Char → Bool) (c : Cursor) : Text × Cursor :=
  takeFrom flags.spaced false kind c.rest c.offset

end Cursor

end DrawStyle
