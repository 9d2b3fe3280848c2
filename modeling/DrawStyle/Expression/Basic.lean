import DrawStyle.Text.CharSet

/-!
Regular expressions.

An expression is a sequence of parts or a choice of branches, down to literal texts and sets of
characters. A sequence of several parts is the first part before the sequence of the others, and
so are the branches of a choice.
-/

namespace DrawStyle

/-- What is required of a place, without reading a character. -/
inductive Anchor where
  | start
  | stop
  /-- The start of a line, after a newline or the start of the text. -/
  | lineStart
  | lineStop
  /-- The start of a line where a carriage return, a newline or both end one. -/
  | anyLineStart
  | anyLineStop
  /-- A word starts or ends here; of words in ASCII only if `plain` is set. -/
  | wordEdge (plain : Bool)
  | noWordEdge (plain : Bool)
  | wordStart (plain : Bool)
  | wordStop (plain : Bool)
  | noWordBefore (plain : Bool)
  | noWordAfter (plain : Bool)
deriving DecidableEq, Repr

inductive Expression where
  | empty
  | literal (t : Text)
  /-- A set of characters; `plain` tells those of ASCII from others that look alike. -/
  | set (plain : Bool) (s : CharSet)
  | anchor (a : Anchor)
  /-- An expression whose part of a text can be told from others by a number. -/
  | group (number : Nat) (e : Expression)
  /-- An expression so many times in a row, with or without an upper bound; rather often than
  seldom if it is `greedy`. -/
  | repeated (e : Expression) (least : Nat) (most : Option Nat) (greedy : Bool)
  | sequence (a b : Expression)
  | choice (a b : Expression)
deriving DecidableEq, Repr

namespace Expression

def parts : Expression → List Expression
  | empty => []
  | sequence a b => a :: b.parts
  | e => [e]

def branches : Expression → List Expression
  | choice a b => a :: b.branches
  | e => [e]

/-- The number of parts and branches on all levels of an expression. -/
def size : Expression → Nat
  | group _ e => e.size + 1
  | repeated e _ _ _ => e.size + 1
  | sequence a b => a.size + b.size + 1
  | choice a b => a.size + b.size + 1
  | _ => 1

/-- The length of the shortest text that fits, unless there is a part that nothing fits. -/
def minLength? : Expression → Option Nat
  | empty => some 0
  | literal t => some t.length
  | set _ s => if s.ranges = [] then none else some 1
  | anchor _ => some 0
  | group _ e => e.minLength?
  | repeated e least _ _ => e.minLength?.map (least * ·)
  | sequence a b => a.minLength?.bind fun m => b.minLength?.map (m + ·)
  | choice a b => a.minLength?.bind fun m => b.minLength?.map (min m)

/-- Whether an expression reads no character in any case. A part that nothing fits reads one. -/
def readsNothing : Expression → Bool
  | empty => true
  | literal t => t = []
  | set _ _ => false
  | anchor _ => true
  | group _ e => e.readsNothing
  | repeated e _ most _ => most.isSome && e.readsNothing
  | sequence a b => a.readsNothing && b.readsNothing
  | choice a b => a.readsNothing && b.readsNothing

def startsWith (required : Anchor) : Expression → Bool
  | anchor a => a = required
  | group _ e => e.startsWith required
  | repeated e least _ _ => 0 < least && e.startsWith required
  | sequence a b =>
    a.startsWith required || (a.readsNothing && b.startsWith required)
  | choice a b => a.startsWith required && b.startsWith required
  | _ => false

def stopsWith (required : Anchor) : Expression → Bool
  | anchor a => a = required
  | group _ e => e.stopsWith required
  | repeated e least _ _ => 0 < least && e.stopsWith required
  | sequence a b =>
    b.stopsWith required || (b.readsNothing && a.stopsWith required)
  | choice a b => a.stopsWith required && b.stopsWith required
  | _ => false

end Expression

end DrawStyle
