import DrawStyle.Expression.Basic
import DrawStyle.Unicode.Property

/-!
Whether a text has a part that fits an expression.

An expression is searched for in all places of a text at once. The places that can be reached
are marked, one mark for the place before each character and one for the end; an expression
takes the marks of the places where it may start to those of the places where it may end. In a
repetition marks are only added until nothing changes, and after as many rounds as a text has
places nothing can change any more.
-/

namespace DrawStyle

/-- A place in a text: the characters that stand before it and after it, if there are any. -/
structure Place where
  before : Option Char
  after : Option Char
deriving DecidableEq, Repr

/-- The places of a text that stands behind a character or at the start. -/
def placesAfter (before : Option Char) : Text → List Place
  | [] => [⟨before, none⟩]
  | c :: t => ⟨before, some c⟩ :: placesAfter (some c) t

def places (t : Text) : List Place := placesAfter none t

def isPlainWordCharacter (c : Char) : Bool := isAlphanumeric c || c == '_'

def isInWord (plain : Bool) (c : Option Char) : Bool :=
  c.any fun c => if plain then isPlainWordCharacter c else Unicode.wordCharacters.holds c

def Anchor.holds (a : Anchor) (p : Place) : Bool :=
  match a with
  | start => p.before.isNone
  | stop => p.after.isNone
  | lineStart => p.before.all (· == '\n')
  | lineStop => p.after.all (· == '\n')
  | anyLineStart => p.before.all fun c => c == '\n' || (c == '\r' && p.after != some '\n')
  | anyLineStop => p.after.all fun c => c == '\r' || (c == '\n' && p.before != some '\r')
  | wordEdge plain => isInWord plain p.before != isInWord plain p.after
  | noWordEdge plain => isInWord plain p.before == isInWord plain p.after
  | wordStart plain => !isInWord plain p.before && isInWord plain p.after
  | wordStop plain => isInWord plain p.before && !isInWord plain p.after
  | noWordBefore plain => !isInWord plain p.before
  | noWordAfter plain => !isInWord plain p.after

abbrev Marks := List Bool

namespace Marks

def either (a b : Marks) : Marks := List.zipWith (· || ·) a b

def keep (holds : Place → Bool) (ps : List Place) (marks : Marks) : Marks :=
  List.zipWith (fun p m => m && holds p) ps marks

/-- The places behind the marked ones that have a character of a kind before them. -/
def shift (kind : Char → Bool) (ps : List Place) (marks : Marks) : Marks :=
  (false :: keep (fun p => p.after.any kind) ps marks).dropLast

/-- The marks after exactly so many rounds; the work ends where a round changes nothing. -/
def rounds (round : Marks → Marks) : Nat → Marks → Marks
  | 0, marks => marks
  | n + 1, marks =>
    let next := round marks
    if next = marks then marks else rounds round n next

/-- All marks of up to so many rounds; the work ends where a round marks nothing new. -/
def spread (round : Marks → Marks) : Nat → Marks → Marks
  | 0, marks => marks
  | n + 1, marks =>
    let more := either marks (round marks)
    if more = marks then marks else spread round n more

end Marks

namespace Expression

/-- The places where an expression may end if it starts at one of the marked ones. -/
def ends (ps : List Place) : Expression → Marks → Marks
  | empty, marks => marks
  | literal t, marks => t.foldl (fun marks c => marks.shift (· == c) ps) marks
  | set _ s, marks => marks.shift s.holds ps
  | anchor a, marks => marks.keep a.holds ps
  | group _ e, marks => e.ends ps marks
  | repeated e least most _, marks =>
    let few := min least ps.length
    let more := match most with
      | none => ps.length
      | some most => min (most - least) ps.length
    Marks.spread (e.ends ps) more (Marks.rounds (e.ends ps) few marks)
  | sequence a b, marks => b.ends ps (a.ends ps marks)
  | choice a b, marks => (a.ends ps marks).either (b.ends ps marks)

def isIn (e : Expression) (t : Text) : Bool :=
  let ps := places t
  (e.ends ps (ps.map fun _ => true)).any id

end Expression

end DrawStyle
