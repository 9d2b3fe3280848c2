import DrawStyle.Text

/-!
Sets of characters, as ranges of code points.

The ranges of a set stand in ascending order and do not touch each other, so that two sets with
the same characters have the same ranges. Only characters count; a range may go on over the
numbers between them that belong to none.
-/

namespace DrawStyle

structure CharRange where
  first : Nat
  last : Nat
deriving DecidableEq, Repr

structure CharSet where
  ranges : List CharRange
deriving DecidableEq, Repr

def maxCodePoint : Nat := 0x10FFFF

/-- The next character behind a code point; the surrogates are none. -/
def codePointAfter (n : Nat) : Nat := if n = 0xD7FF then 0xE000 else n + 1

def codePointBefore (n : Nat) : Nat := if n = 0xE000 then 0xD7FF else n - 1

namespace CharRange

def holds (r : CharRange) (n : Nat) : Bool := r.first ≤ n && n ≤ r.last

def common? (r s : CharRange) : Option CharRange :=
  if max r.first s.first ≤ min r.last s.last then
    some ⟨max r.first s.first, min r.last s.last⟩
  else none

/-- What is left of a range without others, which stand in ascending order. -/
def without (r : CharRange) : List CharRange → List CharRange
  | [] => [r]
  | s :: ss =>
    if s.last < r.first then without r ss
    else if r.last < s.first then [r]
    else
      let front := if r.first < s.first then [⟨r.first, codePointBefore s.first⟩] else []
      front ++ if s.last < r.last then without ⟨codePointAfter s.last, r.last⟩ ss else []

/-- Makes one range of those that touch each other. The ranges come in the order of their first
code points, `r` before all others. -/
def join (r : CharRange) : List CharRange → List CharRange
  | [] => [r]
  | s :: ss =>
    if s.first ≤ r.last + 1 then join ⟨r.first, max r.last s.last⟩ ss else r :: join s ss

/-- The ranges between those that stand in ascending order, `r` before all others, and the range
behind the last of them. Each goes from the next character behind one range to the last one
before the other, whichever comes first. -/
def gaps (r : CharRange) : List CharRange → List CharRange
  | [] => if r.last < maxCodePoint then [⟨codePointAfter r.last, maxCodePoint⟩] else []
  | s :: ss =>
    let a := codePointAfter r.last
    let b := codePointBefore s.first
    ⟨min a b, max a b⟩ :: gaps s ss

end CharRange

namespace CharSet

def holds (s : CharSet) (c : Char) : Bool := s.ranges.any fun r => r.holds c.toNat

def empty : CharSet := ⟨[]⟩

def all : CharSet := ⟨[⟨0, maxCodePoint⟩]⟩

def range (first last : Char) : CharSet := ⟨[⟨first.toNat, last.toNat⟩]⟩

def single (c : Char) : CharSet := range c c

def ofRanges (rs : List CharRange) : CharSet :=
  match rs.mergeSort fun r s => r.first ≤ s.first with
  | [] => empty
  | r :: rs => ⟨r.join rs⟩

def ofList (cs : List Char) : CharSet := ofRanges (cs.map fun c => ⟨c.toNat, c.toNat⟩)

def union (a b : CharSet) : CharSet := ofRanges (a.ranges ++ b.ranges)

def unions (sets : List CharSet) : CharSet := ofRanges (sets.flatMap ranges)

def intersection (a b : CharSet) : CharSet :=
  ⟨a.ranges.flatMap fun r => b.ranges.filterMap r.common?⟩

/-- The characters of one set that are not in another. -/
def difference (a b : CharSet) : CharSet := ⟨a.ranges.flatMap fun r => r.without b.ranges⟩

def symmetricDifference (a b : CharSet) : CharSet := (union a b).difference (intersection a b)

/-- The characters that are not in a set. -/
def complement (s : CharSet) : CharSet :=
  match s.ranges with
  | [] => all
  | r :: rs =>
    ⟨(if 0 < r.first then [⟨0, codePointBefore r.first⟩] else []) ++ r.gaps rs⟩

/-- A set, or the characters that are not in it. -/
def negateIf (negated : Bool) (s : CharSet) : CharSet := if negated then s.complement else s

def isPlain (s : CharSet) : Bool := s.ranges.all fun r => r.last < 128

def single? (s : CharSet) : Option Char :=
  match s.ranges with
  | [r] => if r.first = r.last then some (.ofNat r.first) else none
  | _ => none

end CharSet

end DrawStyle
