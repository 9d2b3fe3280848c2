import DrawStyle.Expression.Normal
import DrawStyle.Text.Spelling

/-!
How the texts begin that fit an expression.

The beginnings are listed in the order in which they are preferred, as long as they are few and
short. An expression stands for words if each of them is all of a text that fits; then a search
for the words is enough.
-/

namespace DrawStyle

structure Opening where
  bytes : Word
  whole : Bool
deriving DecidableEq, Repr

namespace Opening

/-- An opening of at most so many bytes. -/
def cut (n : Nat) (o : Opening) : Opening :=
  if o.bytes.length ≤ n then o else ⟨o.bytes.take n, false⟩

def unfinished (o : Opening) : Opening := { o with whole := false }

/-- An opening before others, without those next to it that have the same bytes. -/
def mergeInto (o : Opening) : List Opening → List Opening
  | [] => [o]
  | p :: ps =>
    if o.bytes = p.bytes then mergeInto ⟨o.bytes, o.whole && p.whole⟩ ps
    else o :: mergeInto p ps

/-- Openings without those that have the same bytes as the one before. -/
def merge : List Opening → List Opening
  | [] => []
  | o :: os => mergeInto o os

/-- Openings without those for which an earlier one stands already; `kept` are those. -/
def preferred (kept : List Opening) : List Opening → List Opening
  | [] => []
  | o :: os =>
    if kept.any fun k => k.bytes.isPrefixOf o.bytes then preferred kept os
    else o :: preferred (o :: kept) os

def commonBytes : Word → Word → Word
  | a :: v, b :: w => if a = b then a :: commonBytes v w else []
  | _, _ => []

def common : List Opening → Word
  | [] => []
  | o :: os => os.foldl (fun w o => commonBytes w o.bytes) o.bytes

end Opening

/-- The openings of texts; `none` if there are too many. -/
abbrev Openings := Option (List Opening)

namespace Openings

def maxCount : Nat := 250

def maxBytes : Nat := 100

def maxCharacters : Nat := 10

def maxRounds : Nat := 10

def nothing : Openings := some [⟨[], true⟩]

def unfinished (os : Openings) : Openings := os.map fun os => os.map Opening.unfinished

def isClosed (os : Openings) : Bool := os.all fun os => os.all fun o => !o.whole

def cut (n : Nat) (os : Openings) : Openings := os.map fun os => os.map (Opening.cut n)

def exceeds (combine : Nat → Nat → Nat) (a b : Openings) : Bool :=
  match a, b with
  | some os, some ps => maxCount < combine os.length ps.length
  | _, _ => false

def followedBy (a b : Openings) : Openings :=
  match a, (if exceeds (· * ·) a b then none else b) with
  | none, _ => none
  | some os, none => if os.any (·.bytes = []) then none else some (os.map Opening.unfinished)
  | some os, some ps =>
    cut maxBytes <| some <| Opening.merge <| os.flatMap fun o =>
      if o.whole then ps.map fun p => ⟨o.bytes ++ p.bytes, p.whole⟩ else [o]

/-- The openings of texts of two kinds, the first of which is preferred. Where there are too many,
only four bytes of each are listed. -/
def either (a b : Openings) : Openings :=
  let short (os : Openings) : Openings := (cut 4 os).map Opening.merge
  let tooMany := exceeds (· + ·) a b
  let a := if tooMany then short a else a
  let b := if tooMany then short b else b
  match a, (if exceeds (· + ·) a b then none else b) with
  | some os, some ps => some (Opening.merge (os ++ ps))
  | _, _ => none

def ofSet (s : CharSet) : Openings :=
  if maxCharacters < s.ranges.foldl (fun n r => n + (r.last + 1 - r.first)) 0 then none
  else
    some <| s.ranges.flatMap fun r =>
      (List.range (r.last + 1 - r.first)).map fun k =>
        ⟨Text.spelled [.ofNat (r.first + k)], true⟩

def times (os : Openings) : Nat → Openings → Openings
  | 0, front => front
  | n + 1, front => if front.isClosed then front else times os n (front.followedBy os)

def repeated (os : Openings) (least : Nat) (most : Option Nat) (greedy : Bool) : Openings :=
  if least = 0 then
    let os := if most = some 1 then os else os.unfinished
    if greedy then os.either nothing else nothing.either os
  else
    let front := times os (min least maxRounds) nothing
    if most = some least ∧ least ≤ maxRounds then front else front.unfinished

/-- Bytes that are so frequent that one of them at the front does not tell much. -/
def frequent : Word := Text.spelled "\n\r (),-./0129:_abcdefghilmnoprstuvxy|".toList

def isSeldom (b : UInt8) : Bool := b < 128 && !frequent.contains b

def isEverywhere (o : Opening) : Bool :=
  match o.bytes with
  | [] => true
  | [b] => 128 ≤ b || (Text.spelled " et".toList).contains b
  | _ => false

def shorten : List (Nat × Nat) → List Opening → List Opening
  | [], os => os
  | (bytes, count) :: attempts, os =>
    if os.length ≤ count then os
    else shorten attempts (Opening.preferred [] (os.map (Opening.cut bytes)))

/-- Whether whole openings are better than shorter ones, of which there would be fewer. -/
def areBestWhole (os : List Opening) : Bool :=
  let short := shorten [(5, 10), (4, 10), (3, 64), (2, 64), (1, 10)] os
  short.all (·.whole) || short.any isEverywhere || short.any (·.bytes.length ≤ 2) ||
    64 < short.length

/-- Whether openings are all that is looked for: whole words, which do not look too much alike. -/
def areWords (os : List Opening) : Bool :=
  let best := Opening.preferred [] os
  let front := Opening.common best
  let whole := best.all (·.whole)
  if os = [] ∨ os.any (·.bytes = []) then false
  else if 1 < os.length ∧ front ≠ [] ∧ front.length ≤ 3 ∧ front.head?.any isSeldom then
    (Opening.merge (best.map (Opening.cut 1))).all (·.whole)
  else
    let alike := 4 < front.length || (1 < front.length && !(whole && best.length ≤ 16))
    let best := if alike then Opening.merge (best.map (Opening.cut front.length)) else best
    best.all (·.whole) && areBestWhole best

end Openings

namespace Expression

inductive Surrounding where
  | behind (front : Openings)
  | beside (others : Openings)

def Surrounding.combine (around : Surrounding) (os : Openings) : Openings :=
  match around with
  | behind front => if front.isClosed then front else front.followedBy os
  | beside others => others.either os

def openingsIn : Expression → Surrounding → Openings
  | empty, around => around.combine .nothing
  | literal t, around =>
    around.combine (Openings.cut Openings.maxBytes (some [⟨Text.spelled t, true⟩]))
  | set _ s, around => around.combine (.ofSet s)
  | anchor _, around => around.combine .nothing
  | group _ e, around => around.combine (e.openingsIn (.behind .nothing))
  | repeated e least most greedy, around =>
    around.combine (Openings.repeated (e.openingsIn (.behind .nothing)) least most greedy)
  | sequence a b, .behind front => b.openingsIn (.behind (a.openingsIn (.behind front)))
  | sequence a b, .beside others =>
    others.either (b.openingsIn (.behind (a.openingsIn (.behind .nothing))))
  | choice a b, .behind front =>
    if front.isClosed then front
    else front.followedBy (b.openingsIn (.beside (a.openingsIn (.beside (some [])))))
  | choice a b, .beside others => b.openingsIn (.beside (a.openingsIn (.beside others)))

/-- Whether an expression has no groups and requires nothing of a place. -/
def onlyReads : Expression → Bool
  | anchor _ => false
  | group _ _ => false
  | repeated e _ _ _ => e.onlyReads
  | sequence a b => a.onlyReads && b.onlyReads
  | choice a b => a.onlyReads && b.onlyReads
  | _ => true

def standsForWords (e : Expression) : Bool :=
  e.onlyReads && (e.openingsIn (.behind .nothing)).any Openings.areWords

end Expression

end DrawStyle
