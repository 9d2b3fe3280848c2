import DrawStyle.Automaton.Extent
import DrawStyle.Text.Spelling

/-!
The states for a set of characters.

The bytes of a character are read one after the other. Read forward, spellings share the states
for what they begin with, and states with the same transitions are made only once, as far as they
are remembered. Read backward, they share the states for the bytes that come first in a text.
-/

namespace DrawStyle.Automaton

structure Transition where
  range : ByteRange
  next : Nat

/-- A state that is not made yet: its transitions, and the range of the one whose end is still
open. -/
structure Draft where
  transitions : List Transition := []
  last : Option ByteRange

def keyOf (ts : List Transition) : List Nat :=
  ts.flatMap fun t => [t.range.first.toNat, t.range.last.toNat, t.next]

/-- The states that were made for a set, and what is remembered of them. -/
structure Making where
  extent : Extent
  memory : Memory

namespace Draft

/-- The transitions of a state once the open one leads to another state. -/
def closed (d : Draft) (next : Nat) : List Transition :=
  d.transitions ++ (d.last.map fun range => ⟨range, next⟩).toList

end Draft

namespace Making

def stateFor (m : Making) (key : List Nat) (make : Extent → Option Extent) :
    Option (Nat × Making) :=
  let ⟨extent, memory⟩ := m
  match memory.find? key with
  | some n => some (n, ⟨extent, memory⟩)
  | none =>
    (make extent).map fun more => (extent.states, ⟨more, memory.insert key extent.states⟩)

def state (m : Making) (ts : List Transition) : Option (Nat × Making) :=
  m.stateFor (keyOf ts) (Extent.addTransitions ts.length)

/-- Makes the states of drafts, each of which leads to the next one and the last to `target`, and
gives the first of them. -/
def close (target : Nat) : List Draft → Making → Option (Nat × Making)
  | [], m => some (target, m)
  | d :: ds, m => (close target ds m).bind fun (next, m) => m.state (d.closed next)

/-- Adds a spelling to the drafts of the one before it. What both begin with is kept, and the rest
of the drafts is made. -/
def add (target : Nat) : List Draft → List ByteRange → Making → Option (List Draft × Making)
  | d :: ds, r :: rs, m =>
    if d.last = some r then (add target ds rs m).map fun (ds, m) => (d :: ds, m)
    else
      (close target ds m).map fun (next, m) =>
        (⟨d.closed next, some r⟩ :: rs.map fun r => ⟨[], some r⟩, m)
  | ds, _, m => some (ds, m)

def addAll (target : Nat) : List (List ByteRange) → List Draft → Making →
    Option (List Draft × Making)
  | [], ds, m => some (ds, m)
  | s :: ss, ds, m => (add target ds s m).bind fun (ds, m) => addAll target ss ds m

def stateBackward (m : Making) (r : ByteRange) (next : Nat) : Option (Nat × Making) :=
  m.stateFor [next, r.first.toNat, r.last.toNat] (Extent.add 1)

/-- Makes the states for the bytes of a spelling, the first of which leads to `next`, as far as
they are not remembered, and gives the last one. -/
def addBackward : List ByteRange → Nat → Making → Option (Nat × Making)
  | [], next, m => some (next, m)
  | r :: rs, next, m => (m.stateBackward r next).bind fun (n, m) => addBackward rs n m

def addAllBackward (target : Nat) : List (List ByteRange) → Making → Option Making
  | [], m => some m
  | s :: ss, m =>
    (addBackward s target m).bind fun (_, m) =>
      let ⟨extent, memory⟩ := m
      (extent.grow linkBytes).bind fun extent => addAllBackward target ss ⟨extent, memory⟩

end Making

/-- How many states with the same transitions are looked for among those that were made. -/
def forwardPlaces : Nat := 10000

/-- How many states for the same byte are looked for among those that were made. -/
def backwardPlaces : Nat := 1000

/-- Makes the states for the characters of a set, up to one state behind all of them. -/
def makeSet (backward : Bool) (s : CharSet) (x : Extent) : Option Extent :=
  if s.isPlain then (x.add 1).bind (Extent.addTransitions s.ranges.length)
  else if backward then do
    let target := x.states + 1
    let x ← (← x.addUnion 0).add 1
    let made ← Making.addAllBackward target s.spellings ⟨x, .ofSize backwardPlaces⟩
    return made.extent
  else do
    let target := x.states
    let x ← x.add 1
    let (ds, made) ← Making.addAll target s.spellings [⟨[], none⟩] ⟨x, .ofSize forwardPlaces⟩
    let (_, made) ← made.close target ds
    return made.extent

end DrawStyle.Automaton
