/-!
How much room an automaton takes.

States are numbered in the order in which they are made. Each takes the same room, and more for
what it holds: the transitions by ranges of bytes, or the states to which it leads without
reading. An automaton that would take too much room is not made.
-/

namespace DrawStyle.Automaton

structure Extent where
  states : Nat := 0
  bytes : Nat := 0
deriving DecidableEq, Repr

def maxBytes : Nat := 10485760

/-- The bytes of a state that holds nothing more than one transition. -/
def stateBytes : Nat := 32

def transitionBytes : Nat := 8

def linkBytes : Nat := 4

namespace Extent

def grow (bytes : Nat) (x : Extent) : Option Extent :=
  let x := { x with bytes := x.bytes + bytes }
  if x.bytes ≤ maxBytes then some x else none

/-- Makes some states that hold at most one transition each. -/
def add (count : Nat) (x : Extent) : Option Extent :=
  { x with states := x.states + count }.grow (count * stateBytes)

def addTransitions (count : Nat) (x : Extent) : Option Extent :=
  (x.add 1).bind (grow (count * transitionBytes))

/-- Makes a state that leads to others, as many as are known by now. -/
def addUnion (count : Nat) (x : Extent) : Option Extent :=
  (x.add 1).bind (grow (count * linkBytes))

end Extent

/-- What was made for some keys. It is forgotten when something is made for another key with the
same place. -/
structure Memory where
  places : Array (Option (List Nat × Nat))

namespace Memory

def ofSize (size : Nat) : Memory := ⟨Array.replicate size none⟩

/-- The number that is taken for a list of numbers: starting from a fixed one, each is mixed in
and the result multiplied, all in 64 bits. -/
def mix (key : List Nat) : UInt64 :=
  key.foldl (fun h n => (h ^^^ n.toUInt64) * 1099511628211) 14695981039346656037

def placeOf (m : Memory) (key : List Nat) : Nat := (mix key).toNat % m.places.size

def find? (m : Memory) (key : List Nat) : Option Nat :=
  match m.places[m.placeOf key]? with
  | some (some (k, n)) => if k = key then some n else none
  | _ => none

def insert (m : Memory) (key : List Nat) (n : Nat) : Memory :=
  ⟨m.places.setIfInBounds (m.placeOf key) (some (key, n))⟩

end Memory

end DrawStyle.Automaton
