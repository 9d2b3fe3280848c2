import DrawStyle.Automaton.SetStates
import DrawStyle.Automaton.WordStates
import DrawStyle.Expression.Opening

/-!
The states for an expression.

The states for a part have one where they are entered and one where they are left, which is then
made to lead on. A text is read forward, with states that take down where groups begin and end,
and it is read backward without them; both automata must not take too much room.
-/

namespace DrawStyle.Automaton

structure Made where
  extent : Extent
  /-- Whether the state where they are left holds the states to which it leads as a list. -/
  openEnded : Bool := false

namespace Made

def linked (m : Made) : Option Extent := m.extent.grow (if m.openEnded then linkBytes else 0)

/-- Makes states for so many more of an item, one behind the other. -/
def more (item : Extent → Option Made) : Nat → Made → Option Made
  | 0, m => some m
  | n + 1, m => (m.linked.bind item).bind (more item n)

/-- Makes states for so many more of an item, before each of which the rest may be left out. -/
def optional (item : Extent → Option Made) : Nat → Made → Option Made
  | 0, m => some m
  | n + 1, m => ((m.linked.bind (Extent.addUnion 2)).bind item).bind (optional item n)

end Made

def makeExactly (item : Extent → Option Made) (n : Nat) (x : Extent) : Option Made :=
  if n = 0 then do return { extent := ← x.add 1 } else do (← item x).more item (n - 1)

def makeRepeated (item : Extent → Option Made) (mayBeEmpty : Bool) (least : Nat)
    (most : Option Nat) (x : Extent) : Option Made :=
  match most with
  | none =>
    if 0 < least then do
      return ⟨← (← (← makeExactly item least x).linked).addUnion 1, true⟩
    else if mayBeEmpty then do
      let x ← (← item x).linked
      return { extent := ← (← (← x.addUnion 2).addUnion 2).add 1 }
    else do return ⟨← (← item (← x.addUnion 1)).linked, true⟩
  | some most =>
    if least = most then makeExactly item least x
    else if least = 0 ∧ most = 1 then do
      return { extent := ← (← (← item (← x.addUnion 2)).linked).add 1 }
    else do
      let m ← makeExactly item least x
      let m ← { m with extent := ← m.extent.add 1 }.optional item (most - least)
      return { extent := ← m.linked }

inductive Standing where
  | alone
  /-- It is a branch, or the choice between the remaining ones; so many stand before it. -/
  | branch (before : Nat)

/-- Ends what was made for a branch: the choice leads to it, and it leads on to where the choice
is left. The states that do so are made with the second branch. -/
def Standing.finish (standing : Standing) (m : Made) : Option Made :=
  match standing with
  | alone => some m
  | branch before => do
    let x ← (← m.linked).grow linkBytes
    let x ← if before = 1 then (← x.addUnion 0).add 1 else some x
    return { extent := x }

def wordsOf? (e : Expression) : Option (List Word) :=
  e.branches.mapM fun
    | .literal t => some (Text.spelled t)
    | _ => none

def makeExpression (backward : Bool) : Expression → Standing → Extent → Option Made
  | .empty, standing, x => do standing.finish { extent := ← x.add 1 }
  | .literal t, standing, x => do standing.finish { extent := ← x.add t.byteSize }
  | .set _ s, standing, x => do standing.finish { extent := ← makeSet backward s x }
  | .anchor _, standing, x => do standing.finish { extent := ← x.add 1 }
  | .group _ e, standing, x =>
    if backward then do standing.finish (← makeExpression backward e .alone x)
    else do
      let m ← makeExpression backward e .alone (← x.add 1)
      standing.finish { extent := ← (← m.linked).add 1 }
  | .repeated e least most _, standing, x => do
    let mayBeEmpty := e.minLength?.all (· = 0)
    standing.finish
      (← makeRepeated (makeExpression backward e .alone) mayBeEmpty least most x)
  | .sequence a b, standing, x =>
    if backward then do
      let m ← makeExpression backward b .alone x
      standing.finish (← makeExpression backward a .alone (← m.linked))
    else do
      let m ← makeExpression backward a .alone x
      standing.finish (← makeExpression backward b .alone (← m.linked))
  | .choice a b, .alone, x =>
    match wordsOf? (.choice a b) with
    | some ws => do return { extent := ← makeWords backward ws x }
    | none => do
      let m ← Standing.finish (.branch 0) (← makeExpression backward a .alone x)
      makeExpression backward b (.branch 1) m.extent
  | .choice a b, .branch before, x => do
    let m ← Standing.finish (.branch before) (← makeExpression backward a .alone x)
    makeExpression backward b (.branch (before + 1)) m.extent

/-- Makes what stands before an expression that may begin anywhere: states that pass over any
bytes. -/
def makeFront (anchored : Bool) : Option Extent :=
  let x : Extent := {}
  if anchored then x.add 1 else do (← (← x.addUnion 2).add 1).addTransitions 1

/-- Makes all states for reading a text forward; the whole expression is a group, and one state
stands behind it. -/
def makeForward (e : Expression) : Option Extent := do
  let x ← (← makeFront (e.startsWith .start)).add 1
  (← (← makeExpression false e .alone x).linked).add 2

def makeBackward (e : Expression) : Option Extent := do
  let x ← makeFront (e.stopsWith .stop)
  (← (← makeExpression true e .alone x).linked).add 1

/-- Whether an expression would take too much room. Where only words are looked for there is no
automaton. -/
def isTooLarge (e : Expression) : Bool :=
  !e.standsForWords && ((makeForward e).isNone || (makeBackward e).isNone)

/-- What is said about an expression that would take too much room. -/
def tooLargeMessage : Text :=
  "Compiled regex exceeds size limit of ".toList ++ Nat.toDigits 10 maxBytes ++ " bytes.".toList

end DrawStyle.Automaton
