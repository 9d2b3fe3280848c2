import DrawStyle.Automaton.Extent
import DrawStyle.Text.Spelling

/-!
The states for a choice between literals.

The literals stand in a tree, byte by byte. Where one of them ends, those behind it in the choice
must not come before it, so what follows them is told apart in sections: the tree goes on with
the literals of the first section, then with the end, then with the next section.
-/

namespace DrawStyle.Automaton

/-- The bytes with which words begin, each once. -/
def firstBytes (ws : List Word) : List UInt8 := (ws.filterMap List.head?).eraseDups

def wordsBehind (b : UInt8) (ws : List Word) : List Word :=
  ws.filterMap fun w => if w.head? = some b then some w.tail else none

/-- The words between those that end; several ends before all others count as one. -/
def sections (ws : List Word) : List (List Word) :=
  match ws.splitOn [] with
  | [] :: rest => [] :: rest.dropWhile (· = [])
  | sections => sections

/-- Makes the states for words that stand in a tree of at most so many levels: for each section
one by the first bytes of its words, and one that leads to all sections and to the ends between
them. -/
def makeTree : Nat → List Word → Extent → Option Extent
  | 0, _, x => some x
  | n + 1, ws, x => do
    let parts := sections ws
    let x ← parts.foldlM (fun x ws => do
      let bytes := firstBytes ws
      let x ← bytes.foldlM (fun x b =>
        let rest := wordsBehind b ws
        if rest.all (· = []) then some x else makeTree n rest x) x
      if bytes = [] then some x
      else if bytes.length = 1 then x.add 1
      else x.addTransitions bytes.length) x
    x.addUnion ((parts.filter (· ≠ [])).length + (parts.length - 1))

def makeWords (backward : Bool) (ws : List Word) (x : Extent) : Option Extent := do
  let ws := if backward then ws.map List.reverse else ws
  makeTree (ws.foldl (fun n w => max n w.length) 0) ws (← x.add 1)

end DrawStyle.Automaton
