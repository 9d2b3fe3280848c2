import DrawStyle.Text.CharSet

/-!
Tables of sets of characters.

A set stands in a table as numbers: in turn, how many characters are left out and how many are
taken. A named set may have several names, which stand behind each other between blanks.
-/

namespace DrawStyle.Unicode

/-- Reads numbers between blanks; `n` is what was read of the next one. -/
def readNumbers (n : Option Nat) : Text → List Nat
  | [] => n.toList
  | c :: t =>
    if c = ' ' then n.toList ++ readNumbers none t
    else readNumbers (some (n.getD 0 * 10 + (c.toNat - '0'.toNat))) t

/-- The ranges behind `start` that are taken, from the numbers of characters that are left out and
taken in turn. -/
def takenRanges (start : Nat) : List Nat → List CharRange
  | out :: taken :: runs =>
    let first := start + out
    ⟨first, first + taken - 1⟩ :: takenRanges (first + taken) runs
  | _ => []

def ofTable (lines : List String) : CharSet :=
  ⟨takenRanges 0 (lines.flatMap fun line => readNumbers none line.toList)⟩

abbrev SetTable := List (String × CharSet)

def hasName (names : String) (name : Text) : Bool := (names.toList.splitOn ' ').contains name

def SetTable.set? (table : SetTable) (name : Text) : Option CharSet :=
  (table.find? fun (names, _) => hasName names name).map Prod.snd

end DrawStyle.Unicode
