import DrawStyle.Pattern
import DrawStyle.Token.Table

/-!
References to tokens, and their replacement by the values of a table.

A reference is `var(--name)`, with no blanks and no fallback. A reference to a name that the
table does not hold stays in place; what is put in is not looked at again.
-/

namespace DrawStyle

structure Reference where
  bare : Text
deriving DecidableEq, Repr

namespace Reference

def name (r : Reference) : Text := '-' :: '-' :: r.bare

def opening : Text := ['v', 'a', 'r', '(', '-', '-']

def spell (r : Reference) : Text := opening ++ r.bare ++ [')']

theorem spell_ne_nil (r : Reference) : r.spell ≠ [] := by simp [spell, opening]

def read (t : Text) : Option (Reference × Text) :=
  match afterFront? opening t with
  | none => none
  | some u =>
    match u.takeWhile inTokenName, u.dropWhile inTokenName with
    | c :: bare, ')' :: rest => some (⟨c :: bare⟩, rest)
    | _, _ => none

theorem eq_of_read {t : Text} {r : Reference} {rest : Text} (h : read t = some (r, rest)) :
    t = r.spell ++ rest := by
  unfold read at h
  split at h
  · cases h
  · next u hu =>
    split at h
    · next c bare rest' hb hr =>
      cases h
      have := List.takeWhile_append_dropWhile (p := inTokenName) (l := u)
      rw [hb, hr] at this
      rw [eq_append_of_afterFront? hu, ← this]
      simp [spell]
    · cases h

def pattern : Pattern Reference where
  read := read
  spell := spell
  spell_ne_nil := spell_ne_nil
  eq_of_read := eq_of_read

end Reference

/-- Every name that a text refers to, in order and with repeats. -/
def references (t : Text) : List Text := (Reference.pattern.hits t).map Reference.name

/-- A text in which tokens are replaced, with an account of its references. -/
structure Resolution where
  text : Text
  replaced : Nat
  /-- The names without a value, sorted, each once. -/
  unresolved : List Text
deriving DecidableEq, Repr

def Reference.value (table : TokenTable) (r : Reference) : Text :=
  (table.get? r.name).getD r.spell

/-- A text with the values of a table for the references to its tokens. -/
def TokenTable.resolve (table : TokenTable) (t : Text) : Text :=
  Reference.pattern.replace (Reference.value table) t

/-- Replaces the references to the tokens of a table, and accounts for all references. -/
def TokenTable.resolution (table : TokenTable) (t : Text) : Resolution :=
  let names := references t
  { text := table.resolve t
    replaced := names.countP table.contains
    unresolved := sortedNames (names.filter fun name => !table.contains name) }

end DrawStyle
