import DrawStyle.Pattern

/-!
Rules without declarations.

A rule is empty when only blanks stand between its braces. Its selector is read on one line:
it starts behind the last brace, semicolon, slash or newline before the opening brace, at the
first character that is not blank.
-/

namespace DrawStyle

structure EmptyRule where
  selector : Text
  gap : Text
deriving DecidableEq, Repr

namespace EmptyRule

/-- The characters of an empty rule, from its selector through its closing brace. -/
def spell (r : EmptyRule) : Text := r.selector ++ '{' :: r.gap ++ ['}']

theorem spell_ne_nil (r : EmptyRule) : r.spell ≠ [] := by simp [spell]

/-- The characters that end a rule or a comment, before which no selector starts. -/
def isBoundary (c : Char) : Bool := c == '{' || c == '}' || c == ';' || c == '/'

def startsSelector (c : Char) : Bool := !isBlank c && !isBoundary c

def inSelector (c : Char) : Bool := !isBoundary c && c != '\n'

def readBraces : Text → Option (Text × Text)
  | '{' :: t =>
    match t.dropWhile isBlank with
    | '}' :: rest => some (t.takeWhile isBlank, rest)
    | _ => none
  | _ => none

def read : Text → Option (EmptyRule × Text)
  | [] => none
  | c :: t =>
    if startsSelector c then
      (readBraces (t.dropWhile inSelector)).map fun (gap, rest) =>
        (⟨c :: t.takeWhile inSelector, gap⟩, rest)
    else none

theorem eq_of_readBraces {t gap rest : Text} (h : readBraces t = some (gap, rest)) :
    t = '{' :: gap ++ '}' :: rest := by
  unfold readBraces at h
  split at h
  · next t =>
    split at h
    · next rest' hr =>
      cases h
      have := List.takeWhile_append_dropWhile (p := isBlank) (l := t)
      rw [hr] at this
      simp [this]
    · cases h
  · cases h

theorem eq_of_read {t : Text} {r : EmptyRule} {rest : Text} (h : read t = some (r, rest)) :
    t = r.spell ++ rest := by
  unfold read at h
  split at h
  · cases h
  · next c t =>
    split at h
    · simp only [Option.map_eq_some_iff, Prod.mk.injEq] at h
      obtain ⟨⟨gap, rest'⟩, hb, rfl, rfl⟩ := h
      have := List.takeWhile_append_dropWhile (p := inSelector) (l := t)
      rw [eq_of_readBraces hb] at this
      simpa [spell] using this.symm
    · cases h

def pattern : Pattern EmptyRule where
  read := read
  spell := spell
  spell_ne_nil := spell_ne_nil
  eq_of_read := eq_of_read

end EmptyRule

end DrawStyle
