import DrawStyle.Pattern

/-!
Flat rules of a stylesheet.

A rule is a class selector, a gap of blanks and a body in braces; the body ends at the first
closing brace, whatever was opened inside it. Rules are found from left to right without
overlap (`ruleBlocks`), each with the bytes that it takes.
-/

namespace DrawStyle

structure Braced where
  gap : Text
  body : Text
deriving DecidableEq, Repr

namespace Braced

def spell (b : Braced) : Text := b.gap ++ '{' :: b.body ++ ['}']

/-- Whether a character may stand in a body: all but the closing brace. -/
def inBody (c : Char) : Bool := c != '}'

def read (t : Text) : Option (Braced × Text) :=
  match t.dropWhile isBlank with
  | '{' :: u =>
    match u.dropWhile inBody with
    | '}' :: rest => some (⟨t.takeWhile isBlank, u.takeWhile inBody⟩, rest)
    | _ => none
  | _ => none

theorem eq_of_read {t : Text} {b : Braced} {rest : Text} (h : read t = some (b, rest)) :
    t = b.spell ++ rest := by
  unfold read at h
  split at h
  · next u hu =>
    split at h
    · next rest' hr =>
      cases h
      have h₁ := List.takeWhile_append_dropWhile (p := isBlank) (l := t)
      have h₂ := List.takeWhile_append_dropWhile (p := inBody) (l := u)
      rw [hu] at h₁
      rw [hr] at h₂
      simp [spell, h₁, h₂]
    · cases h
  · cases h

end Braced

/-- A rule for one class: its name without the dot, and what stands behind it. -/
structure Rule where
  selector : Text
  braced : Braced
deriving DecidableEq, Repr

namespace Rule

/-- The characters of a rule, from the dot through the closing brace. -/
def spell (r : Rule) : Text := '.' :: r.selector ++ r.braced.spell

theorem spell_ne_nil (r : Rule) : r.spell ≠ [] := by simp [spell]

def inSelector (c : Char) : Bool := isAlphanumeric c || c == '_' || c == '-'

def read : Text → Option (Rule × Text)
  | '.' :: t =>
    match t.takeWhile inSelector with
    | [] => none
    | selector => (Braced.read (t.dropWhile inSelector)).map fun (b, rest) => (⟨selector, b⟩, rest)
  | _ => none

theorem eq_of_read {t : Text} {r : Rule} {rest : Text} (h : read t = some (r, rest)) :
    t = r.spell ++ rest := by
  unfold read at h
  split at h
  · next t =>
    split at h
    · cases h
    · simp only [Option.map_eq_some_iff, Prod.mk.injEq] at h
      obtain ⟨⟨b, rest'⟩, hb, rfl, rfl⟩ := h
      have h₁ := List.takeWhile_append_dropWhile (p := inSelector) (l := t)
      rw [Braced.eq_of_read hb] at h₁
      simp [spell, h₁]
  · cases h

def pattern : Pattern Rule where
  read := read
  spell := spell
  spell_ne_nil := spell_ne_nil
  eq_of_read := eq_of_read

end Rule

/-- A rule as it was found in a text: its text, and the bytes that it takes there. -/
structure RuleBlock where
  selector : Text
  text : Text
  start : Nat
  /-- The byte offset behind the closing brace. -/
  stop : Nat
deriving DecidableEq, Repr

/-- What stands behind the first opening brace of a text, or the whole text if it has none. -/
def afterBrace (t : Text) : Text :=
  match t.dropWhile (· != '{') with
  | [] => t
  | _ :: inner => inner

/-- The declarations between the braces: what stands behind the first opening brace, without
the one closing brace that may end it. -/
def RuleBlock.body (b : RuleBlock) : Text :=
  let inner := afterBrace b.text
  if inner.getLast? = some '}' then inner.dropLast else inner

/-- A rule that starts at a byte offset, as a block. -/
def Rule.toBlock (start : Nat) (r : Rule) : RuleBlock :=
  ⟨r.selector, r.spell, start, start + r.spell.byteSize⟩

/-- The rules of a text, in the order in which they stand there. -/
def ruleBlocks (t : Text) : List RuleBlock :=
  (Rule.pattern.located t).map fun (start, r) => r.toBlock start

/-- The classes that have a rule in a text, in the order of their first rules. -/
def selectors (t : Text) : List Text := ((ruleBlocks t).map RuleBlock.selector).eraseDups

end DrawStyle
