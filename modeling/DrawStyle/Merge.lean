import DrawStyle.Automaton.ExpressionStates
import DrawStyle.Rule
import DrawStyle.Unicode.Property

/-!
Laying an override stylesheet over a base stylesheet.

Whole rules are replaced, never single properties: each rule of the base whose class also has
a rule in the override is dropped, and the override follows the rest, behind a separator. The
rules for a class are looked for with an automaton; a class whose name is so long that the automaton
would take too much room is passed over, and its rules stay.
-/

namespace DrawStyle

/-- The comment between the rules of the base and those of the override. -/
def overrideSeparator : Text := "\n/* ---- overrides ---- */\n".toList

/-- Reads a rule for exactly one selector, which may be any text, off the front of a text. -/
def Rule.readNamed (selector : Text) : Text → Option (Rule × Text)
  | '.' :: t =>
    (afterFront? selector t).bind fun u =>
      (Braced.read u).map fun (b, rest) => (⟨selector, b⟩, rest)
  | _ => none

theorem Rule.eq_of_readNamed {selector t : Text} {r : Rule} {rest : Text}
    (h : readNamed selector t = some (r, rest)) : t = r.spell ++ rest := by
  unfold readNamed at h
  split at h
  · simp only [Option.bind_eq_some_iff, Option.map_eq_some_iff, Prod.mk.injEq] at h
    obtain ⟨u, hu, ⟨b, rest'⟩, hb, rfl, rfl⟩ := h
    simp [spell, eq_append_of_afterFront? hu, Braced.eq_of_read hb]
  · cases h

/-- Rules for one selector, taken literally. -/
def Rule.patternNamed (selector : Text) : Pattern Rule where
  read := readNamed selector
  spell := spell
  spell_ne_nil := spell_ne_nil
  eq_of_read := eq_of_readNamed

/-- The expression for the rules for one selector. -/
def Rule.expressionNamed (selector : Text) : Expression :=
  .sequence (.literal ('.' :: selector)) <|
    .sequence (.repeated (.set false Unicode.whiteSpace) 0 none true) <|
      .sequence (.literal ['{']) <|
        .sequence (.repeated (.set false (CharSet.single '}').complement) 0 none true)
          (.literal ['}'])

/-- Whether the rules for a selector can be looked for. -/
@[irreducible] def Rule.fits (selector : Text) : Bool := !Automaton.isTooLarge (expressionNamed selector)

/-- Rules for one selector, if they can be looked for. -/
def Rule.patternNamed? (selector : Text) : Option (Pattern Rule) :=
  if fits selector then some (patternNamed selector) else none

/-- What is left of a text without its rules for some selectors, and which of the selectors
had one. -/
structure Removal where
  text : Text
  removed : List Text
deriving DecidableEq, Repr

/-- Takes the rules for the given selectors out of a text, one selector after the other, each
from what the one before has left. A selector whose rules cannot be looked for is passed over. -/
def removeBlocks (t : Text) : List Text → Removal
  | [] => ⟨t, []⟩
  | selector :: selectors =>
    match Rule.patternNamed? selector with
    | none => removeBlocks t selectors
    | some named =>
      if named.occursIn t then
        let rest := removeBlocks (named.erase t) selectors
        { rest with removed := selector :: rest.removed }
      else removeBlocks t selectors

/-- A merged stylesheet, and the selectors of the override that replaced rules of the base. -/
structure Merged where
  text : Text
  replaced : List Text
deriving DecidableEq, Repr

/-- Lays an override over a base. -/
def merge (base override : Text) : Merged :=
  let kept := removeBlocks base (selectors override)
  ⟨kept.text ++ overrideSeparator ++ override, kept.removed⟩

end DrawStyle
