import DrawStyle.Merge
import DrawStyle.Expression.Reader
import DrawStyle.Proofs.Automaton.Room
import DrawStyle.Proofs.Rule.Shape

/-!
For which selectors rules can be looked for.

Nearly all of the room is taken by the selector itself, with one state for each of its bytes. So
rules can be looked for as long as the selector has some hundred thousand bytes, and they cannot be
where the states for the selector alone take too much room.
-/

namespace DrawStyle

section

variable {name : Text} {os : Openings}

/-! ### Short selectors -/

lemma takes_expressionNamed (backward : Bool) (name : Text) :
    Automaton.Extent.Takes (Automaton.makeBefore backward (Rule.expressionNamed name))
      (name.byteSize * Automaton.stateBytes + 2496) := by
  have hblanks := Automaton.takes_repeated true
    (Automaton.takes_set backward false Unicode.whiteSpace) (by decide +kernel)
  have hbody := Automaton.takes_repeated true
    (Automaton.takes_set backward false (CharSet.single '}').complement) (by decide +kernel)
  have htail := Automaton.takes_sequence hblanks
    (Automaton.takes_sequence (Automaton.takes_literal backward ['{'])
      (Automaton.takes_sequence hbody (Automaton.takes_literal backward ['}'])))
  have hblankBytes : Automaton.setBytes Unicode.whiteSpace = 1112 := by decide +kernel
  have hbodyBytes : Automaton.setBytes (CharSet.single '}').complement = 1208 := by decide +kernel
  have hstate : Automaton.stateBytes = 32 := rfl
  have hlink : Automaton.linkBytes = 4 := rfl
  have hopen : Text.byteSize ['{'] = 1 := rfl
  have hclose : Text.byteSize ['}'] = 1 := rfl
  have hdot : Text.byteSize ('.' :: name) = 1 + name.byteSize := rfl
  refine (Automaton.takes_sequence (Automaton.takes_literal backward ('.' :: name)) htail).mono ?_
  rw [hblankBytes, hbodyBytes, hstate, hlink, hopen, hclose, hdot]
  omega

lemma Rule.fits_eq (name : Text) :
    fits name = !Automaton.isTooLarge (expressionNamed name) := by
  unfold fits
  rfl

/-- **Rules for a selector of at most 327500 bytes** can be looked for. -/
theorem Rule.fits_of_byteSize_le (h : name.byteSize ≤ 327500) : fits name = true := by
  have hroom : Automaton.frontBytes + (name.byteSize * Automaton.stateBytes + 2496) +
      3 * Automaton.stateBytes ≤ Automaton.maxBytes := by
    simp only [Automaton.frontBytes, Automaton.stateBytes, Automaton.maxBytes]
    omega
  rw [fits_eq, Automaton.isTooLarge_eq_false (takes_expressionNamed · name) hroom, Bool.not_false]

lemma Rule.filter_fits_eq_self {names : List Text} (h : ∀ name ∈ names, name.byteSize ≤ 327500) :
    names.filter fits = names :=
  List.filter_eq_self.mpr fun name hname => fits_of_byteSize_le (h name hname)

/-! ### Long selectors -/

/-- Nothing that follows makes an opening longer that is not a whole text. -/
lemma Expression.openingsIn_of_isClosed (h : os.isClosed = true) (e : Expression) :
    e.openingsIn (.behind os) = os := by
  induction e with
  | empty => exact if_pos h
  | literal t => exact if_pos h
  | set plain s => exact if_pos h
  | anchor a => exact if_pos h
  | group number e => exact if_pos h
  | repeated e least most greedy => exact if_pos h
  | sequence a b iha ihb => rw [openingsIn, iha, ihb]
  | choice a b => exact if_pos h

lemma Openings.nothing_followedBy (o : Opening) :
    nothing.followedBy (some [o]) = some [o.cut maxBytes] :=
  rfl

lemma Expression.openingsIn_literal_of_long {t : Text}
    (h : Openings.maxBytes < (Text.spelled t).length) :
    (literal t).openingsIn (.behind .nothing) =
      some [⟨(Text.spelled t).take Openings.maxBytes, false⟩] := by
  have hcut : Opening.cut Openings.maxBytes ⟨Text.spelled t, true⟩ =
      ⟨(Text.spelled t).take Openings.maxBytes, false⟩ := if_neg (Nat.not_le.mpr h)
  have hshort : ((Text.spelled t).take Openings.maxBytes).length ≤ Openings.maxBytes :=
    List.length_take_le _ _
  calc (literal t).openingsIn (.behind .nothing)
      = Openings.nothing.followedBy (some [Opening.cut Openings.maxBytes ⟨Text.spelled t, true⟩]) :=
        rfl
    _ = some [Opening.cut Openings.maxBytes ⟨(Text.spelled t).take Openings.maxBytes, false⟩] := by
        rw [Openings.nothing_followedBy, hcut]
    _ = some [⟨(Text.spelled t).take Openings.maxBytes, false⟩] := by
        rw [Opening.cut, if_pos hshort]

lemma Openings.areWords_unfinished (w : Word) : areWords [⟨w, false⟩] = false := by
  simp [areWords, Opening.preferred, Opening.common, Opening.merge, Opening.mergeInto, Opening.cut]

lemma length_spelled (t : Text) : (Text.spelled t).length = t.byteSize := by
  induction t with
  | nil => rfl
  | cons c t ih =>
    rw [Text.spelled, List.flatMap_cons, List.length_append, String.length_utf8EncodeChar,
      Text.byteSize_cons, ← ih, Text.spelled]

lemma length_le_byteSize (t : Text) : t.length ≤ t.byteSize := by
  induction t with
  | nil => exact Nat.le_refl _
  | cons c t ih =>
    rw [List.length_cons, Text.byteSize_cons]
    have hpos := c.utf8Size_pos
    omega

lemma Expression.standsForWords_of_long {t : Text} (h : Openings.maxBytes < t.byteSize)
    (e : Expression) : (sequence (literal t) e).standsForWords = false := by
  rw [← length_spelled] at h
  rw [standsForWords, openingsIn, openingsIn_literal_of_long h, openingsIn_of_isClosed rfl,
    Option.any_some, Openings.areWords_unfinished, Bool.and_false]

/-- **Rules for a selector of 327680 bytes or more** cannot be looked for. -/
theorem Rule.fits_eq_false (h : 327680 ≤ name.byteSize) : fits name = false := by
  have hlarge : Automaton.isTooLarge (expressionNamed name) = true := by
    refine Automaton.isTooLarge_sequence_literal ?_ (Expression.standsForWords_of_long ?_ _)
    · simp only [Text.byteSize_cons, Automaton.stateBytes, Automaton.maxBytes]
      have hdot : '.'.utf8Size = 1 := rfl
      omega
    · simp only [Text.byteSize_cons, Openings.maxBytes]
      omega
  rw [fits_eq, hlarge, Bool.not_true]

/-! ### Patterns -/

lemma Rule.patternNamed?_of_fits (h : fits name = true) :
    patternNamed? name = some (patternNamed name) :=
  if_pos h

lemma Rule.patternNamed?_eq_none (h : fits name = false) : patternNamed? name = none :=
  if_neg (Bool.eq_false_iff.mp h)

lemma Rule.patternNamed?_eq_some_iff {p : Pattern Rule} :
    patternNamed? name = some p ↔ fits name = true ∧ p = patternNamed name := by
  rw [patternNamed?, Option.ite_none_right_eq_some, Option.some.injEq, eq_comm (a := p)]

end

/-- The expression is what the pattern for a selector says. -/
example : Expression.parse "\\.a\\s*\\\x7b[^\x7d]*\\\x7d".toList =
    .ok (Rule.expressionNamed ['a']) := by
  decide +kernel

/-! ### A class name that is too long -/

/-- A class name of 330000 letters. -/
def longName : Text := List.replicate 330000 'a'

lemma isClassName_longName : IsClassName longName := by
  refine ⟨List.ne_nil_of_length_pos ?_, fun c hc => ?_⟩
  · rw [longName, List.length_replicate]
    decide
  · rw [List.eq_of_mem_replicate hc]
    decide

/-- A rule for it, with nothing in its body. -/
def longRule : Rule := ⟨longName, [], []⟩

lemma valid_longRule : longRule.Valid :=
  ⟨isClassName_longName, List.all_eq_true.mp rfl, List.all_eq_true.mp rfl⟩

lemma fits_longName : Rule.fits longName = false := by
  refine Rule.fits_eq_false (Nat.le_trans ?_ (length_le_byteSize longName))
  rw [longName, List.length_replicate]
  decide

end DrawStyle
