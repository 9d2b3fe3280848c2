import DrawStyle.Proofs.Clean.EmptyRule
import DrawStyle.Proofs.Text.Lines

/-!
Taking out empty rules until none is left.

A rule that holds nothing but empty rules is empty once they are taken out, so taking out empty
rules is repeated until it changes nothing. Blanks in front of a text and behind it stay as they
are, whatever is taken out between them.
-/

namespace DrawStyle

/-- A text without its empty rules and without those that are empty once others are taken
out. -/
def removeAllEmptyBlocks (t : Text) : Text :=
  if removeEmptyBlocks t = t then t else removeAllEmptyBlocks (removeEmptyBlocks t)
termination_by t.length
decreasing_by
  have hsub := removeEmptyBlocks_sublist t
  exact Nat.lt_of_le_of_ne hsub.length_le fun h => ‹¬_› (hsub.eq_of_length h)

section

variable {s t : Text}

lemma removeAllEmptyBlocks_of_eq (h : removeEmptyBlocks t = t) : removeAllEmptyBlocks t = t := by
  rw [removeAllEmptyBlocks, if_pos h]

/-- Taking out empty rules once more in front makes no difference. -/
lemma removeAllEmptyBlocks_removeEmptyBlocks (t : Text) :
    removeAllEmptyBlocks (removeEmptyBlocks t) = removeAllEmptyBlocks t := by
  by_cases h : removeEmptyBlocks t = t
  · rw [h]
  · rw [removeAllEmptyBlocks.eq_def t, if_neg h]

/-! ### Blanks at the ends -/

lemma EmptyRule.apart_of_isBlank (ht : t.isBlank = true) (s : Text) :
    EmptyRule.pattern.Apart s t := by
  intro v _ _ r rest hread
  obtain ⟨-, hv⟩ := EmptyRule.read_eq_some_iff.mp hread
  rcases List.append_eq_append_iff.mp hv with ⟨w, hw, rfl⟩ | ⟨w, rfl, -⟩
  · rcases List.eq_nil_or_concat w with rfl | ⟨w, c, rfl⟩
    · exact ⟨[], by simpa using hw⟩
    · -- the brace that ends the rule would be a blank
      have hlast := congrArg List.getLast? hw
      have hc : '}' = c := by
        simpa [EmptyRule.spell, List.getLast?_append, List.getLast?_cons] using hlast
      have hblank : isBlank c = true := Text.isBlank_iff.mp ht c (by simp)
      rw [← hc] at hblank
      cases hblank
  · exact List.prefix_append _ _

lemma removeEmptyBlocks_blank_append (hs : s.isBlank = true) (t : Text) :
    removeEmptyBlocks (s ++ t) = s ++ removeEmptyBlocks t := by
  induction s with
  | nil => rfl
  | cons c s ih =>
    rw [Text.isBlank_cons, Bool.and_eq_true] at hs
    have hc : EmptyRule.startsSelector c = false := by simp [EmptyRule.startsSelector, hs.1]
    rw [List.cons_append, removeEmptyBlocks_cons hc, ih hs.2, List.cons_append]

lemma removeEmptyBlocks_of_isBlank (ht : t.isBlank = true) : removeEmptyBlocks t = t := by
  have h := removeEmptyBlocks_blank_append ht []
  rwa [removeEmptyBlocks_nil, List.append_nil] at h

lemma removeEmptyBlocks_append_blank (ht : t.isBlank = true) (s : Text) :
    removeEmptyBlocks (s ++ t) = removeEmptyBlocks s ++ t := by
  rw [removeEmptyBlocks_append_of_apart (EmptyRule.apart_of_isBlank ht s),
    removeEmptyBlocks_of_isBlank ht]

lemma removeAllEmptyBlocks_blank_append (hs : s.isBlank = true) (t : Text) :
    removeAllEmptyBlocks (s ++ t) = s ++ removeAllEmptyBlocks t := by
  induction t using removeAllEmptyBlocks.induct with
  | case1 t h =>
    rw [removeAllEmptyBlocks_of_eq h, removeAllEmptyBlocks_of_eq]
    rw [removeEmptyBlocks_blank_append hs, h]
  | case2 t h ih =>
    rw [← removeAllEmptyBlocks_removeEmptyBlocks, removeEmptyBlocks_blank_append hs, ih,
      removeAllEmptyBlocks_removeEmptyBlocks]

lemma removeAllEmptyBlocks_append_blank (ht : t.isBlank = true) (s : Text) :
    removeAllEmptyBlocks (s ++ t) = removeAllEmptyBlocks s ++ t := by
  induction s using removeAllEmptyBlocks.induct with
  | case1 s h =>
    rw [removeAllEmptyBlocks_of_eq h, removeAllEmptyBlocks_of_eq]
    rw [removeEmptyBlocks_append_blank ht, h]
  | case2 s h ih =>
    rw [← removeAllEmptyBlocks_removeEmptyBlocks, removeEmptyBlocks_append_blank ht, ih,
      removeAllEmptyBlocks_removeEmptyBlocks]

lemma removeAllEmptyBlocks_of_isBlank (ht : t.isBlank = true) : removeAllEmptyBlocks t = t :=
  removeAllEmptyBlocks_of_eq (removeEmptyBlocks_of_isBlank ht)

end

end DrawStyle
