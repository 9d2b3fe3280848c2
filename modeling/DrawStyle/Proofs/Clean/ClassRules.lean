import DrawStyle.Proofs.Clean.NormalForm
import DrawStyle.Proofs.Run.Reading

/-!
Class rules in a cleaned text.

Rules are listed with blanks of any kind between the class name and the opening brace, while the
selector of an empty rule is read on one line, up to the opening brace. So the two agree on the
rules whose opening brace stands on the line of the class name: such a rule is an empty rule
exactly if its body is blank, and none of those is left in a cleaned text.
-/

namespace DrawStyle

/-- What stands in a block before its opening brace. -/
def RuleBlock.head (b : RuleBlock) : Text := b.text.takeWhile (· != '{')

namespace Rule.Valid

variable {r : Rule}

lemma head_toBlock (h : r.Valid) (n : ℕ) :
    (r.toBlock n).head = '.' :: (r.selector ++ r.braced.gap) := by
  have htext : (r.toBlock n).text = r.spell := rfl
  rw [RuleBlock.head, htext, r.spell_eq_head_append, takeWhile_run h.no_open_run (c := '{') (by decide)]

lemma newline_not_mem_gap (h : r.Valid) {n : ℕ} (hline : '\n' ∉ (r.toBlock n).head) :
    '\n' ∉ r.braced.gap := by
  rw [h.head_toBlock n] at hline
  exact fun hmem => hline (by simp [hmem])

/-- A rule with a blank body is an empty rule, if its opening brace stands on the line of the
class name. -/
lemma exists_emptyRule (h : r.Valid) (hline : '\n' ∉ r.braced.gap)
    (hbody : r.braced.body.isBlank = true) :
    ∃ e : EmptyRule, e.Valid ∧ e.spell = r.spell := by
  have hsimple : r.Simple :=
    { selector := h.selector
      gap := Text.isBlank_iff.mpr h.braced.gap
      one_line := hline
      no_open := not_mem_run (Text.isBlank_iff.mp hbody) rfl
      no_close := not_mem_run (Text.isBlank_iff.mp hbody) rfl }
  refine ⟨_, hsimple.valid_emptyRule hbody, ?_⟩
  rw [r.spell_eq_head_append]
  simp [EmptyRule.spell]

/-- An empty rule that is read at the start of a rule is that rule. -/
lemma isBlank_body_of_read (h : r.Valid) {e : EmptyRule} {rest : Text}
    (hread : EmptyRule.read r.spell = some (e, rest)) : r.braced.body.isBlank = true := by
  obtain ⟨he, hspell⟩ := EmptyRule.read_eq_some_iff.mp hread
  have hcut : '.' :: (r.selector ++ r.braced.gap) ++ '{' :: (r.braced.body ++ '}' :: []) =
      e.selector ++ '{' :: (e.gap ++ '}' :: rest) := by
    rw [← r.spell_eq_head_append, hspell, EmptyRule.spell]
    simp
  -- both are cut at their opening braces, and then at their closing ones
  obtain ⟨-, hcut⟩ := eq_of_append_cons_eq h.no_open_head (not_mem_run he.not_isBoundary rfl) hcut
  obtain ⟨hbody, -⟩ := eq_of_append_cons_eq (not_mem_run h.braced.body rfl)
    (not_mem_run he.gap rfl) hcut
  rw [hbody]
  exact Text.isBlank_iff.mpr he.gap

/-- **The two kinds of rules agree** where the opening brace stands on the line of the class
name: nothing is left of such a rule exactly if its body is blank. -/
theorem removeEmptyBlocks_spell_eq_nil_iff (h : r.Valid) (hline : '\n' ∉ r.braced.gap) :
    removeEmptyBlocks r.spell = [] ↔ r.braced.body.isBlank = true := by
  constructor
  · intro hnil
    rcases hread : EmptyRule.read r.spell with _ | ⟨e, rest⟩
    · have hcons : removeEmptyBlocks r.spell =
          '.' :: removeEmptyBlocks (r.selector ++ r.braced.spell) :=
        removeEmptyBlocks_cons_of_read hread
      rw [hcons] at hnil
      cases hnil
    · exact h.isBlank_body_of_read hread
  · intro hbody
    obtain ⟨e, he, hspell⟩ := h.exists_emptyRule hline hbody
    rw [← hspell, ← List.append_nil e.spell, removeEmptyBlocks_spell_append he,
      removeEmptyBlocks_nil]

end Rule.Valid

/-- **No empty class rule is left in a cleaned text** of those whose opening brace stands on the
line of the class name. On such rules the rules that are listed and the rules that are taken out
agree: nothing is left of a block exactly if its body is blank. -/
theorem not_blank_of_mem_ruleBlocks_clean (c : Cleaner) (t : Text) :
    (∀ b ∈ ruleBlocks (c.clean t), '\n' ∉ b.head → ∃ d ∈ b.body, isBlank d = false) ∧
      ∀ b ∈ ruleBlocks t, '\n' ∉ b.head →
        (removeEmptyBlocks b.text = [] ↔ ∀ d ∈ b.body, isBlank d = true) := by
  constructor
  · intro b hb hline
    obtain ⟨n, r, hr, rfl⟩ := exists_of_mem_ruleBlocks hb
    have hvalid := Rule.valid_of_mem_hits hr
    have hnone := (Cleaner.NormalForm.of_clean c t).no_empty_rule
    by_contra hblank
    simp only [not_exists, not_and, Bool.not_eq_false] at hblank
    rw [hvalid.body_toBlock n] at hblank
    obtain ⟨e, he, hspell⟩ := hvalid.exists_emptyRule (hvalid.newline_not_mem_gap hline)
      (Text.isBlank_iff.mpr hblank)
    exact hnone e he (hspell ▸ Pattern.spell_infix_of_mem_hits hr)
  · intro b hb hline
    obtain ⟨n, r, hr, rfl⟩ := exists_of_mem_ruleBlocks hb
    have hvalid := Rule.valid_of_mem_hits hr
    rw [hvalid.body_toBlock n, ← Text.isBlank_iff]
    exact hvalid.removeEmptyBlocks_spell_eq_nil_iff (hvalid.newline_not_mem_gap hline)

theorem not_blank_of_mem_ruleBlocks_clean_repeated_body :
    (∃ b ∈ ruleBlocks (({} : Cleaner).clean
          ".a \x7b\n x\n\x7d\n.b \x7b\n x\n\x7d .c \x7b\x7d".toList),
        '\n' ∉ b.head ∧ ∃ d ∈ b.body, isBlank d = false) ∧
      ∃ b ∈ ruleBlocks ".a \x7b\n\n\x7d".toList, '\n' ∉ b.head ∧
        (removeEmptyBlocks b.text = [] ↔ ∀ d ∈ b.body, isBlank d = true) := by
  obtain ⟨b, hb, hline⟩ : ∃ b ∈ ruleBlocks (({} : Cleaner).clean
      ".a \x7b\n x\n\x7d\n.b \x7b\n x\n\x7d .c \x7b\x7d".toList), '\n' ∉ b.head := by
    decide +kernel
  obtain ⟨b', hb', hline'⟩ : ∃ b ∈ ruleBlocks ".a \x7b\n\n\x7d".toList, '\n' ∉ b.head := by
    decide +kernel
  exact ⟨⟨b, hb, hline, (not_blank_of_mem_ruleBlocks_clean {} _).1 b hb hline⟩,
    ⟨b', hb', hline', (not_blank_of_mem_ruleBlocks_clean {} _).2 b' hb' hline'⟩⟩

/-- A class rule without declarations is left where its opening brace starts a line. -/
theorem exists_blank_mem_ruleBlocks_clean :
    (∃ b ∈ ruleBlocks (({} : Cleaner).clean ".a\n\x7b\x7d\n".toList),
        ¬ ∃ d ∈ b.body, isBlank d = false) ∧
      ∃ b ∈ ruleBlocks (({} : Cleaner).keepDuplicates.clean ".a\n\x7b\x7d\n".toList),
        ¬ ∃ d ∈ b.body, isBlank d = false := by
  have hexists : ∀ t : Text, ((ruleBlocks t).any fun b => b.body.isBlank) = true →
      ∃ b ∈ ruleBlocks t, ¬ ∃ d ∈ b.body, isBlank d = false := by
    intro t h
    obtain ⟨b, hb, hblank⟩ := List.any_eq_true.mp h
    refine ⟨b, hb, fun ⟨d, hd, hvisible⟩ => ?_⟩
    rw [Text.isBlank_iff.mp hblank d hd] at hvisible
    cases hvisible
  exact ⟨hexists _ (by decide +kernel), hexists _ (by decide +kernel)⟩

end DrawStyle
