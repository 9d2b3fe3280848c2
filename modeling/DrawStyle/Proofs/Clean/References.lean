import DrawStyle.Proofs.Clean.EmptyRule
import DrawStyle.Proofs.Clean.Passes
import DrawStyle.Proofs.Text.Lines
import DrawStyle.Proofs.Token.Reference
import Mathlib.Data.List.Flatten

/-!
References in a cleaned text.

Taking something out of a text could join what stands on the two sides of it to a reference that
was not there. Cleaning does not do so. A line that is taken out leaves a newline on each side,
which stands in no reference. And an empty rule that is taken out starts as early as it can: no
character with which a selector may start stands in front of it, and all characters of a
reference are of that kind. So a reference in a cleaned text is one that stood in the text.
-/

namespace DrawStyle

/-! ### Where empty rules were -/

/-- A reference is made of characters with which a selector may start. -/
lemma Reference.startsSelector_of_inSpelling {c : Char} (h : inSpelling c = true) :
    EmptyRule.startsSelector c = true := by
  have hclosing : Rule.inSelector c = true ∨ c = '(' ∨ c = ')' := by
    simp only [inSpelling, inTokenName, Bool.or_eq_true, beq_iff_eq] at h
    simp only [Rule.inSelector, Bool.or_eq_true, beq_iff_eq]
    tauto
  rcases hclosing with hc | rfl | rfl
  · rw [EmptyRule.startsSelector, isBlank_of_inSelector hc,
      EmptyRule.isBoundary_eq_false (Or.inl hc)]
    rfl
  · rfl
  · rfl

/-- A run of characters with which a selector may start was at the front of a text before empty
rules were taken out, if no empty rule was: one within the run would have started at its front. -/
lemma eq_append_of_removeEmptyBlocks {s t v : Text}
    (hs : ∀ c ∈ s, EmptyRule.startsSelector c = true) (hread : EmptyRule.pattern.read t = none)
    (h : removeEmptyBlocks t = s ++ v) : ∃ u, t = s ++ u ∧ removeEmptyBlocks u = v := by
  induction s generalizing t with
  | nil => exact ⟨t, rfl, h⟩
  | cons c s ih =>
    rcases t with _ | ⟨d, t⟩
    · rw [removeEmptyBlocks_nil] at h
      cases h
    · rw [removeEmptyBlocks_cons_of_read hread, List.cons_append] at h
      obtain ⟨rfl, hrest⟩ := List.cons.inj h
      -- an empty rule behind `d` would take `d` into its selector
      have hnone : EmptyRule.pattern.read t = none := by
        rcases hrule : EmptyRule.pattern.read t with _ | ⟨r, rest⟩
        · rfl
        · have hearly : EmptyRule.pattern.read (d :: t) = _ :=
            EmptyRule.read_cons_of_starts (hs d List.mem_cons_self) hrule
          rw [hread] at hearly
          cases hearly
      obtain ⟨u, rfl, hu⟩ := ih (fun c hc => hs c (List.mem_cons_of_mem _ hc)) hnone hrest
      exact ⟨u, rfl, hu⟩

/-- **Taking out empty rules makes no references.** -/
theorem references_removeEmptyBlocks_sublist (t : Text) :
    (references (removeEmptyBlocks t)).Sublist (references t) := by
  -- the induction is on what is still to be scanned, for rules or for references
  induction hn : t.length using Nat.strongRecOn generalizing t with
  | ind n ih =>
    subst hn
    rcases hrule : EmptyRule.pattern.read t with _ | ⟨r, rest⟩
    · rcases t with _ | ⟨c, t⟩
      · rw [removeEmptyBlocks_nil]
      · have htake := removeEmptyBlocks_cons_of_read hrule
        rcases href : Reference.read (c :: removeEmptyBlocks t) with _ | ⟨q, v⟩
        · rw [htake, TokenTable.references_cons href]
          exact (ih _ (by simp) t rfl).trans (references_cons_sublist c t)
        · obtain ⟨hq, hv⟩ := Reference.read_eq_some_iff.mp href
          obtain ⟨u, hu, rfl⟩ := eq_append_of_removeEmptyBlocks
            (fun d hd => Reference.startsSelector_of_inSpelling (hq.inSpelling_of_mem hd)) hrule
            (htake.trans hv)
          have hread : Reference.read (c :: t) = some (q, u) :=
            Reference.read_eq_some_iff.mpr ⟨hq, hu⟩
          rw [htake, TokenTable.references_of_read href, TokenTable.references_of_read hread]
          exact (ih _ (Reference.pattern.length_lt_of_read hread) u rfl).cons_cons _
    · rw [removeEmptyBlocks_of_read hrule, EmptyRule.pattern.eq_of_read hrule]
      exact (ih _ (EmptyRule.pattern.length_lt_of_read hrule) rest rfl).trans
        (references_append_sublist _ rest)

/-! ### Where lines were -/

lemma references_unlines (ls : List Text) : references (unlines ls) = ls.flatMap references := by
  induction ls with
  | nil => exact TokenTable.references_nil
  | cons l ls ih =>
    rw [unlines_cons, TokenTable.references_append_foreign rfl, ih, List.flatMap_cons]

lemma references_chomp (l : Text) : references (chomp l) = references l := by
  rcases chomp_cases l with h | h
  · rw [h]
  · conv_rhs =>
      rw [h, TokenTable.references_append_foreign rfl, TokenTable.references_nil, List.append_nil]

/-- The references of a text are those of its lines, one line after the other. -/
lemma flatMap_references_lines (t : Text) : (lines t).flatMap references = references t := by
  rw [lines, flatMap_linesOf TokenTable.references_nil references_chomp]
  induction t using lines_induction with
  | last s hs => rw [List.splitOn_eq_singleton hs, List.flatMap_singleton]
  | line s t hs ih =>
    rw [List.splitOn_append_cons_self_of_not_mem hs, List.flatMap_cons, ih,
      TokenTable.references_append_foreign rfl]

/-- **Taking out lines makes no references.** -/
theorem references_unlines_sublist {ls : List Text} {t : Text} (h : ls.Sublist (lines t)) :
    (references (unlines ls)).Sublist (references t) := by
  rw [references_unlines, ← flatMap_references_lines t]
  exact h.flatMap references

/-! ### Cleaning -/

namespace Cleaner

lemma references_pass_sublist (c : Cleaner) (t : Text) :
    (references (c.pass t)).Sublist (references t) := by
  have hblank : (references (removeBlankLines (removeEmptyBlocks t))).Sublist (references t) :=
    (references_unlines_sublist List.filter_sublist).trans (references_removeEmptyBlocks_sublist t)
  rw [pass]
  split
  · exact (references_unlines_sublist (firstOccurrences_sublist [] _)).trans hblank
  · exact hblank

/-- **Cleaning makes no references**: those of a cleaned text are found in the text, in the same
order. -/
theorem references_clean_sublist (c : Cleaner) (t : Text) :
    (references (c.clean t)).Sublist (references t) := by
  refine clean_induction (P := fun u => (references u).Sublist (references t)) ?_
    (List.Sublist.refl _)
  intro u hu
  exact (c.references_pass_sublist u).trans hu

end Cleaner

end DrawStyle
