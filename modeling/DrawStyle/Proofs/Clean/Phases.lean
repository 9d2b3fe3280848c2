import DrawStyle.Proofs.Clean.LineEnds
import DrawStyle.Proofs.Clean.NormalForm

/-!
Cleaning in two phases.

Where repeated lines are kept, a pass takes out empty rules and then blank lines. Which rules
are empty does not depend on blank lines, so all empty rules can be taken out first: what is
left by that, with its lines tidied, is the same before and after a pass, and it is the text
itself where passes end.
-/

namespace DrawStyle

/-- What has been cleaned is neither changed by taking out empty rules nor by tidying lines. -/
lemma Cleaner.NormalForm.tidyLines_removeAllEmptyBlocks {c : Cleaner} {t : Text}
    (h : c.NormalForm t) : tidyLines (removeAllEmptyBlocks t) = t := by
  have hstrip : (endedLines t).map stripReturns = endedLines t := by
    rw [List.map_congr_left fun l hl => stripReturns_eq_self_iff.mpr (h.no_return l hl),
      List.map_id']
  have hlines : t = unlines (endedLines t) := h.terminated.unlines_endedLines.symm
  rw [removeAllEmptyBlocks_of_eq (removeEmptyBlocks_eq_self_iff.mpr h.no_empty_rule)]
  calc tidyLines t
      = tidyLines (unlines (endedLines t)) := congrArg tidyLines hlines
    _ = unlines (((endedLines t).map stripReturns).filter fun l => !l.isBlank) :=
        tidyLines_unlines fun _ => newline_not_mem_endedLine
    _ = t := by rw [hstrip, h.filter_endedLines, ← hlines]

/-- **Blank lines are no matter** to what is left in the end. -/
lemma tidyLines_removeAllEmptyBlocks_removeBlankLines (t : Text) :
    tidyLines (removeAllEmptyBlocks (removeBlankLines t)) =
      tidyLines (removeAllEmptyBlocks t) := by
  have hnewline : Text.isBlank ['\n'] = true := rfl
  have htidied := (tidied_removeBlankLines t).removeAllEmptyBlocks.tidyLines_eq
  have hleft : removeAllEmptyBlocks ('\n' :: (t ++ ['\n'])) =
      '\n' :: (removeAllEmptyBlocks t ++ ['\n']) := by
    rw [← removeAllEmptyBlocks_append_blank hnewline]
    exact removeAllEmptyBlocks_blank_append hnewline _
  have hright : removeAllEmptyBlocks ('\n' :: removeBlankLines t) =
      '\n' :: removeAllEmptyBlocks (removeBlankLines t) :=
    removeAllEmptyBlocks_blank_append hnewline _
  rw [hleft, hright, tidyLines_between_newlines, tidyLines_cons_newline] at htidied
  exact htidied.symm

/-- **Where repeated lines are kept, cleaning has two phases**: empty rules are taken out until
none is left, and then the lines are tidied. -/
theorem clean_keepDuplicates_eq (c : Cleaner) (t : Text) :
    c.keepDuplicates.clean t = tidyLines (removeAllEmptyBlocks t) := by
  have hpass : ∀ u, tidyLines (removeAllEmptyBlocks (c.keepDuplicates.pass u)) =
      tidyLines (removeAllEmptyBlocks u) := by
    intro u
    have hu : c.keepDuplicates.pass u = removeBlankLines (removeEmptyBlocks u) := rfl
    rw [hu, tidyLines_removeAllEmptyBlocks_removeBlankLines,
      removeAllEmptyBlocks_removeEmptyBlocks]
  have hclean := Cleaner.NormalForm.of_clean c.keepDuplicates t
  calc c.keepDuplicates.clean t
      = tidyLines (removeAllEmptyBlocks (c.keepDuplicates.clean t)) :=
        hclean.tidyLines_removeAllEmptyBlocks.symm
    _ = tidyLines (removeAllEmptyBlocks t) :=
        Cleaner.clean_invariant (P := fun _ => True) (f := fun u => tidyLines (removeAllEmptyBlocks u))
          (fun _ h => h) (fun u _ => hpass u) trivial

end DrawStyle
