import DrawStyle.EmptyRule
import DrawStyle.Text.Lines

/-!
Cleaning a stylesheet.

One pass takes out the empty rules, then the blank lines, then every line that stood before.
Passes are repeated until one changes nothing. That ends, since a pass over a terminated text
gives a subsequence of it (`pass_sublist_of_terminated`), and what a pass gives is terminated
(`terminated_pass`).
-/

namespace DrawStyle

def EmptyRule.selectorBehind (c : Char) (t : Text) : Text :=
  if startsSelector c then t.takeWhile inSelector else []

/-- A text without its empty rules. Where none starts at the front of what could be a selector, none
starts within that, since the braces would be the same; so the scan goes on behind it. -/
def removeEmptyBlocks (t : Text) : Text :=
  match _h : EmptyRule.pattern.read t with
  | some (_, rest) => removeEmptyBlocks rest
  | none =>
    match t with
    | [] => []
    | c :: t =>
      c :: (EmptyRule.selectorBehind c t ++
        removeEmptyBlocks (t.drop (EmptyRule.selectorBehind c t).length))
termination_by t.length
decreasing_by
  · exact EmptyRule.pattern.length_lt_of_read _h
  · exact Nat.lt_succ_of_le (List.drop_sublist _ _).length_le

/-- Where the braces behind a selector hold more than blanks, no empty rule starts in it. -/
theorem EmptyRule.takeWhile_append_erase {t : Text}
    (h : readBraces (t.dropWhile inSelector) = none) :
    t.takeWhile inSelector ++ pattern.erase (t.drop (t.takeWhile inSelector).length) =
      pattern.erase t := by
  induction t with
  | nil => rfl
  | cons c t ih =>
    by_cases hc : inSelector c = true
    · rw [List.dropWhile_cons_of_pos hc] at h
      have hread : pattern.read (c :: t) = none := by
        change read (c :: t) = none
        rw [read, h, Option.map_none, ite_self]
      rw [List.takeWhile_cons_of_pos hc, List.length_cons, List.drop_succ_cons, List.cons_append,
        ih h, Pattern.erase_cons hread]
    · rw [List.takeWhile_cons_of_neg hc]
      rfl

theorem EmptyRule.selectorBehind_append_erase {c : Char} {t : Text}
    (h : pattern.read (c :: t) = none) :
    selectorBehind c t ++ pattern.erase (t.drop (selectorBehind c t).length) = pattern.erase t := by
  rw [selectorBehind]
  split
  · next hc =>
    refine takeWhile_append_erase ?_
    change read (c :: t) = none at h
    rwa [read, if_pos hc, Option.map_eq_none_iff] at h
  · rfl

/-- **The scan misses nothing**: what it leaves is the text without the empty rules that are found
at any place. -/
theorem removeEmptyBlocks_eq_erase (t : Text) :
    removeEmptyBlocks t = EmptyRule.pattern.erase t := by
  fun_induction removeEmptyBlocks t with
  | case1 t r rest hread ih => rw [Pattern.erase_of_read hread, ih]
  | case2 hread => rw [Pattern.erase_nil]
  | case3 c t hread ih =>
    rw [Pattern.erase_cons hread, ← EmptyRule.selectorBehind_append_erase hread]
    exact congrArg (fun rest => c :: (EmptyRule.selectorBehind c t ++ rest)) ih

theorem removeEmptyBlocks_sublist (t : Text) : (removeEmptyBlocks t).Sublist t := by
  rw [removeEmptyBlocks_eq_erase]
  exact EmptyRule.pattern.erase_sublist t

/-- The lines of a text that are not blank, each ended by a newline. -/
def removeBlankLines (t : Text) : Text := unlines ((lines t).filter fun l => !l.isBlank)

/-- The lines among `ls` that are blank, or neither in `seen` nor earlier in `ls`. -/
def firstOccurrences (seen : List Text) : List Text → List Text
  | [] => []
  | l :: ls =>
    if Text.isBlank l then l :: firstOccurrences seen ls
    else if seen.contains l then firstOccurrences seen ls
    else l :: firstOccurrences (l :: seen) ls

/-- The lines of a text, where of equal lines that are not blank only the first is kept. -/
def removeDuplicateLines (t : Text) : Text := unlines (firstOccurrences [] (lines t))

theorem firstOccurrences_sublist (seen ls : List Text) :
    (firstOccurrences seen ls).Sublist ls := by
  induction ls generalizing seen with
  | nil => exact .slnil
  | cons l ls ih =>
    unfold firstOccurrences
    split
    · exact (ih _).cons_cons _
    · split
      · exact (ih _).cons _
      · exact (ih _).cons_cons _

/-- Lines are only taken away: what is put together from some of the lines of a text is a
subsequence of the text and a final newline, which is not needed if the text is terminated. -/
theorem unlines_sublist_of_sublist_lines {ls : List Text} {t : Text} (h : ls.Sublist (lines t)) :
    (unlines ls).Sublist (t ++ ['\n']) ∧ (Terminated t → (unlines ls).Sublist t) :=
  ⟨(unlines_sublist h).trans (unlines_lines_sublist t),
    fun ht => (unlines_sublist h).trans (unlines_lines_sublist_of_terminated ht)⟩

/-- Taking out empty rules keeps a final newline, since an empty rule ends in a brace. -/
theorem terminated_removeEmptyBlocks {t : Text} (h : Terminated t) :
    Terminated (removeEmptyBlocks t) := by
  rw [removeEmptyBlocks_eq_erase]
  rcases h with rfl | h
  · exact .inl Pattern.erase_nil
  · right
    induction t using Pattern.scan_induction (p := EmptyRule.pattern) with
    | nil => simp at h
    | hit t r rest hr ih =>
      rw [Pattern.erase_of_read hr]
      rw [EmptyRule.pattern.eq_of_read hr, List.getLast?_append] at h
      cases rest with
      | nil => simp [EmptyRule.pattern, EmptyRule.spell, List.getLast?_cons] at h
      | cons c rest => exact ih (by simpa [List.getLast?_cons] using h)
    | plain c t hr ih =>
      rw [Pattern.erase_cons hr]
      cases t with
      | nil => simpa using h
      | cons d t => simp [List.getLast?_cons, ih (by simpa [List.getLast?_cons] using h)]

structure Cleaner where
  dedupeLines : Bool := true
deriving DecidableEq, Repr

namespace Cleaner

def keepDuplicates (c : Cleaner) : Cleaner := { c with dedupeLines := false }

def pass (c : Cleaner) (t : Text) : Text :=
  let t := removeBlankLines (removeEmptyBlocks t)
  if c.dedupeLines then removeDuplicateLines t else t

theorem terminated_pass (c : Cleaner) (t : Text) : Terminated (c.pass t) := by
  unfold pass
  dsimp only
  split
  · exact terminated_unlines _
  · exact terminated_unlines _

/-- A pass takes characters away from the text that the empty rules leave, and adds no more
than a final newline. -/
theorem pass_sublist_removeEmptyBlocks (c : Cleaner) (t : Text) :
    (c.pass t).Sublist (removeBlankLines (removeEmptyBlocks t)) := by
  unfold pass
  dsimp only
  split
  · exact (unlines_sublist_of_sublist_lines (firstOccurrences_sublist _ _)).2 (terminated_unlines _)
  · exact List.Sublist.refl _

theorem pass_sublist (c : Cleaner) (t : Text) : (c.pass t).Sublist (t ++ ['\n']) :=
  (c.pass_sublist_removeEmptyBlocks t).trans <|
    (unlines_sublist_of_sublist_lines List.filter_sublist).1.trans <|
      (removeEmptyBlocks_sublist t).append_right _

theorem pass_sublist_of_terminated (c : Cleaner) {t : Text} (h : Terminated t) :
    (c.pass t).Sublist t :=
  (c.pass_sublist_removeEmptyBlocks t).trans <|
    ((unlines_sublist_of_sublist_lines List.filter_sublist).2 (terminated_removeEmptyBlocks h)).trans <|
      removeEmptyBlocks_sublist t

/-- What gets smaller while passes change a text: its length, where a text that is not
terminated counts for two characters more. -/
def rank (t : Text) : Nat := if Terminated t then t.length else t.length + 2

theorem rank_pass_lt (c : Cleaner) {t : Text} (h : c.pass t ≠ t) : rank (c.pass t) < rank t := by
  have hp : rank (c.pass t) = (c.pass t).length := if_pos (c.terminated_pass t)
  by_cases ht : Terminated t
  · have hs := c.pass_sublist_of_terminated ht
    rw [hp, rank, if_pos ht]
    exact Nat.lt_of_le_of_ne hs.length_le fun he => h (hs.length_eq.1 he)
  · have := (c.pass_sublist t).length_le
    rw [hp, rank, if_neg ht]
    simp only [List.length_append, List.length_singleton] at this
    omega

/-- Passes until one changes nothing. -/
def clean (c : Cleaner) (t : Text) : Text :=
  if c.pass t = t then t else clean c (c.pass t)
termination_by rank t
decreasing_by exact c.rank_pass_lt ‹_›

end Cleaner

end DrawStyle
