import DrawStyle.Clean
import DrawStyle.Proofs.Text.Lines
import DrawStyle.Proofs.Text.Repeats

/-!
What is left when lines are taken out.

Cutting a text into lines and putting them together again changes blanks only, so of the
characters that are not blank nothing is lost with blank lines. With repeated lines exactly
the lines are lost that are collected here as repeats.
-/

namespace DrawStyle

section Filter

variable {p : Char → Bool}

lemma filter_unlines (hnewline : p '\n' = false) (ls : List Text) :
    (unlines ls).filter p = ls.flatMap (List.filter p) := by
  induction ls with
  | nil => rfl
  | cons l ls ih =>
    rw [unlines_cons, List.filter_append, List.filter_cons_of_neg (by simp [hnewline]), ih,
      List.flatMap_cons]

lemma filter_chomp (hreturn : p '\r' = false) (l : Text) : (chomp l).filter p = l.filter p := by
  unfold chomp
  split
  · next h =>
    obtain ⟨u, rfl⟩ := List.getLast?_eq_some_iff.mp h
    simp [hreturn]
  · rfl

lemma filter_intercalate (hnewline : p '\n' = false) (segments : List Text) :
    (['\n'].intercalate segments).filter p = segments.flatMap (List.filter p) := by
  induction segments with
  | nil => rfl
  | cons s ss ih =>
    rcases ss with _ | ⟨s', ss⟩
    · simp
    · rw [List.intercalate_cons_cons, List.filter_append, List.filter_append, ih,
        List.flatMap_cons]
      simp [hnewline]

/-- **Lines keep what is not blank**: of the characters of other kinds than newlines and
carriage returns, all are found in the lines. -/
theorem filter_unlines_lines (hnewline : p '\n' = false) (hreturn : p '\r' = false) (t : Text) :
    (unlines (lines t)).filter p = t.filter p := by
  rw [filter_unlines hnewline, lines, flatMap_linesOf rfl (filter_chomp hreturn),
    ← filter_intercalate hnewline, List.intercalate_splitOn]

lemma filter_eq_nil_of_isBlank (h : ∀ c, isBlank c = true → p c = false) {l : Text}
    (hl : l.isBlank = true) : l.filter p = [] := by
  rw [List.filter_eq_nil_iff]
  intro c hc
  rw [h c (Text.isBlank_iff.mp hl c hc)]
  exact Bool.false_ne_true

/-- Of the characters that are not blank, none is lost with the blank lines. -/
theorem filter_removeBlankLines (h : ∀ c, isBlank c = true → p c = false) (t : Text) :
    (removeBlankLines t).filter p = t.filter p := by
  have hnewline : p '\n' = false := h _ rfl
  have hdropped : ∀ ls : List Text, (ls.filter fun l => !l.isBlank).flatMap (List.filter p) =
      ls.flatMap (List.filter p) := by
    intro ls
    induction ls with
    | nil => rfl
    | cons l ls ih =>
      rcases hl : l.isBlank with _ | _
      · rw [List.filter_cons_of_pos (by simp [hl]), List.flatMap_cons, List.flatMap_cons, ih]
      · rw [List.filter_cons_of_neg (by simp [hl]), List.flatMap_cons,
          filter_eq_nil_of_isBlank h hl, List.nil_append, ih]
  rw [removeBlankLines, filter_unlines hnewline, hdropped, ← filter_unlines hnewline,
    filter_unlines_lines hnewline (h _ rfl)]

end Filter

/-! ### Lines put together -/

section Unlines

variable {ls : List Text}

/-- The lines that a text is left with by the two passes over lines, if it is given by its
lines. -/
lemma removeBlankLines_unlines (h : ∀ l ∈ ls, '\n' ∉ l) :
    removeBlankLines (unlines ls) = unlines ((ls.map chomp).filter fun l => !l.isBlank) := by
  rw [removeBlankLines, lines_unlines h]

lemma removeDuplicateLines_unlines (h : ∀ l ∈ ls, '\n' ∉ l) :
    removeDuplicateLines (unlines ls) = unlines (firstOccurrences [] (ls.map chomp)) := by
  rw [removeDuplicateLines, lines_unlines h]

/-- Among lines that are not blank, the first ones of equal lines are kept. -/
lemma firstOccurrences_eq_filter (seen : List Text) (h : ∀ l ∈ ls, l.isBlank = false) :
    firstOccurrences seen ls = (ls.filter fun l => !seen.contains l).eraseDups := by
  induction ls generalizing seen with
  | nil => rfl
  | cons l ls ih =>
    have hls : ∀ l' ∈ ls, l'.isBlank = false := fun l' hl' => h l' (List.mem_cons_of_mem _ hl')
    rw [firstOccurrences, if_neg (by simp [h l List.mem_cons_self])]
    rcases hl : seen.contains l with _ | _
    · rw [if_neg (by simp), ih _ hls, List.filter_cons_of_pos (by rw [hl]; rfl),
        List.eraseDups_cons, List.filter_filter]
      simp only [List.contains_cons, Bool.not_or]
    · rw [if_pos rfl, ih _ hls, List.filter_cons_of_neg (by rw [hl]; simp)]

lemma firstOccurrences_nil_eq_eraseDups (h : ∀ l ∈ ls, l.isBlank = false) :
    firstOccurrences [] ls = ls.eraseDups := by
  have hall : (ls.filter fun l => !([] : List Text).contains l) = ls :=
    List.filter_eq_self.mpr fun _ _ => rfl
  rw [firstOccurrences_eq_filter [] h, hall]

end Unlines

/-! ### Repeated lines -/

/-- The lines among `ls` that are not blank, and in `seen` or earlier in `ls`. -/
def repeatedLines (seen : List Text) : List Text → List Text
  | [] => []
  | l :: ls =>
    if Text.isBlank l then repeatedLines seen ls
    else if seen.contains l then l :: repeatedLines seen ls
    else repeatedLines (l :: seen) ls

namespace Cleaner

/-- The lines that a pass takes out since they stood before. -/
def passRepeats (c : Cleaner) (t : Text) : List Text :=
  if c.dedupeLines then repeatedLines [] (lines (removeBlankLines (removeEmptyBlocks t))) else []

/-- The lines that cleaning takes out since they stood before, pass by pass. -/
def repeats (c : Cleaner) (t : Text) : List Text :=
  if c.pass t = t then [] else c.passRepeats t ++ repeats c (c.pass t)
termination_by rank t
decreasing_by exact c.rank_pass_lt ‹_›

lemma repeats_of_dedupeLines_eq_false {c : Cleaner} (h : c.dedupeLines = false) (t : Text) :
    c.repeats t = [] := by
  induction t using Cleaner.clean.induct c with
  | case1 t ht => rw [repeats, if_pos ht]
  | case2 t ht ih => rw [repeats, if_neg ht, ih, passRepeats, h, if_neg (by simp), List.nil_append]

end Cleaner

end DrawStyle
