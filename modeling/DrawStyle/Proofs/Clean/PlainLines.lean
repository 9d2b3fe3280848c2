import DrawStyle.Proofs.Clean.NormalForm

/-!
Lines that cleaning never loses.

An empty rule goes from a brace to a brace, and over the ends of lines only among the blanks
between them. So a line without braces that is not blank is never cut: taking out empty rules
leaves it as often as it was there, taking out blank lines too, and of repeated lines the first
one stays.
-/

namespace DrawStyle

/-- A line without braces that is not blank. -/
structure PlainLine (l : Text) : Prop where
  not_blank : l.isBlank = false
  no_open : '{' ∉ l
  no_close : '}' ∉ l

instance : DecidablePred PlainLine := fun l =>
  decidable_of_iff (l.isBlank = false ∧ '{' ∉ l ∧ '}' ∉ l)
    ⟨fun ⟨h₁, h₂, h₃⟩ => ⟨h₁, h₂, h₃⟩, fun h => ⟨h.not_blank, h.no_open, h.no_close⟩⟩

/-- The lines of a text without the carriage returns at their ends. -/
def strippedLines (t : Text) : List Text := (t.splitOn '\n').map stripReturns

section

variable {l s t w : Text}

/-! ### Stripped lines -/

lemma mem_stripReturns {c : Char} (hc : c ≠ '\r') (h : c ∈ s) : c ∈ stripReturns s := by
  induction s using List.reverseRecOn with
  | nil => cases h
  | append_singleton s d ih =>
    by_cases hd : d = '\r'
    · rw [hd, stripReturns_append_return]
      rw [hd] at h
      exact ih ((List.mem_append.mp h).resolve_right (by simpa using hc))
    · rwa [stripReturns, List.rdropWhile_concat_neg _ _ _ (by simpa using hd)]

lemma stripReturns_chomp (s : Text) : stripReturns (chomp s) = stripReturns s := by
  rcases chomp_cases s with h | h
  · rw [h]
  · rw [h, chomp_append_return, stripReturns_append_return]

lemma strippedLines_append_newline (s t : Text) :
    strippedLines (s ++ '\n' :: t) = strippedLines s ++ strippedLines t := by
  rw [strippedLines, List.splitOn_append_cons_self, List.map_append, ← strippedLines,
    ← strippedLines]

lemma strippedLines_of_newline_not_mem (h : '\n' ∉ s) : strippedLines s = [stripReturns s] := by
  rw [strippedLines, List.splitOn_eq_singleton h, List.map_singleton]

/-- What stands in front of a text on its first line is no matter to its later lines. -/
lemma exists_strippedLines_append (t : Text) :
    ∃ u, ∀ w, '\n' ∉ w →
      strippedLines (w ++ t) = stripReturns (w ++ u) :: (strippedLines t).tail := by
  induction t using lines_induction with
  | last s hs =>
    refine ⟨s, fun w hw => ?_⟩
    have hline : '\n' ∉ w ++ s := by simp [hw, hs]
    rw [strippedLines_of_newline_not_mem hline, strippedLines_of_newline_not_mem hs, List.tail_cons]
  | line s t hs _ =>
    refine ⟨s, fun w hw => ?_⟩
    have hline : '\n' ∉ w ++ s := by simp [hw, hs]
    rw [← List.append_assoc, strippedLines_append_newline, strippedLines_append_newline,
      strippedLines_of_newline_not_mem hline, strippedLines_of_newline_not_mem hs,
      List.singleton_append, List.singleton_append, List.tail_cons]

/-- The later lines of a text are found whatever stands in front of it. -/
lemma count_tail_le (hw : '\n' ∉ w) (l t : Text) :
    (strippedLines t).tail.count l ≤ (strippedLines (w ++ t)).count l := by
  obtain ⟨u, hu⟩ := exists_strippedLines_append t
  rw [hu w hw]
  exact (List.sublist_cons_self _ _).count_le l

/-! ### Taking out empty rules -/

namespace PlainLine

/-- A line with a brace is no plain line, whatever follows on it. -/
lemma ne_stripReturns (hl : PlainLine l) {c : Char} (hc : c = '{' ∨ c = '}') (h : c ∈ s) :
    stripReturns s ≠ l := by
  rintro rfl
  rcases hc with rfl | rfl
  · exact hl.no_open (mem_stripReturns (by decide) h)
  · exact hl.no_close (mem_stripReturns (by decide) h)

lemma ne_stripReturns_of_isBlank (hl : PlainLine l) (h : s.isBlank = true) :
    stripReturns s ≠ l := by
  rintro rfl
  have hblank := hl.not_blank
  rw [isBlank_stripReturns, h] at hblank
  cases hblank

lemma count_append_of_brace (hl : PlainLine l) {c : Char} (hc : c = '{' ∨ c = '}')
    (hw : '\n' ∉ w) (h : c ∈ w) (t : Text) :
    (strippedLines (w ++ t)).count l = (strippedLines t).tail.count l := by
  obtain ⟨u, hu⟩ := exists_strippedLines_append t
  rw [hu w hw, List.count_cons_of_ne (hl.ne_stripReturns hc (List.mem_append_left u h))]

/-- **Between the braces of an empty rule there is no plain line**, nor on the lines on which
the braces stand. -/
lemma count_gap (hl : PlainLine l) {gap : Text} (hgap : gap.isBlank = true) (hw : '\n' ∉ w)
    (hfront : w.isBlank = true ∨ '{' ∈ w) (rest : Text) :
    (strippedLines (w ++ (gap ++ '}' :: rest))).count l = (strippedLines rest).tail.count l := by
  induction gap using lines_induction generalizing w with
  | last s hs =>
    have e : w ++ (s ++ '}' :: rest) = (w ++ s ++ ['}']) ++ rest := by simp
    rw [e, hl.count_append_of_brace (Or.inr rfl) (by simp [hw, hs]) (by simp)]
  | line s gap hs ih =>
    rw [Text.isBlank_append, Text.isBlank_cons, Bool.and_eq_true, Bool.and_eq_true] at hgap
    have hline : '\n' ∉ w ++ s := by simp [hw, hs]
    have hne : stripReturns (w ++ s) ≠ l := by
      rcases hfront with h | h
      · exact hl.ne_stripReturns_of_isBlank (by rw [Text.isBlank_append, h, hgap.1]; rfl)
      · exact hl.ne_stripReturns (Or.inl rfl) (List.mem_append_left s h)
    have hrest := ih hgap.2.2 (w := []) (by simp) (Or.inl rfl)
    have e : w ++ (s ++ '\n' :: gap ++ '}' :: rest) = (w ++ s) ++ '\n' :: (gap ++ '}' :: rest) := by
      simp
    rw [e, strippedLines_append_newline, strippedLines_of_newline_not_mem hline,
      List.singleton_append, List.count_cons_of_ne hne]
    exact hrest

/-- **No plain line is lost with empty rules.** Here `w` is what the scan has passed over on the
line on which it is. -/
theorem count_le_removeEmptyBlocks (hl : PlainLine l) (hw : '\n' ∉ w) (t : Text) :
    (strippedLines (w ++ t)).count l ≤ (strippedLines (w ++ removeEmptyBlocks t)).count l := by
  induction t using Pattern.scan_induction (p := EmptyRule.pattern) generalizing w with
  | nil => rw [removeEmptyBlocks_nil]
  | hit t r rest hr ih =>
    obtain ⟨hvalid, rfl⟩ := EmptyRule.read_eq_some_iff.mp hr
    have e : w ++ (r.spell ++ rest) = (w ++ r.selector ++ ['{']) ++ (r.gap ++ '}' :: rest) := by
      simp [EmptyRule.spell]
    have hline : '\n' ∉ w ++ r.selector ++ ['{'] := by
      simp [hw, hvalid.newline_not_mem_selector]
    rw [removeEmptyBlocks_of_read hr, e,
      hl.count_gap (Text.isBlank_iff.mpr hvalid.gap) hline (Or.inr (by simp))]
    exact (count_tail_le hw l rest).trans (ih hw)
  | plain c t hr ih =>
    rw [removeEmptyBlocks_cons_of_read hr]
    by_cases hc : c = '\n'
    · have hrest := ih (w := []) (by simp)
      rw [hc, strippedLines_append_newline, strippedLines_append_newline, List.count_append,
        List.count_append]
      exact Nat.add_le_add_left hrest _
    · have hrest := ih (w := w ++ [c]) (by simp [hw, Ne.symm hc])
      simpa using hrest

/-! ### Passes over lines -/

lemma count_strippedLines_unlines (hl : PlainLine l) {ls : List Text} (h : ∀ s ∈ ls, '\n' ∉ s) :
    (strippedLines (unlines ls)).count l = (ls.map stripReturns).count l := by
  have hne : stripReturns [] ≠ l := hl.ne_stripReturns_of_isBlank rfl
  rw [strippedLines, splitOn_unlines h, List.map_append, List.count_append, List.map_singleton,
    List.count_singleton, beq_eq_false_iff_ne.mpr hne, if_neg (by simp), Nat.add_zero]

lemma count_lines (hl : PlainLine l) (t : Text) :
    ((lines t).map stripReturns).count l = (strippedLines t).count l := by
  have hempty : (stripReturns [] == l) = false :=
    beq_eq_false_iff_ne.mpr (hl.ne_stripReturns_of_isBlank rfl)
  rw [List.count_eq_length_filter, List.count_eq_length_filter, lines,
    filter_map_linesOf hempty stripReturns_chomp, strippedLines]

/-- **With blank lines no plain line is dropped.** -/
theorem count_removeBlankLines (hl : PlainLine l) (t : Text) :
    (strippedLines (removeBlankLines t)).count l = (strippedLines t).count l := by
  have hone : ∀ s ∈ (lines t).filter fun s => !s.isBlank, '\n' ∉ s := fun s hs =>
    newline_not_mem_line (List.mem_filter.mp hs).1
  have hkept : ∀ s ∈ lines t, ((stripReturns s == l) && !s.isBlank) = (stripReturns s == l) := by
    intro s _
    rcases hs : s.isBlank with _ | _
    · rw [Bool.not_false, Bool.and_true]
    · rw [beq_eq_false_iff_ne.mpr (hl.ne_stripReturns_of_isBlank hs), Bool.false_and]
  rw [removeBlankLines, hl.count_strippedLines_unlines hone, ← hl.count_lines,
    List.count_eq_countP, List.count_eq_countP, List.countP_map, List.countP_map,
    List.countP_filter]
  exact List.countP_congr fun s hs => by rw [Function.comp_apply, hkept s hs]

end PlainLine

/-- A line that is not blank is found among the first ones of equal lines, if none of its equals
was seen before. -/
lemma mem_firstOccurrences {seen ls : List Text} (h : s ∈ ls) (hs : s.isBlank = false) :
    s ∈ seen ∨ s ∈ firstOccurrences seen ls := by
  induction ls generalizing seen with
  | nil => cases h
  | cons l ls ih =>
    rw [firstOccurrences]
    rcases List.mem_cons.mp h with rfl | h
    · rw [if_neg (by simp [hs])]
      split
      · next hseen => exact Or.inl (List.contains_iff_mem.mp hseen)
      · exact Or.inr List.mem_cons_self
    · split
      · exact (ih h).imp_right (List.mem_cons_of_mem _)
      · split
        · exact ih h
        · have hrest : s ∈ l :: seen ∨ s ∈ firstOccurrences (l :: seen) ls := ih h
          rcases hrest with hseen | hfirst
          · rcases List.mem_cons.mp hseen with rfl | hseen
            · exact Or.inr List.mem_cons_self
            · exact Or.inl hseen
          · exact Or.inr (List.mem_cons_of_mem _ hfirst)

namespace PlainLine

/-- **Of repeated plain lines the first one stays.** -/
theorem mem_removeDuplicateLines (hl : PlainLine l) (h : l ∈ strippedLines t) :
    l ∈ strippedLines (removeDuplicateLines t) := by
  rw [← List.count_pos_iff, ← hl.count_lines, List.count_pos_iff] at h
  obtain ⟨s, hs, rfl⟩ := List.mem_map.mp h
  have hblank : s.isBlank = false := (isBlank_stripReturns s).symm.trans hl.not_blank
  have hfirst : s ∈ firstOccurrences [] (lines t) :=
    (mem_firstOccurrences hs hblank).resolve_left List.not_mem_nil
  have hone : ∀ s ∈ firstOccurrences [] (lines t), '\n' ∉ s := fun s hs =>
    newline_not_mem_line ((firstOccurrences_sublist _ _).mem hs)
  rw [removeDuplicateLines, ← List.count_pos_iff, hl.count_strippedLines_unlines hone,
    List.count_pos_iff]
  exact List.mem_map_of_mem hfirst

/-! ### All passes -/

variable {c : Cleaner}

lemma count_le_of_steps (hl : PlainLine l) (t : Text) :
    (strippedLines t).count l ≤
      (strippedLines (removeBlankLines (removeEmptyBlocks t))).count l := by
  rw [hl.count_removeBlankLines]
  exact hl.count_le_removeEmptyBlocks (w := []) List.not_mem_nil t

lemma count_le_pass (hl : PlainLine l) (hc : c.dedupeLines = false) (t : Text) :
    (strippedLines t).count l ≤ (strippedLines (c.pass t)).count l := by
  have hpass : c.pass t = removeBlankLines (removeEmptyBlocks t) := by
    rw [Cleaner.pass, if_neg (by simp [hc])]
  rw [hpass]
  exact hl.count_le_of_steps t

lemma mem_pass (hl : PlainLine l) (c : Cleaner) (h : l ∈ strippedLines t) :
    l ∈ strippedLines (c.pass t) := by
  have hkept : l ∈ strippedLines (removeBlankLines (removeEmptyBlocks t)) :=
    List.count_pos_iff.mp ((List.count_pos_iff.mpr h).trans_le (hl.count_le_of_steps t))
  rw [Cleaner.pass]
  split
  · exact hl.mem_removeDuplicateLines hkept
  · exact hkept

lemma count_le_clean (hl : PlainLine l) (hc : c.dedupeLines = false) (t : Text) :
    (strippedLines t).count l ≤ (strippedLines (c.clean t)).count l := by
  refine Cleaner.clean_induction
    (P := fun u => (strippedLines t).count l ≤ (strippedLines u).count l) ?_ (Nat.le_refl _)
  intro u hu
  exact hu.trans (hl.count_le_pass hc u)

lemma mem_clean (hl : PlainLine l) (c : Cleaner) (h : l ∈ strippedLines t) :
    l ∈ strippedLines (c.clean t) :=
  Cleaner.clean_induction (P := fun u => l ∈ strippedLines u) (fun _ => hl.mem_pass c) h

end PlainLine

/-! ### Clean texts -/

namespace Cleaner.NormalForm

variable {c : Cleaner}

/-- In a clean text there are no carriage returns to take away. -/
lemma strippedLines_eq (h : c.NormalForm t) : strippedLines t = t.splitOn '\n' := by
  rw [strippedLines, h.terminated.splitOn_eq, List.map_append,
    List.map_congr_left fun s hs => stripReturns_eq_self_iff.mpr (h.no_return s hs), List.map_id']
  rfl

lemma count_le_one (h : c.NormalForm t) (hc : c.dedupeLines = true) (hl : PlainLine l) :
    (t.splitOn '\n').count l ≤ 1 := by
  have hempty : l ≠ [] := fun he => hl.ne_stripReturns_of_isBlank (s := []) rfl (by rw [he]; rfl)
  rw [h.terminated.splitOn_eq, List.count_append, List.count_singleton,
    beq_eq_false_iff_ne.mpr hempty.symm, if_neg Bool.false_ne_true, Nat.add_zero]
  exact List.nodup_iff_count.mp (h.no_repeat hc) l

end Cleaner.NormalForm

/-- **Cleaning loses no plain line**: a line without braces that is not blank is there exactly
once where repeated lines are dropped, and at least as often as before where they are kept. It
is found without the carriage returns that stood at its end. -/
theorem plain_lines_clean (c : Cleaner) (t l : Text) (hl : l ∈ strippedLines t)
    (hplain : PlainLine l) :
    (c.dedupeLines = true → ((c.clean t).splitOn '\n').count l = 1) ∧
      (c.dedupeLines = false →
        (strippedLines t).count l ≤ ((c.clean t).splitOn '\n').count l) := by
  have hform := Cleaner.NormalForm.of_clean c t
  constructor
  · intro hc
    have hmem := hplain.mem_clean c hl
    rw [hform.strippedLines_eq, ← List.count_pos_iff] at hmem
    exact Nat.le_antisymm (hform.count_le_one hc hplain) hmem
  · intro hc
    have hcount := hplain.count_le_clean hc t
    rwa [hform.strippedLines_eq] at hcount

theorem plain_lines_clean_returns :
    ['x'] ∈ strippedLines "a\x7b\r\n \n\x7d\r\nx\r\r\nx\r\nx\n".toList ∧ PlainLine ['x'] ∧
      ((({} : Cleaner).clean "a\x7b\r\n \n\x7d\r\nx\r\r\nx\r\nx\n".toList).splitOn '\n').count
        ['x'] = 1 ∧
      3 ≤ ((({} : Cleaner).keepDuplicates.clean
        "a\x7b\r\n \n\x7d\r\nx\r\r\nx\r\nx\n".toList).splitOn '\n').count ['x'] := by
  have hl : ['x'] ∈ strippedLines "a\x7b\r\n \n\x7d\r\nx\r\r\nx\r\nx\n".toList := by
    decide +kernel
  have hplain : PlainLine ['x'] := by decide
  have hthree : (strippedLines "a\x7b\r\n \n\x7d\r\nx\r\r\nx\r\nx\n".toList).count ['x'] = 3 := by
    decide +kernel
  have hkept := (plain_lines_clean ({} : Cleaner).keepDuplicates _ _ hl hplain).2 rfl
  rw [hthree] at hkept
  exact ⟨hl, hplain, (plain_lines_clean {} _ _ hl hplain).1 rfl, hkept⟩

end

end DrawStyle
