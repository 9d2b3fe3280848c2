import DrawStyle.Proofs.Clean.NestedRules
import DrawStyle.Proofs.Clean.Lines

/-!
Tidy line ends and empty rules.

Dropping carriage returns and blank lines in front of newlines takes away blanks only, and it
never joins two lines that are not blank. So it makes no difference to where empty rules stand:
in a text and in its tidied form the same rules are empty, also after others were taken out.
-/

namespace DrawStyle

/-- The second text is the first one without some of the carriage returns and the blank lines
that stand in front of its newlines. -/
inductive Tidied : Text → Text → Prop where
  | nil : Tidied [] []
  | keep (c : Char) {t t' : Text} : Tidied t t' → Tidied (c :: t) (c :: t')
  | carriage {t t' : Text} : Tidied ('\n' :: t) t' → Tidied ('\r' :: '\n' :: t) t'
  | blankLine (l : Text) {t t' : Text} : l.isBlank = true → '\n' ∉ l → Tidied ('\n' :: t) t' →
      Tidied ('\n' :: (l ++ '\n' :: t)) t'

namespace Tidied

variable {t t' u v : Text} {c : Char}

lemma keep_append (s : Text) (h : Tidied t t') : Tidied (s ++ t) (s ++ t') := by
  induction s with
  | nil => exact h
  | cons c s ih => exact keep c ih

/-- A newline is never dropped from the front without another one behind it. -/
lemma newline (h : Tidied ('\n' :: t) v) : ∃ v', v = '\n' :: v' := by
  generalize hu : '\n' :: t = u at h
  induction h generalizing t with
  | nil => cases hu
  | keep c _ _ =>
    obtain ⟨rfl, -⟩ := List.cons.inj hu
    exact ⟨_, rfl⟩
  | carriage _ _ => exact absurd (List.cons.inj hu).1 (by decide)
  | blankLine l _ _ _ ih => exact ih rfl

/-- A character that is not blank is found at the front of both texts or of neither. -/
lemma of_cons (hc : isBlank c = false) (h : Tidied (c :: t) v) :
    ∃ t', v = c :: t' ∧ Tidied t t' := by
  generalize hu : c :: t = u at h
  cases h with
  | nil => cases hu
  | keep d h =>
    obtain ⟨rfl, rfl⟩ := List.cons.inj hu
    exact ⟨_, rfl, h⟩
  | carriage _ => rw [(List.cons.inj hu).1] at hc; cases hc
  | blankLine l _ _ _ => rw [(List.cons.inj hu).1] at hc; cases hc

lemma to_cons (hc : isBlank c = false) (h : Tidied u (c :: t')) :
    ∃ t, u = c :: t ∧ Tidied t t' := by
  have hnot : ∀ {w : Text}, ¬ Tidied ('\n' :: w) (c :: t') := by
    intro w hw
    obtain ⟨v, hv⟩ := hw.newline
    rw [(List.cons.inj hv).1] at hc
    cases hc
  generalize hv : c :: t' = v at h
  cases h with
  | nil => cases hv
  | keep d h =>
    obtain ⟨rfl, rfl⟩ := List.cons.inj hv
    exact ⟨_, rfl, h⟩
  | carriage h => exact absurd (hv ▸ h) hnot
  | blankLine l _ _ h => exact absurd (hv ▸ h) hnot

/-! ### Stepping over characters of one kind -/

lemma dropWhile_isBlank (h : Tidied u v) : Tidied (u.dropWhile isBlank) (v.dropWhile isBlank) := by
  induction h with
  | nil => exact nil
  | keep c h ih =>
    rcases hc : isBlank c with _ | _
    · rw [List.dropWhile_cons_of_neg (by simp [hc]), List.dropWhile_cons_of_neg (by simp [hc])]
      exact keep c h
    · rwa [List.dropWhile_cons_of_pos hc, List.dropWhile_cons_of_pos hc]
  | carriage _ ih => rwa [List.dropWhile_cons_of_pos rfl]
  | blankLine l hl _ _ ih =>
    rwa [List.dropWhile_cons_of_pos rfl, List.dropWhile_append_of_pos (Text.isBlank_iff.mp hl)]

/-- A selector ends at the same place in both texts, since it ends on its line. -/
lemma dropWhile_inSelector (h : Tidied u v) :
    Tidied (u.dropWhile EmptyRule.inSelector) (v.dropWhile EmptyRule.inSelector) := by
  have hline : ∀ w : Text, ('\n' :: w).dropWhile EmptyRule.inSelector = '\n' :: w :=
    fun w => List.dropWhile_cons_of_neg (by decide)
  induction h with
  | nil => exact nil
  | keep c h ih =>
    rcases hc : EmptyRule.inSelector c with _ | _
    · rw [List.dropWhile_cons_of_neg (by simp [hc]), List.dropWhile_cons_of_neg (by simp [hc])]
      exact keep c h
    · rwa [List.dropWhile_cons_of_pos hc, List.dropWhile_cons_of_pos hc]
  | carriage _ ih => rwa [List.dropWhile_cons_of_pos rfl]
  | @blankLine l t t' hl hone h _ =>
    obtain ⟨v, rfl⟩ := h.newline
    rw [hline, hline]
    exact blankLine l hl hone h

end Tidied

/-! ### Empty rules in a tidied text -/

/-- Behind its first character, an empty rule goes on to an opening brace, and from there over
blanks to a closing one. -/
lemma EmptyRule.exists_read_cons_iff {c : Char} {t rest : Text} :
    (∃ r, read (c :: t) = some (r, rest)) ↔ startsSelector c = true ∧
      ∃ w, t.dropWhile inSelector = '{' :: w ∧ w.dropWhile isBlank = '}' :: rest := by
  have hbraces : ∀ u : Text, (∃ gap, readBraces u = some (gap, rest)) ↔
      ∃ w, u = '{' :: w ∧ w.dropWhile isBlank = '}' :: rest := by
    intro u
    constructor
    · rintro ⟨gap, h⟩
      unfold readBraces at h
      split at h
      · next w =>
        split at h
        · next rest' hw =>
          cases h
          exact ⟨w, rfl, hw⟩
        · cases h
      · cases h
    · rintro ⟨w, rfl, hw⟩
      exact ⟨w.takeWhile isBlank, by simp only [readBraces, hw]⟩
  rw [← hbraces]
  constructor
  · rintro ⟨r, h⟩
    by_cases hc : startsSelector c = true
    · rw [read, if_pos hc] at h
      obtain ⟨⟨gap, rest'⟩, hb, he⟩ := Option.map_eq_some_iff.mp h
      obtain ⟨-, rfl⟩ := Prod.mk.inj he
      exact ⟨hc, gap, hb⟩
    · rw [read, if_neg hc] at h
      cases h
  · rintro ⟨hc, gap, hb⟩
    exact ⟨_, by rw [read, if_pos hc, hb, Option.map_some]⟩

namespace Tidied

open EmptyRule

variable {t t' u v rest rest' : Text} {c : Char}

lemma exists_read (h : Tidied t t') (hr : ∃ r, read (c :: t) = some (r, rest)) :
    ∃ rest', (∃ r, read (c :: t') = some (r, rest')) ∧ Tidied rest rest' := by
  obtain ⟨hc, w, hw, hrest⟩ := exists_read_cons_iff.mp hr
  obtain ⟨w', hw', hww⟩ := of_cons rfl (hw ▸ h.dropWhile_inSelector)
  obtain ⟨rest', hrest', hrr⟩ := of_cons rfl (hrest ▸ hww.dropWhile_isBlank)
  exact ⟨rest', exists_read_cons_iff.mpr ⟨hc, w', hw', hrest'⟩, hrr⟩

lemma exists_read_of_tidied (h : Tidied t t') (hr : ∃ r, read (c :: t') = some (r, rest')) :
    ∃ rest r, read (c :: t) = some (r, rest) := by
  obtain ⟨hc, w', hw', hrest'⟩ := exists_read_cons_iff.mp hr
  obtain ⟨w, hw, hww⟩ := to_cons rfl (hw' ▸ h.dropWhile_inSelector)
  obtain ⟨rest, hrest, -⟩ := to_cons rfl (hrest' ▸ hww.dropWhile_isBlank)
  exact ⟨rest, exists_read_cons_iff.mpr ⟨hc, w, hw, hrest⟩⟩

/-- **Empty rules are taken out alike** of a text and of its tidied form. -/
theorem removeEmptyBlocks (h : Tidied u v) :
    Tidied (removeEmptyBlocks u) (removeEmptyBlocks v) := by
  -- the induction is on what is still to be scanned
  induction hn : u.length using Nat.strongRecOn generalizing u v with
  | ind n ih =>
    subst hn
    cases h with
    | nil =>
      rw [removeEmptyBlocks_nil]
      exact nil
    | @keep c t t' h =>
      rcases hread : pattern.read (c :: t) with _ | ⟨r, rest⟩
      · have hnone : pattern.read (c :: t') = none := by
          rcases hread' : pattern.read (c :: t') with _ | ⟨r', rest'⟩
          · rfl
          · obtain ⟨rest, r, hr⟩ := h.exists_read_of_tidied ⟨r', hread'⟩
            exact absurd (hread.symm.trans hr) (by simp)
        rw [removeEmptyBlocks_cons_of_read hread, removeEmptyBlocks_cons_of_read hnone]
        exact keep c (ih _ (by simp) h rfl)
      · obtain ⟨rest', ⟨r', hread'⟩, hrest⟩ := h.exists_read ⟨r, hread⟩
        have hread' : pattern.read (c :: t') = some (r', rest') := hread'
        rw [removeEmptyBlocks_of_read hread, removeEmptyBlocks_of_read hread']
        exact ih _ (pattern.length_lt_of_read hread) hrest rfl
    | @carriage t _ h =>
      have hrest := ih _ (by simp) h rfl
      rw [removeEmptyBlocks_cons rfl] at hrest ⊢
      rw [removeEmptyBlocks_cons rfl]
      exact carriage hrest
    | @blankLine l t _ hl hone h =>
      have hshorter : ('\n' :: t).length < ('\n' :: (l ++ '\n' :: t)).length := by
        simp only [List.length_cons, List.length_append]
        omega
      have hrest := ih _ hshorter h rfl
      rw [removeEmptyBlocks_cons rfl] at hrest ⊢
      rw [removeEmptyBlocks_blank_append hl, removeEmptyBlocks_cons rfl]
      exact blankLine l hl hone hrest

/-- So are those that are empty once others are taken out. -/
theorem removeAllEmptyBlocks (h : Tidied u v) :
    Tidied (removeAllEmptyBlocks u) (removeAllEmptyBlocks v) := by
  -- while there is something to take out of the first text, both go on by one step
  induction u using removeAllEmptyBlocks.induct generalizing v with
  | case1 u hu =>
    rw [removeAllEmptyBlocks_of_eq hu]
    induction v using removeAllEmptyBlocks.induct with
    | case1 v hv => rwa [removeAllEmptyBlocks_of_eq hv]
    | case2 v _ ih =>
      rw [← removeAllEmptyBlocks_removeEmptyBlocks]
      exact ih (hu ▸ h.removeEmptyBlocks)
  | case2 u _ ih =>
    rw [← removeAllEmptyBlocks_removeEmptyBlocks u, ← removeAllEmptyBlocks_removeEmptyBlocks v]
    exact ih h.removeEmptyBlocks

end Tidied

/-! ### Tidy lines -/

/-- The lines of a text that are not blank, without carriage returns at their ends, each ended by
a newline. -/
def tidyLines (t : Text) : Text :=
  unlines (((t.splitOn '\n').map stripReturns).filter fun l => !l.isBlank)

section

variable {l s t t' : Text} {ls : List Text}

@[simp] lemma tidyLines_nil : tidyLines [] = [] := rfl

lemma tidyLines_append_newline (s t : Text) :
    tidyLines (s ++ '\n' :: t) = tidyLines s ++ tidyLines t := by
  rw [tidyLines, List.splitOn_append_cons_self, List.map_append, List.filter_append,
    unlines_append, ← tidyLines, ← tidyLines]

lemma tidyLines_cons_newline (t : Text) : tidyLines ('\n' :: t) = tidyLines t :=
  tidyLines_append_newline [] t

lemma tidyLines_append_return (h : '\n' ∉ l) : tidyLines (l ++ ['\r']) = tidyLines l := by
  have h' : '\n' ∉ l ++ ['\r'] := by simp [h]
  rw [tidyLines, tidyLines, List.splitOn_eq_singleton h, List.splitOn_eq_singleton h',
    List.map_singleton, List.map_singleton, stripReturns_append_return]

lemma tidyLines_of_isBlank (h : l.isBlank = true) (hone : '\n' ∉ l) : tidyLines l = [] := by
  rw [tidyLines, List.splitOn_eq_singleton hone, List.map_singleton,
    List.filter_cons_of_neg (by rw [isBlank_stripReturns, h]; decide), List.filter_nil, unlines_nil]

lemma tidyLines_unlines (h : ∀ l ∈ ls, '\n' ∉ l) :
    tidyLines (unlines ls) = unlines ((ls.map stripReturns).filter fun l => !l.isBlank) := by
  have hlast : [([] : Text)].filter (fun l => !Text.isBlank l) = [] := rfl
  rw [tidyLines, splitOn_unlines h, List.map_append, List.filter_append, List.map_singleton]
  exact congrArg unlines (by rw [stripReturns, List.rdropWhile_nil, hlast, List.append_nil])

/-- What tidying drops makes no difference once all lines are tidied. -/
lemma Tidied.tidyLines_append (h : Tidied t t') (hs : '\n' ∉ s) :
    tidyLines (s ++ t) = tidyLines (s ++ t') := by
  induction h generalizing s with
  | nil => rfl
  | @keep c t t' _ ih =>
    by_cases hc : c = '\n'
    · have hrest := ih (s := []) (by simp)
      rw [List.nil_append, List.nil_append] at hrest
      rw [hc, tidyLines_append_newline, tidyLines_append_newline, hrest]
    · have hrest := ih (s := s ++ [c]) (by simp [hs, Ne.symm hc])
      simpa using hrest
  | @carriage t t' _ ih =>
    have e : s ++ '\r' :: '\n' :: t = (s ++ ['\r']) ++ '\n' :: t := by simp
    rw [← ih hs, e, tidyLines_append_newline, tidyLines_append_newline,
      tidyLines_append_return hs]
  | blankLine l hl hone _ ih =>
    rw [← ih hs, tidyLines_append_newline, tidyLines_append_newline, tidyLines_append_newline,
      tidyLines_of_isBlank hl hone, List.nil_append]

lemma Tidied.tidyLines_eq (h : Tidied t t') : tidyLines t = tidyLines t' :=
  h.tidyLines_append (s := []) (by simp)

lemma tidyLines_between_newlines (t : Text) : tidyLines ('\n' :: (t ++ ['\n'])) = tidyLines t := by
  rw [tidyLines_cons_newline, tidyLines_append_newline, tidyLines_nil, List.append_nil]

/-! ### Blank lines -/

lemma filter_linesOf_of_isBlank (h : s.isBlank = true) (ss : List Text) :
    (linesOf (s :: ss)).filter (fun l => !l.isBlank) =
      (linesOf ss).filter fun l => !l.isBlank := by
  rcases ss with _ | ⟨s', ss⟩
  · rw [linesOf_singleton]
    split
    · rfl
    · rw [List.filter_cons_of_neg (by simp [h])]
      rfl
  · rw [linesOf_cons _ (List.cons_ne_nil _ _),
      List.filter_cons_of_neg (by simp [isBlank_chomp, h])]

/-- A line that is not blank stays, but for a carriage return at its end. -/
lemma filter_linesOf_of_not_isBlank (h : s.isBlank = false) (ss : List Text) :
    ∃ s', (linesOf (s :: ss)).filter (fun l => !l.isBlank) =
        s' :: (linesOf ss).filter (fun l => !l.isBlank) ∧ (s' = s ∨ s = s' ++ ['\r']) := by
  rcases ss with _ | ⟨s', ss⟩
  · have hne : s ≠ [] := by
      rintro rfl
      cases h
    refine ⟨s, ?_, Or.inl rfl⟩
    rw [linesOf_singleton, if_neg hne, List.filter_cons_of_pos (by simp [h])]
    rfl
  · refine ⟨chomp s, ?_, chomp_cases s⟩
    rw [linesOf_cons _ (List.cons_ne_nil _ _),
      List.filter_cons_of_pos (by simp [isBlank_chomp, h])]

/-- The lines that are left without the blank ones are those of a tidied text. -/
lemma tidied_linesOf {segments : List Text} (h : ∀ s ∈ segments, '\n' ∉ s) :
    Tidied ('\n' :: unlines segments)
      ('\n' :: unlines ((linesOf segments).filter fun l => !l.isBlank)) := by
  induction segments with
  | nil => exact .keep _ .nil
  | cons s ss ih =>
    have hss := ih fun s' hs' => h s' (List.mem_cons_of_mem _ hs')
    rw [unlines_cons]
    rcases hs : s.isBlank with _ | _
    · obtain ⟨s', hlines, hs'⟩ := filter_linesOf_of_not_isBlank hs ss
      rw [hlines, unlines_cons]
      refine .keep _ ?_
      rcases hs' with rfl | rfl
      · exact hss.keep_append s'
      · rw [List.append_assoc]
        exact hss.carriage.keep_append s'
    · rw [filter_linesOf_of_isBlank hs]
      exact .blankLine s hs (h s List.mem_cons_self) hss

/-- **Dropping blank lines tidies a text** that newlines stand around. -/
theorem tidied_removeBlankLines (t : Text) :
    Tidied ('\n' :: (t ++ ['\n'])) ('\n' :: removeBlankLines t) := by
  rw [← unlines_splitOn]
  exact tidied_linesOf fun _ => newline_not_mem_segment

end

end DrawStyle
