import DrawStyle.Proofs.Clean.Balance
import DrawStyle.Proofs.Clean.NestedRules
import DrawStyle.Proofs.Clean.NormalForm

/-!
Cleaning line by line.

Where each line closes what it opens, no empty rule goes over the end of a line, so empty rules
are taken out of each line by itself. The line that is left of a line in the end does not depend
on when it lost its carriage return, nor on which of its repeats had been dropped before. So the
lines that are left of all lines, each kept once, are the same before and after a pass.
-/

namespace DrawStyle

section

variable {l s t : Text}

/-! ### Empty rules within lines -/

/-- Where an empty rule is cut at a newline, its brace is open. -/
lemma EmptyRule.Valid.height_of_cut {r : EmptyRule} (h : r.Valid) {v w : Text}
    (hcut : r.spell = v ++ '\n' :: w) : height v = 1 := by
  have hspell : v ++ '\n' :: w = r.selector ++ '{' :: (r.gap ++ ['}']) := by
    rw [← hcut, spell]
    simp
  -- the newline stands in the gap
  rcases List.append_eq_append_iff.mp hspell with ⟨u, hu, hw⟩ | ⟨u, rfl, hw⟩
  · rcases u with _ | ⟨d, u⟩
    · exact absurd (List.cons.inj hw).1 (by decide)
    · obtain ⟨rfl, -⟩ := List.cons.inj hw
      exact absurd (by simp [hu]) h.newline_not_mem_selector
  · rcases u with _ | ⟨d, u⟩
    · exact absurd (List.cons.inj hw).1 (by decide)
    · obtain ⟨rfl, hgap⟩ := List.cons.inj hw
      have hblank : ∀ c ∈ u, isBlank c = true := by
        rcases List.append_eq_append_iff.mp hgap with ⟨x, -, hx⟩ | ⟨x, hx, -⟩
        · rcases x with _ | ⟨d, x⟩
          · exact absurd (List.cons.inj hx).1 (by decide)
          · simp at hx
        · intro c hc
          exact h.gap c (by simp [hx, hc])
      have hopen : height ['{'] = 1 := rfl
      rw [height_append, h.height_selector, height_cons, hopen,
        height_eq_zero fun c hc => isBrace_of_isBlank c (hblank c hc)]
      rfl

/-- No empty rule goes over the end of a line that closes what it opens. -/
lemma EmptyRule.apart_of_balanced (hl : Balanced l) (t : Text) :
    EmptyRule.pattern.Apart l ('\n' :: t) := by
  rintro v - ⟨a, rfl⟩ r rest hread
  obtain ⟨hr, hv⟩ := EmptyRule.read_eq_some_iff.mp hread
  rcases List.append_eq_append_iff.mp hv with ⟨w, hw, hrest⟩ | ⟨w, rfl, -⟩
  · rcases w with _ | ⟨d, w⟩
    · exact ⟨[], by simpa using hw⟩
    · -- what stands before the rule on its line would close more than it opens
      obtain ⟨rfl, -⟩ := List.cons.inj hrest
      have hopen : height v = 1 := hr.height_of_cut hw
      have hsum := hl.height_eq
      have hfront := hl.upright a (List.prefix_append a v)
      rw [height_append] at hsum
      omega
  · exact List.prefix_append _ _

lemma removeEmptyBlocks_append_newline (hl : Balanced l) (t : Text) :
    removeEmptyBlocks (l ++ '\n' :: t) =
      removeEmptyBlocks l ++ '\n' :: removeEmptyBlocks t := by
  rw [removeEmptyBlocks_append_of_apart (EmptyRule.apart_of_balanced hl t),
    removeEmptyBlocks_cons rfl]

lemma newline_not_mem_removeEmptyBlocks (h : '\n' ∉ l) : '\n' ∉ removeEmptyBlocks l := fun hmem =>
  h ((removeEmptyBlocks_sublist l).mem hmem)

/-- **Empty rules are taken out of each line by itself**, where each line closes what it
opens. -/
theorem splitOn_removeEmptyBlocks (h : ∀ l ∈ t.splitOn '\n', Balanced l) :
    (removeEmptyBlocks t).splitOn '\n' = (t.splitOn '\n').map removeEmptyBlocks := by
  induction t using lines_induction with
  | last s hs =>
    rw [List.splitOn_eq_singleton hs,
      List.splitOn_eq_singleton (newline_not_mem_removeEmptyBlocks hs), List.map_singleton]
  | line s t hs ih =>
    rw [List.splitOn_append_cons_self_of_not_mem hs] at h ⊢
    rw [removeEmptyBlocks_append_newline (h s List.mem_cons_self),
      List.splitOn_append_cons_self_of_not_mem (newline_not_mem_removeEmptyBlocks hs),
      ih fun l hl => h l (List.mem_cons_of_mem _ hl), List.map_cons]

/-! ### Lines stay balanced -/

lemma Balanced.of_filter (h : Balanced t) (he : s.filter isBrace = t.filter isBrace) :
    Balanced s where
  upright := (upright_iff_of_filter he).mpr h.upright
  height_eq := (height_eq_of_filter he).trans h.height_eq

lemma Balanced.removeEmptyBlocks (h : Balanced t) : Balanced (removeEmptyBlocks t) where
  upright := (pruned_removeEmptyBlocks t).upright (fun _ hs => Int.le_of_eq hs) h.upright
  height_eq := ((pruned_removeEmptyBlocks t).height_eq fun _ hs => hs).trans h.height_eq

lemma Balanced.chomp (h : Balanced l) : Balanced (chomp l) := h.of_filter (filter_chomp rfl l)

/-! ### What is left of a line -/

/-- A line without its empty rules, and then without carriage returns at its end. -/
def tidyLine (l : Text) : Text := stripReturns (removeAllEmptyBlocks l)

/-- What is left of some lines, where blank lines are dropped and of equal lines only the first
is kept. -/
def distinctLines (ls : List Text) : List Text :=
  ((ls.map tidyLine).filter fun l => !l.isBlank).eraseDups

lemma tidyLine_removeEmptyBlocks (l : Text) : tidyLine (removeEmptyBlocks l) = tidyLine l := by
  rw [tidyLine, removeAllEmptyBlocks_removeEmptyBlocks, tidyLine]

lemma tidyLine_chomp (l : Text) : tidyLine (chomp l) = tidyLine l := by
  rcases chomp_cases l with h | h
  · rw [h]
  · have hreturn : Text.isBlank ['\r'] = true := rfl
    rw [h, chomp_append_return, tidyLine, tidyLine, removeAllEmptyBlocks_append_blank hreturn,
      stripReturns_append_return]

lemma isBlank_tidyLine (h : l.isBlank = true) : (tidyLine l).isBlank = true := by
  rw [tidyLine, isBlank_stripReturns, removeAllEmptyBlocks_of_isBlank h, h]

section DistinctLines

variable {ls : List Text}

/-- A change that makes no difference to what is left of each line makes none to the lines. -/
lemma distinctLines_map {f : Text → Text} (hf : ∀ l, tidyLine (f l) = tidyLine l)
    (ls : List Text) : distinctLines (ls.map f) = distinctLines ls := by
  have hcomp : tidyLine ∘ f = tidyLine := funext hf
  rw [distinctLines, List.map_map, hcomp, distinctLines]

lemma distinctLines_filter (ls : List Text) :
    distinctLines (ls.filter fun l => !l.isBlank) = distinctLines ls := by
  have hkept : ∀ l ∈ ls, ((!(tidyLine l).isBlank) && !l.isBlank) = !(tidyLine l).isBlank := by
    intro l _
    rcases hl : l.isBlank with _ | _
    · rw [Bool.not_false, Bool.and_true]
    · rw [isBlank_tidyLine hl]
      rfl
  rw [distinctLines, distinctLines, List.filter_map, List.filter_map, List.filter_filter]
  exact congrArg (fun ls => (List.map tidyLine ls).eraseDups) (List.filter_congr hkept)

/-- It is enough to keep each line once before something is taken out of it. -/
lemma distinctLines_eraseDups (ls : List Text) :
    distinctLines ls.eraseDups = distinctLines ls := by
  rw [distinctLines, distinctLines, eraseDups_filter, eraseDups_map_eraseDups, ← eraseDups_filter]

lemma distinctLines_append_nil (ls : List Text) : distinctLines (ls ++ [[]]) = distinctLines ls := by
  have hlast : [tidyLine []].filter (fun l => !Text.isBlank l) = [] :=
    List.filter_cons_of_neg (by rw [isBlank_tidyLine rfl]; decide)
  rw [distinctLines, List.map_append, List.filter_append, List.map_singleton, hlast,
    List.append_nil, distinctLines]

/-- Of the segments of a text the same is left as of its lines. -/
lemma distinctLines_linesOf (segments : List Text) :
    distinctLines (linesOf segments) = distinctLines segments := by
  have hblank : (!(tidyLine []).isBlank) = false := by rw [isBlank_tidyLine rfl]; rfl
  rw [distinctLines, filter_map_linesOf hblank tidyLine_chomp, distinctLines]

end DistinctLines

/-! ### Passes over balanced lines -/

/-- The lines that are not blank once empty rules are taken out of each line of a text. -/
def keptLines (t : Text) : List Text :=
  (linesOf ((t.splitOn '\n').map removeEmptyBlocks)).filter fun l => !l.isBlank

/-- A line that is kept comes from a line of the text, without empty rules and perhaps without a
carriage return. -/
lemma keptLines_of_closed {P : Text → Prop} (hrules : ∀ l, P l → P (removeEmptyBlocks l))
    (hchomp : ∀ l, P l → P (chomp l)) (h : ∀ l ∈ t.splitOn '\n', P l) : ∀ l ∈ keptLines t, P l := by
  intro l hl
  obtain ⟨s, hs, hl⟩ := exists_mem_of_mem_linesOf (List.mem_filter.mp hl).1
  obtain ⟨u, hu, rfl⟩ := List.mem_map.mp hs
  rcases hl with rfl | rfl
  · exact hrules u (h u hu)
  · exact hchomp _ (hrules u (h u hu))

lemma newline_not_mem_keptLines (t : Text) : ∀ l ∈ keptLines t, '\n' ∉ l :=
  keptLines_of_closed (fun _ => newline_not_mem_removeEmptyBlocks) (fun _ => newline_not_mem_chomp)
    fun _ => newline_not_mem_segment

/-- **A pass over balanced lines** takes empty rules out of each line, drops blank lines and
keeps each line once. -/
lemma pass_eq_unlines (h : ∀ l ∈ t.splitOn '\n', Balanced l) :
    ({} : Cleaner).pass t = unlines ((keptLines t).map chomp).eraseDups := by
  have hpass : ({} : Cleaner).pass t =
      removeDuplicateLines (removeBlankLines (removeEmptyBlocks t)) := rfl
  have hkept : removeBlankLines (removeEmptyBlocks t) = unlines (keptLines t) := by
    rw [removeBlankLines, lines, splitOn_removeEmptyBlocks h, keptLines]
  have hblank : ∀ l ∈ (keptLines t).map chomp, l.isBlank = false := by
    rw [List.forall_mem_map]
    intro l hl
    rw [isBlank_chomp]
    simpa using (List.mem_filter.mp hl).2
  rw [hpass, hkept, removeDuplicateLines_unlines (newline_not_mem_keptLines t),
    firstOccurrences_nil_eq_eraseDups hblank]

/-- After a pass, a text is cut into the lines that are left and an empty one. -/
lemma splitOn_pass (h : ∀ l ∈ t.splitOn '\n', Balanced l) :
    (({} : Cleaner).pass t).splitOn '\n' = ((keptLines t).map chomp).eraseDups ++ [[]] := by
  have hone : ∀ l ∈ ((keptLines t).map chomp).eraseDups, '\n' ∉ l := by
    intro l hl
    obtain ⟨l', hl', rfl⟩ := List.mem_map.mp (List.mem_eraseDups.mp hl)
    exact newline_not_mem_chomp (newline_not_mem_keptLines t l' hl')
  rw [pass_eq_unlines h, splitOn_unlines hone]

lemma balanced_pass (h : ∀ l ∈ t.splitOn '\n', Balanced l) :
    ∀ l ∈ (({} : Cleaner).pass t).splitOn '\n', Balanced l := by
  have hkept : ∀ l ∈ keptLines t, Balanced l :=
    keptLines_of_closed (fun _ => Balanced.removeEmptyBlocks) (fun _ => Balanced.chomp) h
  intro l hl
  rw [splitOn_pass h] at hl
  rcases List.mem_append.mp hl with hl | hl
  · obtain ⟨l', hl', rfl⟩ := List.mem_map.mp (List.mem_eraseDups.mp hl)
    exact (hkept l' hl').chomp
  · rw [List.mem_singleton.mp hl]
    decide

/-- **What is left of the lines** is the same before and after a pass. -/
lemma distinctLines_pass (h : ∀ l ∈ t.splitOn '\n', Balanced l) :
    distinctLines ((({} : Cleaner).pass t).splitOn '\n') = distinctLines (t.splitOn '\n') := by
  rw [splitOn_pass h, distinctLines_append_nil, distinctLines_eraseDups,
    distinctLines_map tidyLine_chomp, keptLines, distinctLines_filter, distinctLines_linesOf,
    distinctLines_map tidyLine_removeEmptyBlocks]

/-! ### Where passes end -/

lemma infix_unlines {ls : List Text} (h : l ∈ ls) : l <:+: unlines ls := by
  obtain ⟨a, b, rfl⟩ := List.append_of_mem h
  exact ⟨unlines a, '\n' :: unlines b, by simp⟩

lemma Cleaner.NormalForm.unlines_distinctLines (h : ({} : Cleaner).NormalForm t) :
    unlines (distinctLines (t.splitOn '\n')) = t := by
  have htidy : ∀ l ∈ endedLines t, tidyLine l = l := by
    intro l hl
    have hinfix : l <:+: t := by
      have hlines := infix_unlines hl
      rwa [h.terminated.unlines_endedLines] at hlines
    have hrules : DrawStyle.removeEmptyBlocks l = l :=
      removeEmptyBlocks_eq_self_iff.mpr fun r hr hspell =>
        h.no_empty_rule r hr (hspell.trans hinfix)
    rw [tidyLine, removeAllEmptyBlocks_of_eq hrules,
      stripReturns_eq_self_iff.mpr (h.no_return l hl)]
  rw [h.terminated.splitOn_eq, distinctLines_append_nil, distinctLines, List.map_congr_left htidy,
    List.map_id', h.filter_endedLines, eraseDups_eq_self_iff.mpr (h.no_repeat rfl),
    h.terminated.unlines_endedLines]

/-- **Where each line closes what it opens, cleaning is done line by line**: empty rules are
taken out of each line until none is left, then the carriage returns at its end; of the lines
that are not blank then, the first ones of equal lines are left, each ended by a newline. -/
theorem clean_eq_of_balanced_lines (t : Text) (h : ∀ l ∈ t.splitOn '\n', Balanced l) :
    ({} : Cleaner).clean t = unlines (((t.splitOn '\n').map fun l =>
      stripReturns (removeAllEmptyBlocks l)).filter fun l => !l.isBlank).eraseDups := by
  have hclean := Cleaner.NormalForm.of_clean {} t
  calc ({} : Cleaner).clean t
      = unlines (distinctLines ((({} : Cleaner).clean t).splitOn '\n')) :=
        hclean.unlines_distinctLines.symm
    _ = unlines (distinctLines (t.splitOn '\n')) :=
        Cleaner.clean_invariant (P := fun u => ∀ l ∈ u.splitOn '\n', Balanced l)
          (f := fun u => unlines (distinctLines (u.splitOn '\n'))) (fun _ => balanced_pass)
          (fun _ hu => congrArg unlines (distinctLines_pass hu)) h

theorem clean_eq_of_balanced_lines_nested_rules :
    (∀ l ∈ ".a \x7b .b \x7b\x7d \x7d\r\nx\r\r\nx\r\n.c\x7by\x7d .d\x7b\x7d\nx".toList.splitOn '\n',
      Balanced l) ∧
      ({} : Cleaner).clean
        ".a \x7b .b \x7b\x7d \x7d\r\nx\r\r\nx\r\n.c\x7by\x7d .d\x7b\x7d\nx".toList =
          "x\n.c\x7by\x7d \n".toList := by
  have hlines : ∀ l ∈
      ".a \x7b .b \x7b\x7d \x7d\r\nx\r\r\nx\r\n.c\x7by\x7d .d\x7b\x7d\nx".toList.splitOn '\n',
      Balanced l := by decide +kernel
  exact ⟨hlines, (clean_eq_of_balanced_lines _ hlines).trans (by decide +kernel)⟩

end

end DrawStyle
