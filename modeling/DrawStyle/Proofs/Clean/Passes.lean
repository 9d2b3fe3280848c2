import DrawStyle.Clean
import Mathlib.Logic.Function.Iterate

/-!
How many passes cleaning takes, and what they leave.

The first pass may make a text longer, since it ends the last line by a newline. From then on
the text is terminated, and a pass that changes a terminated text makes it shorter. So no more
passes change a text than its rank says, and what they leave is a part of the text and of the
newline that the first pass may have added.
-/

namespace DrawStyle

namespace Cleaner

variable {c : Cleaner} {t : Text}

/-- **What each pass keeps, cleaning keeps.** -/
theorem clean_induction {P : Text → Prop} (hP : ∀ t, P t → P (c.pass t)) (ht : P t) :
    P (c.clean t) := by
  induction t using clean.induct c with
  | case1 t hfix => rwa [clean, if_pos hfix]
  | case2 t hmore ih =>
    rw [clean, if_neg hmore]
    exact ih (hP t ht)

lemma rank_le (t : Text) : rank t ≤ t.length + 2 := by
  unfold rank
  split
  · omega
  · exact Nat.le_refl _

/-- Cleaning makes passes as long as they change something, and each change lowers the rank. -/
lemma exists_clean_eq_iterate (c : Cleaner) (t : Text) :
    ∃ n ≤ rank t, c.clean t = c.pass^[n] t ∧ c.pass (c.pass^[n] t) = c.pass^[n] t ∧
      ∀ k < n, c.pass (c.pass^[k] t) ≠ c.pass^[k] t := by
  induction t using clean.induct c with
  | case1 t hfix =>
    refine ⟨0, Nat.zero_le _, ?_, hfix, fun k hk => absurd hk (Nat.not_lt_zero k)⟩
    rw [clean, if_pos hfix, Function.iterate_zero_apply]
  | case2 t hmore ih =>
    obtain ⟨n, hn, hclean, hend, hchange⟩ := ih
    have hrank := c.rank_pass_lt hmore
    refine ⟨n + 1, by omega, ?_, ?_, ?_⟩
    · rw [clean, if_neg hmore, hclean, Function.iterate_succ_apply]
    · rwa [Function.iterate_succ_apply]
    · rintro (_ | k) hk
      · exact hmore
      · rw [Function.iterate_succ_apply]
        exact hchange k (by omega)

lemma clean_sublist_of_terminated (c : Cleaner) (h : Terminated t) : (c.clean t).Sublist t := by
  have hclean : Terminated (c.clean t) ∧ (c.clean t).Sublist t := by
    refine clean_induction (P := fun u => Terminated u ∧ u.Sublist t) ?_ ⟨h, List.Sublist.refl t⟩
    rintro u ⟨hu, hsub⟩
    exact ⟨c.terminated_pass u, (c.pass_sublist_of_terminated hu).trans hsub⟩
  exact hclean.2

lemma clean_sublist (c : Cleaner) (t : Text) : (c.clean t).Sublist (t ++ ['\n']) := by
  by_cases hfix : c.pass t = t
  · rw [clean, if_pos hfix]
    exact List.sublist_append_left t ['\n']
  · rw [clean, if_neg hfix]
    exact (c.clean_sublist_of_terminated (c.terminated_pass t)).trans (c.pass_sublist t)

end Cleaner

/-- **Cleaning ends, and it only deletes.** Some number of passes change the text, each of them;
the pass behind them changes nothing and is the last one. With it there are at most three passes
more than the text has characters. What is left is a subsequence of the text with a newline
behind it. -/
theorem clean_eq_iterate_pass (c : Cleaner) (t : Text) :
    (∃ n, n + 1 ≤ t.length + 3 ∧ c.clean t = c.pass^[n] t ∧
      c.pass (c.pass^[n] t) = c.pass^[n] t ∧
        ∀ k < n, c.pass (c.pass^[k] t) ≠ c.pass^[k] t) ∧
      (c.clean t).Sublist (t ++ ['\n']) := by
  obtain ⟨n, hn, hclean, hend, hchange⟩ := c.exists_clean_eq_iterate t
  have hrank := Cleaner.rank_le t
  exact ⟨⟨n, by omega, hclean, hend, hchange⟩, c.clean_sublist t⟩

/-- A first pass may make a text longer. -/
example : (({} : Cleaner).keepDuplicates.pass^[1] "x\r".toList,
    ({} : Cleaner).keepDuplicates.pass^[2] "x\r".toList) = ("x\r\n".toList, "x\n".toList) := by
  decide +kernel

end DrawStyle
