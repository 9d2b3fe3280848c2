import DrawStyle.Proofs.Clean.EmptyRule
import DrawStyle.Proofs.Clean.Lines
import DrawStyle.Proofs.Clean.Passes

/-!
What cleaned texts look like.

What a pass takes out after a first pass makes the text shorter, so a pass that changes nothing
takes out nothing at any of its steps. A text is therefore left as it is exactly if it holds no
empty rule, no blank line, no carriage return before a newline and, where repeated lines are
dropped, no repeated line. Cleaning ends in such a text.
-/

namespace DrawStyle

/-- A text in which there is nothing to clean. -/
structure Cleaner.NormalForm (c : Cleaner) (t : Text) : Prop where
  /-- Each line is ended by a newline. -/
  terminated : Terminated t
  not_blank : ∀ l ∈ endedLines t, l.isBlank = false
  no_return : ∀ l ∈ endedLines t, l.getLast? ≠ some '\r'
  no_empty_rule : ∀ r : EmptyRule, r.Valid → ¬ r.spell <:+: t
  no_repeat : c.dedupeLines = true → (endedLines t).Nodup

section Lines

variable {ls : List Text}

/-- Lines are left as they are by taking out blank lines exactly if none is blank and none ends
in a carriage return. -/
lemma removeBlankLines_unlines_eq_self_iff (h : ∀ l ∈ ls, '\n' ∉ l) :
    removeBlankLines (unlines ls) = unlines ls ↔
      ∀ l ∈ ls, l.isBlank = false ∧ l.getLast? ≠ some '\r' := by
  have hleft : ∀ l ∈ (ls.map chomp).filter (fun l => !l.isBlank), '\n' ∉ l := by
    intro l hl
    obtain ⟨l', hl', rfl⟩ := List.mem_map.mp (List.mem_filter.mp hl).1
    exact newline_not_mem_chomp (h l' hl')
  rw [removeBlankLines_unlines h, unlines_inj hleft h]
  constructor
  · intro he
    -- no line is dropped, since as many are left
    have hlen := congrArg List.length he
    have hmapped : (ls.map chomp).length = ls.length := List.length_map _
    rw [← hmapped] at hlen
    have hkept := List.filter_eq_self.mp (List.filter_sublist.eq_of_length hlen)
    have hmap : ls.map chomp = ls := (List.filter_eq_self.mpr hkept).symm.trans he
    intro l hl
    have hchomp : chomp l = l := List.map_inj_left.mp (hmap.trans (List.map_id ls).symm) l hl
    have hblank := hkept (chomp l) (List.mem_map_of_mem hl)
    rw [hchomp, Bool.not_eq_true'] at hblank
    exact ⟨hblank, chomp_eq_self_iff.mp hchomp⟩
  · intro hls
    rw [map_chomp_eq_self fun l hl => (hls l hl).2,
      List.filter_eq_self.mpr fun l hl => by rw [(hls l hl).1, Bool.not_false]]

/-- Lines that are neither blank nor end in a carriage return are left as they are by taking
out repeated lines exactly if none is repeated. -/
lemma removeDuplicateLines_unlines_eq_self_iff (h : ∀ l ∈ ls, '\n' ∉ l)
    (hls : ∀ l ∈ ls, l.isBlank = false ∧ l.getLast? ≠ some '\r') :
    removeDuplicateLines (unlines ls) = unlines ls ↔ ls.Nodup := by
  have hleft : ∀ l ∈ ls.eraseDups, '\n' ∉ l := fun l hl => h l (List.mem_eraseDups.mp hl)
  rw [removeDuplicateLines_unlines h, map_chomp_eq_self fun l hl => (hls l hl).2,
    firstOccurrences_nil_eq_eraseDups fun l hl => (hls l hl).1, unlines_inj hleft h,
    eraseDups_eq_self_iff]

end Lines

namespace Cleaner

variable {c : Cleaner} {t : Text}

/-! ### One pass -/

/-- **A pass that changes nothing** is made of steps that change nothing: none of them adds to
a text that a newline ends, so each of them leaves a text as long as the one it is given. -/
theorem pass_eq_self_iff_steps :
    c.pass t = t ↔ Terminated t ∧ removeEmptyBlocks t = t ∧ removeBlankLines t = t ∧
      (c.dedupeLines = true → removeDuplicateLines t = t) := by
  constructor
  · intro h
    have hterm : Terminated t := h ▸ c.terminated_pass t
    have h₁ := removeEmptyBlocks_sublist t
    have h₂ : (removeBlankLines (removeEmptyBlocks t)).Sublist (removeEmptyBlocks t) :=
      (unlines_sublist_of_sublist_lines List.filter_sublist).2 (terminated_removeEmptyBlocks hterm)
    have h₃ : t.Sublist (removeBlankLines (removeEmptyBlocks t)) := by
      have hpass := c.pass_sublist_removeEmptyBlocks t
      rwa [h] at hpass
    have hrules : removeEmptyBlocks t = t := h₁.antisymm (h₃.trans h₂)
    rw [hrules] at h₂ h₃
    have hblank : removeBlankLines t = t := h₂.antisymm h₃
    refine ⟨hterm, hrules, hblank, fun hc => ?_⟩
    rwa [pass, hrules, hblank, if_pos hc] at h
  · rintro ⟨-, hrules, hblank, hdup⟩
    rw [pass, hrules, hblank]
    split
    · next hc => exact hdup hc
    · rfl

/-- **A pass leaves exactly the normal forms as they are.** -/
theorem pass_eq_self_iff : c.pass t = t ↔ c.NormalForm t := by
  rw [pass_eq_self_iff_steps, removeEmptyBlocks_eq_self_iff]
  constructor
  · rintro ⟨hterm, hrules, hblank, hdup⟩
    have hone : ∀ l ∈ endedLines t, '\n' ∉ l := fun l => newline_not_mem_endedLine
    rw [← hterm.unlines_endedLines] at hblank hdup
    have hls := (removeBlankLines_unlines_eq_self_iff hone).mp hblank
    exact
      { terminated := hterm
        not_blank := fun l hl => (hls l hl).1
        no_return := fun l hl => (hls l hl).2
        no_empty_rule := hrules
        no_repeat := fun hc => (removeDuplicateLines_unlines_eq_self_iff hone hls).mp (hdup hc) }
  · intro h
    have hone : ∀ l ∈ endedLines t, '\n' ∉ l := fun l => newline_not_mem_endedLine
    have hls : ∀ l ∈ endedLines t, l.isBlank = false ∧ l.getLast? ≠ some '\r' :=
      fun l hl => ⟨h.not_blank l hl, h.no_return l hl⟩
    refine ⟨h.terminated, h.no_empty_rule, ?_, fun hc => ?_⟩
    · rw [← h.terminated.unlines_endedLines]
      exact (removeBlankLines_unlines_eq_self_iff hone).mpr hls
    · rw [← h.terminated.unlines_endedLines]
      exact (removeDuplicateLines_unlines_eq_self_iff hone hls).mpr (h.no_repeat hc)

/-! ### All passes -/

lemma pass_clean (c : Cleaner) (t : Text) : c.pass (c.clean t) = c.clean t := by
  induction t using Cleaner.clean.induct c with
  | case1 t hfix => rw [clean, if_pos hfix, hfix]
  | case2 t hmore ih => rwa [clean, if_neg hmore]

lemma NormalForm.of_clean (c : Cleaner) (t : Text) : c.NormalForm (c.clean t) :=
  pass_eq_self_iff.mp (c.pass_clean t)

lemma NormalForm.filter_endedLines (h : c.NormalForm t) :
    (endedLines t).filter (fun l => !l.isBlank) = endedLines t :=
  List.filter_eq_self.mpr fun l hl => by rw [h.not_blank l hl, Bool.not_false]

lemma clean_of_pass_eq (h : c.pass t = t) : c.clean t = t := by rw [clean, if_pos h]

/-- What no pass changes of the texts of some kind is not changed by cleaning, if passes keep
texts of that kind. -/
theorem clean_invariant {β : Type} {P : Text → Prop} {f : Text → β}
    (hP : ∀ t, P t → P (c.pass t)) (hf : ∀ t, P t → f (c.pass t) = f t) (ht : P t) :
    f (c.clean t) = f t := by
  have hclean : P (c.clean t) ∧ f (c.clean t) = f t := by
    refine clean_induction (P := fun u => P u ∧ f u = f t) ?_ ⟨ht, rfl⟩
    rintro u ⟨hu, hsame⟩
    exact ⟨hP u hu, (hf u hu).trans hsame⟩
  exact hclean.2

end Cleaner

/-- **Cleaning gives normal forms**, and leaves as they are the normal forms and no other
texts. -/
theorem normalForm_clean (c : Cleaner) (t : Text) :
    c.NormalForm (c.clean t) ∧ (c.clean t = t ↔ c.NormalForm t) := by
  have hclean := Cleaner.NormalForm.of_clean c t
  refine ⟨hclean, fun h => ?_, fun h => ?_⟩
  · rwa [h] at hclean
  · exact Cleaner.clean_of_pass_eq (Cleaner.pass_eq_self_iff.mpr h)

end DrawStyle
