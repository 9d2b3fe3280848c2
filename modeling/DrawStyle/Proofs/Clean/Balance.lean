import DrawStyle.Proofs.Clean.EmptyRule
import DrawStyle.Proofs.Clean.Lines

/-!
Braces in cleaned text.

Empty rules open and close one brace, and blanks hold none, so taking them out leaves balanced
braces balanced. A repeated line is taken out whatever braces it holds: with it the text loses
what the line opens and closes.
-/

namespace DrawStyle

/-- The number of braces that a text opens, less the number that it closes. -/
def height (t : Text) : ℤ := (t.count '{' : ℤ) - t.count '}'

/-- No part from the start of the text closes more braces than it opens. -/
def Upright (t : Text) : Prop := ∀ s, s <+: t → 0 ≤ height s

/-- Braces are closed after they were opened, and all of them are closed. -/
structure Balanced (t : Text) : Prop where
  upright : Upright t
  height_eq : height t = 0

instance : DecidablePred Upright := fun t =>
  decidable_of_iff (∀ s ∈ t.inits, 0 ≤ height s) (by simp [Upright])

instance : DecidablePred Balanced := fun t =>
  decidable_of_iff (Upright t ∧ height t = 0) ⟨fun ⟨h₁, h₂⟩ => ⟨h₁, h₂⟩, fun h => ⟨h.1, h.2⟩⟩

section Height

@[simp] lemma height_nil : height [] = 0 := rfl

@[simp] lemma height_append (s t : Text) : height (s ++ t) = height s + height t := by
  simp only [height, List.count_append]
  omega

lemma height_cons (c : Char) (t : Text) : height (c :: t) = height [c] + height t :=
  height_append [c] t

/-- The characters that open or close. -/
def isBrace (c : Char) : Bool := c == '{' || c == '}'

lemma isBrace_of_isBlank (c : Char) (h : isBlank c = true) : isBrace c = false := by
  rcases hc : isBrace c with _ | _
  · rfl
  · rw [isBrace, Bool.or_eq_true, beq_iff_eq, beq_iff_eq] at hc
    rcases hc with rfl | rfl
    all_goals cases h

lemma height_filter (t : Text) : height (t.filter isBrace) = height t := by
  simp only [height, List.count_filter (show isBrace '{' = true from rfl),
    List.count_filter (show isBrace '}' = true from rfl)]

lemma height_eq_of_filter {s t : Text} (h : s.filter isBrace = t.filter isBrace) :
    height s = height t := by
  rw [← height_filter s, h, height_filter]

lemma upright_filter {t : Text} : Upright (t.filter isBrace) ↔ Upright t := by
  constructor
  · intro h s hs
    rw [← height_filter]
    exact h _ (hs.filter _)
  · intro h s hs
    obtain ⟨u, hu, rfl⟩ := List.prefix_filter_iff.mp hs
    rw [height_filter]
    exact h u hu

lemma upright_iff_of_filter {s t : Text} (h : s.filter isBrace = t.filter isBrace) :
    Upright s ↔ Upright t := by
  rw [← upright_filter, h, upright_filter]

lemma height_eq_zero {t : Text} (h : ∀ c ∈ t, isBrace c = false) : height t = 0 := by
  have hnil : t.filter isBrace = [] := List.filter_eq_nil_iff.mpr fun c hc => by simp [h c hc]
  rw [← height_filter, hnil, height_nil]

end Height

/-! ### Taking out stretches -/

/-- A text from which stretches with a property were taken out. -/
inductive Pruned (P : Text → Prop) : Text → Text → Prop where
  | nil : Pruned P [] []
  | keep (c : Char) {t t' : Text} : Pruned P t t' → Pruned P (c :: t) (c :: t')
  | drop (s : Text) {t t' : Text} : P s → Pruned P t t' → Pruned P (s ++ t) t'

namespace Pruned

variable {P : Text → Prop} {t t' : Text}

lemma mono {Q : Text → Prop} (h : Pruned P t t') (hPQ : ∀ s, P s → Q s) : Pruned Q t t' := by
  induction h with
  | nil => exact nil
  | keep c _ ih => exact keep c ih
  | drop s hs _ ih => exact drop s (hPQ s hs) ih

lemma keep_append (s : Text) (h : Pruned P t t') : Pruned P (s ++ t) (s ++ t') := by
  induction s with
  | nil => exact h
  | cons c s ih => exact keep c ih

/-- To each part from the start of what is left there is one of the whole that is not higher,
if the stretches that were taken out do not rise. -/
lemma exists_front (h : Pruned P t t') (hP : ∀ s, P s → height s ≤ 0) {s' : Text}
    (hs' : s' <+: t') : ∃ s, s <+: t ∧ height s ≤ height s' := by
  induction h generalizing s' with
  | nil => exact ⟨[], List.nil_prefix, by simp [List.prefix_nil.mp hs']⟩
  | keep c _ ih =>
    rcases s' with _ | ⟨d, s'⟩
    · exact ⟨[], List.nil_prefix, Int.le_refl _⟩
    · obtain ⟨rfl, hpre⟩ := List.cons_prefix_cons.mp hs'
      obtain ⟨s, hs, hle⟩ := ih hpre
      refine ⟨d :: s, List.cons_prefix_cons.mpr ⟨rfl, hs⟩, ?_⟩
      rw [height_cons d s, height_cons d s']
      omega
  | drop u hu _ ih =>
    obtain ⟨s, hs, hle⟩ := ih hs'
    refine ⟨u ++ s, (List.prefix_append_right_inj u).mpr hs, ?_⟩
    have hle' := hP u hu
    rw [height_append]
    omega

lemma upright (h : Pruned P t t') (hP : ∀ s, P s → height s ≤ 0) (ht : Upright t) :
    Upright t' := by
  intro s' hs'
  obtain ⟨s, hs, hle⟩ := h.exists_front hP hs'
  exact Int.le_trans (ht s hs) hle

lemma height_eq (h : Pruned P t t') (hP : ∀ s, P s → height s = 0) : height t' = height t := by
  induction h with
  | nil => rfl
  | keep c _ ih => rw [height_cons, ih, ← height_cons]
  | drop s hs _ ih => rw [height_append, hP s hs, ih, Int.zero_add]

end Pruned

/-! ### One pass -/

lemma EmptyRule.Valid.isBrace_of_mem_selector {r : EmptyRule} (h : r.Valid) {d : Char}
    (hd : d ∈ r.selector) : isBrace d = false := by
  have hd' := h.not_isBoundary d hd
  simp only [isBoundary, Bool.not_eq_true', Bool.or_eq_false_iff] at hd'
  simp [isBrace, hd']

lemma EmptyRule.Valid.height_selector {r : EmptyRule} (h : r.Valid) : height r.selector = 0 :=
  height_eq_zero fun _ => h.isBrace_of_mem_selector

lemma EmptyRule.Valid.filter_spell {r : EmptyRule} (h : r.Valid) :
    r.spell.filter isBrace = ['{', '}'] := by
  have hselector : r.selector.filter isBrace = [] :=
    List.filter_eq_nil_iff.mpr fun d hd => by simp [h.isBrace_of_mem_selector hd]
  have hgap : r.gap.filter isBrace = [] :=
    List.filter_eq_nil_iff.mpr fun d hd => by simp [isBrace_of_isBlank d (h.gap d hd)]
  rw [spell, List.append_assoc, List.filter_append, hselector, List.cons_append,
    List.filter_cons_of_pos rfl, List.filter_append, hgap]
  rfl

/-- Taking out empty rules takes out stretches that open one brace and close it. -/
lemma pruned_removeEmptyBlocks_pair (t : Text) :
    Pruned (fun s => s.filter isBrace = ['{', '}']) t (removeEmptyBlocks t) := by
  rw [removeEmptyBlocks_eq_erase]
  induction t using Pattern.scan_induction (p := EmptyRule.pattern) with
  | nil => rw [Pattern.erase_nil]; exact Pruned.nil
  | hit t r rest hr ih =>
    obtain ⟨hvalid, rfl⟩ := EmptyRule.read_eq_some_iff.mp hr
    rw [Pattern.erase_of_read hr]
    exact Pruned.drop r.spell hvalid.filter_spell ih
  | plain c t hr ih =>
    rw [Pattern.erase_cons hr]
    exact Pruned.keep c ih

lemma pruned_removeEmptyBlocks (t : Text) :
    Pruned (fun s => height s = 0) t (removeEmptyBlocks t) :=
  (pruned_removeEmptyBlocks_pair t).mono fun s hs => by rw [← height_filter, hs]; rfl

lemma pruned_firstOccurrences (seen ls : List Text) :
    Pruned (fun s => ∃ l ∈ repeatedLines seen ls, s = l ++ ['\n']) (unlines ls)
      (unlines (firstOccurrences seen ls)) := by
  have hmono : ∀ {ls ls' : List Text} {t t' : Text}, (∀ l ∈ ls, l ∈ ls') →
      Pruned (fun s => ∃ l ∈ ls, s = l ++ ['\n']) t t' →
      Pruned (fun s => ∃ l ∈ ls', s = l ++ ['\n']) t t' := by
    intro ls ls' t t' hsub h
    exact h.mono fun s ⟨l, hl, hs⟩ => ⟨l, hsub l hl, hs⟩
  induction ls generalizing seen with
  | nil => exact Pruned.nil
  | cons l ls ih =>
    have e : unlines (l :: ls) = (l ++ ['\n']) ++ unlines ls := by simp
    rw [e, repeatedLines, firstOccurrences]
    split
    · have h := (ih seen).keep_append (l ++ ['\n'])
      simpa using h
    · split
      · exact Pruned.drop _ ⟨l, List.mem_cons_self, rfl⟩
          (hmono (fun _ => List.mem_cons_of_mem l) (ih seen))
      · have h := (ih (l :: seen)).keep_append (l ++ ['\n'])
        simpa using h

lemma height_firstOccurrences (seen ls : List Text) :
    height (unlines (firstOccurrences seen ls)) + height (repeatedLines seen ls).flatten =
      height (unlines ls) := by
  have hline : ∀ (l : Text) (ls : List Text),
      height (unlines (l :: ls)) = height l + height (unlines ls) := by
    intro l ls
    have hnewline : height ['\n'] = 0 := rfl
    rw [unlines_cons, height_append, height_cons, hnewline, Int.zero_add]
  induction ls generalizing seen with
  | nil => rfl
  | cons l ls ih =>
    rw [hline, repeatedLines, firstOccurrences]
    split
    · rw [hline, Int.add_assoc, ih]
    · split
      · rw [List.flatten_cons, height_append, ← ih seen]
        omega
      · rw [hline, Int.add_assoc, ih]

namespace Cleaner

variable {c : Cleaner} {t : Text}

/-- **Heights add up**: what a pass takes out besides repeated lines is level. -/
lemma height_pass (c : Cleaner) (t : Text) :
    height (c.pass t) + height (c.passRepeats t).flatten = height t := by
  have hblank : height (removeBlankLines (removeEmptyBlocks t)) = height t := by
    rw [height_eq_of_filter (filter_removeBlankLines isBrace_of_isBlank _),
      (pruned_removeEmptyBlocks t).height_eq fun _ h => h]
  unfold pass passRepeats
  split
  · rw [removeDuplicateLines, height_firstOccurrences,
      height_eq_of_filter (filter_unlines_lines rfl rfl _), hblank]
  · rw [List.flatten_nil, height_nil, Int.add_zero, hblank]

/-- A pass keeps a text upright if none of the repeated lines that it takes out opens more than
it closes. -/
lemma upright_pass (hc : ∀ l ∈ c.passRepeats t, height l ≤ 0) (ht : Upright t) :
    Upright (c.pass t) := by
  have hblank : Upright (removeBlankLines (removeEmptyBlocks t)) := by
    rw [upright_iff_of_filter (filter_removeBlankLines isBrace_of_isBlank _)]
    exact (pruned_removeEmptyBlocks t).upright (fun s hs => Int.le_of_eq hs) ht
  unfold pass passRepeats at *
  split
  · next hd =>
    rw [if_pos hd] at hc
    refine (pruned_firstOccurrences [] _).upright ?_ ?_
    · rintro s ⟨l, hl, rfl⟩
      have hnewline : height ['\n'] = 0 := rfl
      have hle := hc l hl
      rw [height_append]
      omega
    · rwa [upright_iff_of_filter (filter_unlines_lines rfl rfl _)]
  · exact hblank

/-! ### All passes -/

lemma height_clean (c : Cleaner) (t : Text) :
    height (c.clean t) + height (c.repeats t).flatten = height t := by
  induction t using Cleaner.clean.induct c with
  | case1 t ht =>
    rw [clean, repeats, if_pos ht, if_pos ht, List.flatten_nil, height_nil, Int.add_zero]
  | case2 t ht ih =>
    have hpass := c.height_pass t
    rw [clean, repeats, if_neg ht, if_neg ht, List.flatten_append, height_append]
    omega

lemma upright_clean (hc : ∀ l ∈ c.repeats t, height l ≤ 0) (ht : Upright t) :
    Upright (c.clean t) := by
  induction t using Cleaner.clean.induct c with
  | case1 t hfix => rwa [clean, if_pos hfix]
  | case2 t hmore ih =>
    rw [repeats, if_neg hmore] at hc
    rw [clean, if_neg hmore]
    refine ih (fun l hl => hc l (List.mem_append_right _ hl)) ?_
    exact upright_pass (fun l hl => hc l (List.mem_append_left _ hl)) ht

end Cleaner

/-- Lines of which none opens more than it closes close more than they open together, unless
each of them closes what it opens. -/
lemma height_flatten_le {ls : List Text} (hle : ∀ l ∈ ls, height l ≤ 0) :
    height ls.flatten ≤ 0 ∧ (height ls.flatten = 0 ↔ ∀ l ∈ ls, height l = 0) := by
  induction ls with
  | nil => exact ⟨Int.le_refl 0, by simp⟩
  | cons l ls ih =>
    have hl : height l ≤ 0 := hle l List.mem_cons_self
    obtain ⟨hsum, hzero⟩ := ih fun l' hl' => hle l' (List.mem_cons_of_mem _ hl')
    rw [List.flatten_cons, height_append, List.forall_mem_cons, ← hzero]
    omega

/-- **Cleaning and braces.** Of a text with balanced braces, cleaning leaves a text that opens
and closes as many braces, but for those of the lines that are taken out as repeats. If none of
those opens more than it closes, the braces of the cleaned text are balanced exactly if each of
them closes what it opens; where repeated lines are kept, they are always balanced. -/
theorem balanced_clean (c : Cleaner) (t : Text) (h : Balanced t) :
    height (c.clean t) + height (c.repeats t).flatten = 0 ∧
      ((∀ l ∈ c.repeats t, height l ≤ 0) →
        (Balanced (c.clean t) ↔ ∀ l ∈ c.repeats t, height l = 0)) ∧
      (c.dedupeLines = false → Balanced (c.clean t)) := by
  have hsum : height (c.clean t) + height (c.repeats t).flatten = 0 := by
    rw [c.height_clean t, h.height_eq]
  have hiff : (∀ l ∈ c.repeats t, height l ≤ 0) →
      (Balanced (c.clean t) ↔ ∀ l ∈ c.repeats t, height l = 0) := by
    intro hle
    rw [← (height_flatten_le hle).2]
    constructor
    · intro hclean
      have hzero := hclean.height_eq
      omega
    · intro hzero
      exact ⟨Cleaner.upright_clean hle h.upright, by omega⟩
  refine ⟨hsum, hiff, fun hc => ?_⟩
  have hnone := Cleaner.repeats_of_dedupeLines_eq_false hc t
  exact (hiff (by simp [hnone])).mpr (by simp [hnone])

theorem balanced_clean_repeated_rule :
    Balanced (({} : Cleaner).clean ".a \x7b x \x7d\n.b \x7by\n\x7d\n.a \x7b x \x7d\n".toList) ∧
      Balanced ((({} : Cleaner).keepDuplicates).clean
        ".a \x7b\nx\n\x7d\n.b \x7b\ny\n\x7d\n".toList) := by
  have hrule := balanced_clean {} ".a \x7b x \x7d\n.b \x7by\n\x7d\n.a \x7b x \x7d\n".toList
    (by decide +kernel)
  have hline := balanced_clean ({} : Cleaner).keepDuplicates
    ".a \x7b\nx\n\x7d\n.b \x7b\ny\n\x7d\n".toList (by decide +kernel)
  refine ⟨?_, hline.2.2 rfl⟩
  exact (hrule.2.1 (by decide +kernel)).mpr (by decide +kernel)

/-- Where each rule is closed on a line of its own, only the first closing brace is left. -/
theorem not_balanced_clean_default :
    Balanced ".a \x7b\n  x: 1;\n\x7d\n.b \x7b\n  y: 2;\n\x7d\n".toList ∧
      ¬ Balanced (({} : Cleaner).clean
        ".a \x7b\n  x: 1;\n\x7d\n.b \x7b\n  y: 2;\n\x7d\n".toList) := by
  decide +kernel

end DrawStyle
