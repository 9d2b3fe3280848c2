import DrawStyle.Proofs.Clean.Balance
import DrawStyle.Proofs.Clean.Passes
import Mathlib.Logic.Relation

/-!
Braces that cancel.

In a word of braces, an opening brace and a closing one directly behind it cancel. In whatever
order pairs are cancelled, one word is left in the end. Taking out an empty rule cancels one pair
of the braces of a text, and blank lines hold none. So where repeated lines are kept, cleaning
leaves a text whose braces come to the same word, whether they were balanced or not.
-/

namespace DrawStyle

/-- The braces of a text, in order. -/
def braces (t : Text) : Text := t.filter isBrace

/-- The second word is the first one without an opening brace and the closing one directly behind
it. -/
inductive Cancels : Text → Text → Prop where
  | pair (a b : Text) : Cancels (a ++ '{' :: '}' :: b) (a ++ b)

/-- Cancelling pairs of braces leads from the first word to the second one, in which there is none
left to cancel. -/
structure ReducesTo (s w : Text) : Prop where
  reduces : Relation.ReflTransGen Cancels s w
  irreducible : ∀ w', ¬ Cancels w w'

section

variable {c : Char} {s s' t t' w w' : Text}

/-! ### One word is left -/

/-- A character in front of a word: it cancels with the first one, or stands in front of it. -/
def cancelFront (c : Char) (w : Text) : Text :=
  if c = '{' ∧ w.head? = some '}' then w.tail else c :: w

/-- What is left of a word when pairs of braces are cancelled from its end. -/
def reduced (s : Text) : Text := s.foldr cancelFront []

lemma reduced_cons (c : Char) (s : Text) : reduced (c :: s) = cancelFront c (reduced s) := rfl

lemma cancelFront_cases (c : Char) (w : Text) :
    (∃ w', c = '{' ∧ w = '}' :: w' ∧ cancelFront c w = w') ∨
      (¬ (c = '{' ∧ ∃ w', w = '}' :: w') ∧ cancelFront c w = c :: w) := by
  by_cases h : c = '{' ∧ w.head? = some '}'
  · obtain ⟨w', rfl⟩ := List.head?_eq_some_iff.mp h.2
    exact Or.inl ⟨w', h.1, rfl, by rw [cancelFront, if_pos h, List.tail_cons]⟩
  · refine Or.inr ⟨?_, by rw [cancelFront, if_neg h]⟩
    rintro ⟨hc, w', rfl⟩
    exact h ⟨hc, rfl⟩

namespace Cancels

lemma cons (c : Char) (h : Cancels s s') : Cancels (c :: s) (c :: s') := by
  obtain ⟨a, b⟩ := h
  exact pair (c :: a) b

/-- A pair is cancelled at the front of a word or behind its first character. -/
lemma cases_cons (h : Cancels (c :: s) w) :
    (c = '{' ∧ s = '}' :: w) ∨ ∃ w', w = c :: w' ∧ Cancels s w' := by
  generalize hs : c :: s = u at h
  obtain ⟨a, b⟩ := h
  rcases a with _ | ⟨d, a⟩
  · obtain ⟨rfl, rfl⟩ := List.cons.inj hs
    exact Or.inl ⟨rfl, rfl⟩
  · obtain ⟨rfl, rfl⟩ := List.cons.inj hs
    exact Or.inr ⟨a ++ b, rfl, pair a b⟩

lemma reduced_eq (h : Cancels s s') : reduced s = reduced s' := by
  obtain ⟨a, b⟩ := h
  have hclose : ∀ w, cancelFront '}' w = '}' :: w := fun w => if_neg (by simp)
  have hopen : ∀ w, cancelFront '{' ('}' :: w) = w := fun w => if_pos ⟨rfl, rfl⟩
  rw [reduced, reduced, List.foldr_append, List.foldr_append, List.foldr_cons, List.foldr_cons,
    hclose, hopen]

lemma sublist (h : Cancels s s') : s'.Sublist s := by
  obtain ⟨a, b⟩ := h
  have hpair : b.Sublist ('{' :: '}' :: b) :=
    (List.sublist_cons_self _ b).trans (List.sublist_cons_self _ _)
  exact hpair.append_left a

end Cancels

lemma sublist_of_reflTransGen (h : Relation.ReflTransGen Cancels s s') : s'.Sublist s := by
  induction h with
  | refl => exact List.Sublist.refl _
  | tail _ hstep ih => exact hstep.sublist.trans ih

lemma reduced_eq_of_reflTransGen (h : Relation.ReflTransGen Cancels s s') :
    reduced s = reduced s' := by
  induction h with
  | refl => rfl
  | tail _ hstep ih => exact ih.trans hstep.reduced_eq

/-- Where there is nothing to cancel, all of the word is left. -/
lemma reduced_of_irreducible (h : ∀ w', ¬ Cancels w w') : reduced w = w := by
  induction w with
  | nil => rfl
  | cons c w ih =>
    have hw : reduced w = w := ih fun w' hw' => h _ (hw'.cons c)
    rcases cancelFront_cases c w with ⟨w', rfl, rfl, -⟩ | ⟨-, hkeep⟩
    · exact absurd (Cancels.pair [] w') (h w')
    · rw [reduced_cons, hw, hkeep]

lemma reducesTo_reduced (s : Text) : ReducesTo s (reduced s) := by
  induction s with
  | nil =>
    refine ⟨.refl, fun w' h => ?_⟩
    generalize hs : reduced [] = u at h
    obtain ⟨a, b⟩ := h
    exact absurd hs.symm (by simp [reduced])
  | cons c s ih =>
    have hrest : Relation.ReflTransGen Cancels (c :: s) (c :: reduced s) :=
      ih.reduces.lift (c :: ·) fun _ _ => Cancels.cons c
    rw [reduced_cons]
    rcases cancelFront_cases c (reduced s) with ⟨w, rfl, hw, hcancel⟩ | ⟨hnone, hkeep⟩
    · rw [hw] at hrest ih
      rw [hw] at hcancel ⊢
      rw [hcancel]
      exact ⟨hrest.tail (Cancels.pair [] w), fun w' h => ih.irreducible _ (h.cons '}')⟩
    · rw [hkeep]
      refine ⟨hrest, fun w' h => ?_⟩
      rcases h.cases_cons with ⟨hc, hs⟩ | ⟨v, -, hv⟩
      · exact hnone ⟨hc, _, hs⟩
      · exact ih.irreducible v hv

/-- **In whatever order pairs are cancelled, one word is left.** -/
theorem reducesTo_iff : ReducesTo s w ↔ w = reduced s := by
  constructor
  · intro h
    rw [reduced_eq_of_reflTransGen h.reduces, reduced_of_irreducible h.irreducible]
  · rintro rfl
    exact reducesTo_reduced s

/-! ### Balanced braces -/

/-- What stands behind a part must not fall deeper than the part has risen. -/
lemma upright_append :
    Upright (s ++ t) ↔ Upright s ∧ ∀ u, u <+: t → 0 ≤ height s + height u := by
  constructor
  · refine fun h => ⟨fun u hu => h u (hu.trans (List.prefix_append s t)), fun u hu => ?_⟩
    rw [← height_append]
    exact h _ ((List.prefix_append_right_inj s).mpr hu)
  · rintro ⟨hs, ht⟩ u hu
    rcases List.prefix_or_prefix_of_prefix hu (List.prefix_append s t) with hus | ⟨v, rfl⟩
    · exact hs u hus
    · rw [height_append]
      exact ht v ((List.prefix_append_right_inj s).mp hu)

lemma height_pair (t : Text) : height ('{' :: '}' :: t) = height t := by
  have hlevel : height ['{', '}'] = 0 := rfl
  have e : '{' :: '}' :: t = ['{', '}'] ++ t := rfl
  rw [e, height_append, hlevel, Int.zero_add]

/-- Balanced braces stay balanced when a pair is cancelled, and others do not become so. -/
lemma Cancels.balanced_iff (h : Cancels s s') : Balanced s ↔ Balanced s' := by
  obtain ⟨a, b⟩ := h
  have hheight : height (a ++ '{' :: '}' :: b) = height (a ++ b) := by
    rw [height_append, height_append, height_pair]
  have hupright : Upright (a ++ '{' :: '}' :: b) ↔ Upright (a ++ b) := by
    rw [upright_append, upright_append]
    refine and_congr_right fun ha => ⟨fun hb u hu => ?_, fun hb u hu => ?_⟩
    · rw [← height_pair u]
      exact hb _ (List.cons_prefix_cons.mpr ⟨rfl, List.cons_prefix_cons.mpr ⟨rfl, hu⟩⟩)
    · have hrisen : 0 ≤ height a := ha a List.prefix_rfl
      have hopen : height ['{'] = 1 := rfl
      rcases u with _ | ⟨d, _ | ⟨e, u⟩⟩
      · rwa [height_nil, Int.add_zero]
      · obtain ⟨rfl, -⟩ := List.cons_prefix_cons.mp hu
        omega
      · obtain ⟨rfl, hbehind⟩ := List.cons_prefix_cons.mp hu
        obtain ⟨rfl, hrest⟩ := List.cons_prefix_cons.mp hbehind
        rw [height_pair]
        exact hb u hrest
  exact ⟨fun h => ⟨hupright.mp h.upright, hheight ▸ h.height_eq⟩,
    fun h => ⟨hupright.mpr h.upright, hheight.trans h.height_eq⟩⟩

lemma balanced_iff_of_reflTransGen (h : Relation.ReflTransGen Cancels s s') :
    Balanced s ↔ Balanced s' := by
  induction h with
  | refl => rfl
  | tail _ hstep ih => exact ih.trans hstep.balanced_iff

lemma balanced_braces : Balanced (braces t) ↔ Balanced t := by
  constructor
  · intro h
    exact ⟨upright_filter.mp h.upright, (height_filter t).symm.trans h.height_eq⟩
  · intro h
    exact ⟨upright_filter.mpr h.upright, (height_filter t).trans h.height_eq⟩

/-- Balanced braces of which no two cancel are none: the brace in front of the first closing one
would be an opening one. -/
lemma Balanced.eq_nil_of_irreducible (h : Balanced w) (hw : ∀ d ∈ w, isBrace d = true)
    (hirr : ∀ w', ¬ Cancels w w') : w = [] := by
  have hcases : ∀ d ∈ w, d = '{' ∨ d = '}' := by simpa [isBrace] using hw
  have hclose : '}' ∉ w := by
    intro hmem
    obtain ⟨a, b, rfl, ha⟩ := List.eq_append_cons_of_mem hmem
    rcases List.eq_nil_or_concat a with rfl | ⟨a, d, rfl⟩
    · have hfallen : height ['}'] = -1 := rfl
      have hupright := h.upright ['}'] ⟨b, rfl⟩
      omega
    · have hd : d = '{' := (hcases d (by simp)).resolve_right fun he => ha (by simp [he])
      rw [hd, List.concat_eq_append, List.append_assoc] at hirr
      exact hirr _ (Cancels.pair a b)
  have hopen : '{' ∉ w := by
    have hheight := h.height_eq
    rw [height, List.count_eq_zero.mpr hclose] at hheight
    exact List.count_eq_zero.mp (by omega)
  refine List.eq_nil_iff_forall_not_mem.mpr fun d hd => ?_
  rcases hcases d hd with rfl | rfl
  · exact hopen hd
  · exact hclose hd

/-- **Braces are balanced exactly if all of them cancel.** -/
theorem balanced_iff_reducesTo_nil : Balanced t ↔ ReducesTo (braces t) [] := by
  have hreduced := reducesTo_reduced (braces t)
  rw [reducesTo_iff, ← balanced_braces, balanced_iff_of_reflTransGen hreduced.reduces]
  constructor
  · intro h
    have hbrace : ∀ d ∈ reduced (braces t), isBrace d = true := fun d hd =>
      (List.mem_filter.mp ((sublist_of_reflTransGen hreduced.reduces).mem hd)).2
    exact (h.eq_nil_of_irreducible hbrace hreduced.irreducible).symm
  · intro h
    rw [← h]
    decide

/-! ### Cleaning -/

/-- Where pairs of braces are taken out of a text, they are cancelled. -/
lemma Pruned.reflTransGen_braces (h : Pruned (fun s => s.filter isBrace = ['{', '}']) t t') :
    Relation.ReflTransGen Cancels (braces t) (braces t') := by
  induction h with
  | nil => exact .refl
  | @keep c t t' _ ih =>
    rcases hc : isBrace c with _ | _
    · rw [braces, braces, List.filter_cons_of_neg (by simp [hc]),
        List.filter_cons_of_neg (by simp [hc])]
      exact ih
    · rw [braces, braces, List.filter_cons_of_pos hc, List.filter_cons_of_pos hc]
      exact ih.lift (c :: ·) fun _ _ => Cancels.cons c
  | drop s hs _ ih =>
    rw [braces, List.filter_append, hs]
    exact .head (Cancels.pair [] _) ih

namespace Cleaner

variable {c : Cleaner}

lemma reflTransGen_braces_pass (hc : c.dedupeLines = false) (t : Text) :
    Relation.ReflTransGen Cancels (braces t) (braces (c.pass t)) := by
  have hpass : c.pass t = removeBlankLines (removeEmptyBlocks t) := by
    rw [pass, if_neg (by simp [hc])]
  have hlines : braces (c.pass t) = braces (removeEmptyBlocks t) := by
    rw [hpass]
    exact filter_removeBlankLines isBrace_of_isBlank _
  rw [hlines]
  exact (pruned_removeEmptyBlocks_pair t).reflTransGen_braces

/-- **Where repeated lines are kept, cleaning cancels braces** and does nothing else to them. -/
theorem reflTransGen_braces_clean (hc : c.dedupeLines = false) (t : Text) :
    Relation.ReflTransGen Cancels (braces t) (braces (c.clean t)) :=
  clean_induction (P := fun u => Relation.ReflTransGen Cancels (braces t) (braces u))
    (fun u hu => hu.trans (reflTransGen_braces_pass hc u)) .refl

end Cleaner

/-- **Where repeated lines are kept, cleaning does not change the bracketing.** The braces of a
text come to one word when pairs are cancelled until none is left, in whatever order, and those of
the cleaned text come to the same word. So one is balanced exactly if the other is. -/
theorem bracketing_clean_keepDuplicates (c : Cleaner) (t : Text) :
    (∃! w, ReducesTo (braces t) w) ∧
      (∀ w, ReducesTo (braces (c.keepDuplicates.clean t)) w ↔ ReducesTo (braces t) w) ∧
      (Balanced (c.keepDuplicates.clean t) ↔ Balanced t) := by
  have hclean := Cleaner.reflTransGen_braces_clean (c := c.keepDuplicates) rfl t
  have hsame : ∀ w, ReducesTo (braces (c.keepDuplicates.clean t)) w ↔ ReducesTo (braces t) w := by
    intro w
    rw [reducesTo_iff, reducesTo_iff, reduced_eq_of_reflTransGen hclean]
  refine ⟨⟨_, reducesTo_reduced _, fun w => reducesTo_iff.mp⟩, hsame, ?_⟩
  rw [balanced_iff_reducesTo_nil, hsame, ← balanced_iff_reducesTo_nil]

end

end DrawStyle
