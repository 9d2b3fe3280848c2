import DrawStyle.Proofs.Text.Runs

/-!
Texts from which blanks are taken out.

A text without its blanks is squeezed. A text is thinned to another one if only blanks are
missing there, so the two squeeze to the same text.
-/

namespace DrawStyle

/-- A text without its blanks. -/
def squeeze (t : Text) : Text := t.filter fun c => !isBlank c

lemma squeeze_append (s t : Text) : squeeze (s ++ t) = squeeze s ++ squeeze t :=
  List.filter_append _ _

lemma squeeze_cons_of_blank {c : Char} (hc : isBlank c = true) (t : Text) :
    squeeze (c :: t) = squeeze t := List.filter_cons_of_neg (by simp [hc])

lemma squeeze_cons_of_not_blank {c : Char} (hc : isBlank c = false) (t : Text) :
    squeeze (c :: t) = c :: squeeze t := List.filter_cons_of_pos (by simp [hc])

lemma squeeze_eq_nil_iff {t : Text} : squeeze t = [] ↔ t.isBlank = true := by
  rw [squeeze, List.filter_eq_nil_iff, Text.isBlank_iff]
  simp

/-- The second text is the first one with some blanks taken out. -/
inductive Thinned : Text → Text → Prop where
  | nil : Thinned [] []
  | keep (c : Char) {t t' : Text} : Thinned t t' → Thinned (c :: t) (c :: t')
  | drop (c : Char) {t t' : Text} : isBlank c = true → Thinned t t' → Thinned (c :: t) t'

namespace Thinned

variable {s t t' u : Text} {c : Char}

lemma sublist (h : Thinned t t') : t'.Sublist t := by
  induction h with
  | nil => exact List.Sublist.slnil
  | keep c _ ih => exact ih.cons_cons c
  | drop c _ _ ih => exact ih.cons c

lemma squeeze_eq (h : Thinned t t') : squeeze t' = squeeze t := by
  induction h with
  | nil => rfl
  | keep c _ ih =>
    rcases hc : isBlank c with _ | _
    · rw [squeeze_cons_of_not_blank hc, squeeze_cons_of_not_blank hc, ih]
    · rw [squeeze_cons_of_blank hc, squeeze_cons_of_blank hc, ih]
  | drop c hc _ ih => rw [ih, squeeze_cons_of_blank hc]

/-- A subsequence that squeezes to the same text lacks only blanks. -/
lemma of_sublist (h : t'.Sublist t) (hs : squeeze t' = squeeze t) : Thinned t t' := by
  induction h with
  | slnil => exact nil
  | @cons t' t c h ih =>
    rcases hc : isBlank c with _ | _
    · have hlen := (h.filter fun c => !isBlank c).length_le
      rw [squeeze_cons_of_not_blank hc] at hs
      have hlen' := congrArg List.length hs
      rw [List.length_cons, squeeze, squeeze] at hlen'
      omega
    · rw [squeeze_cons_of_blank hc] at hs
      exact drop c hc (ih hs)
  | @cons_cons t' t c h ih =>
    rcases hc : isBlank c with _ | _
    · rw [squeeze_cons_of_not_blank hc, squeeze_cons_of_not_blank hc] at hs
      exact keep c (ih (List.cons.inj hs).2)
    · rw [squeeze_cons_of_blank hc, squeeze_cons_of_blank hc] at hs
      exact keep c (ih hs)

lemma append_split (h : Thinned (s ++ t) u) :
    ∃ s' t', u = s' ++ t' ∧ Thinned s s' ∧ Thinned t t' := by
  induction s generalizing u with
  | nil => exact ⟨[], u, rfl, nil, h⟩
  | cons c s ih =>
    cases h with
    | keep _ h =>
      obtain ⟨s', t', rfl, hs, ht⟩ := ih h
      exact ⟨c :: s', t', rfl, keep c hs, ht⟩
    | drop _ hc h =>
      obtain ⟨s', t', rfl, hs, ht⟩ := ih h
      exact ⟨s', t', rfl, drop c hc hs, ht⟩

lemma cons_split (hc : isBlank c = false) (h : Thinned (c :: t) u) :
    ∃ t', u = c :: t' ∧ Thinned t t' := by
  cases h with
  | keep _ h => exact ⟨_, rfl, h⟩
  | drop _ hblank _ => rw [hc] at hblank; cases hblank

lemma eq_of_no_blank (hs : ∀ c ∈ s, isBlank c = false) (h : Thinned s u) : u = s := by
  induction h with
  | nil => rfl
  | keep c _ ih => rw [ih fun d hd => hs d (List.mem_cons_of_mem _ hd)]
  | drop c hc _ _ =>
    rw [hs c List.mem_cons_self] at hc
    cases hc

end Thinned

end DrawStyle
