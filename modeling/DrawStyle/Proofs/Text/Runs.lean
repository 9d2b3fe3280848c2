import DrawStyle.Rule
import Mathlib.Data.List.DropRight
import Mathlib.Data.List.TakeWhile

/-!
Runs of characters.

A reader takes the longest run of characters of one kind, so it stops where the first
character of another kind stands. Blanks, class names and the marks of a rule have no
characters in common.
-/

namespace DrawStyle

section Runs

variable {p : Char → Bool} {run rest : Text} {c : Char}

lemma takeWhile_run (h : ∀ d ∈ run, p d) (hc : p c = false) :
    (run ++ c :: rest).takeWhile p = run := by
  rw [List.takeWhile_append_of_pos h, List.takeWhile_cons_of_neg (by simp [hc]), List.append_nil]

lemma dropWhile_run (h : ∀ d ∈ run, p d) (hc : p c = false) :
    (run ++ c :: rest).dropWhile p = c :: rest := by
  rw [List.dropWhile_append_of_pos h, List.dropWhile_cons_of_neg (by simp [hc])]

/-- A run at the end of a text is taken and dropped from there. -/
lemma rtakeWhile_append_run (h : ∀ d ∈ run, p d) (t : Text) :
    (t ++ run).rtakeWhile p = t.rtakeWhile p ++ run := by
  have hrun : ∀ d ∈ run.reverse, p d := fun d hd => h d (List.mem_reverse.mp hd)
  rw [List.rtakeWhile, List.reverse_append, List.takeWhile_append_of_pos hrun, List.reverse_append,
    List.reverse_reverse, List.rtakeWhile]

lemma rdropWhile_append_run (h : ∀ d ∈ run, p d) (t : Text) :
    (t ++ run).rdropWhile p = t.rdropWhile p := by
  have hrun : ∀ d ∈ run.reverse, p d := fun d hd => h d (List.mem_reverse.mp hd)
  rw [List.rdropWhile, List.reverse_append, List.dropWhile_append_of_pos hrun, List.rdropWhile]

lemma not_mem_run (h : ∀ d ∈ run, p d) (hc : p c = false) : c ∉ run := by
  intro hmem
  rw [h c hmem] at hc
  cases hc

/-- A text is cut in one way before the first of some character. -/
lemma eq_of_append_cons_eq {s t s' t' : Text} (hs : c ∉ s) (hs' : c ∉ s')
    (h : s ++ c :: t = s' ++ c :: t') : s = s' ∧ t = t' := by
  have hrun : ∀ u : Text, c ∉ u → ∀ d ∈ u, (d != c) = true := by
    intro u hu d hd
    rw [bne_iff_ne]
    rintro rfl
    exact hu hd
  have htake := congrArg (List.takeWhile (· != c)) h
  have hdrop := congrArg (List.dropWhile (· != c)) h
  rw [takeWhile_run (hrun s hs) (by simp), takeWhile_run (hrun s' hs') (by simp)] at htake
  rw [dropWhile_run (hrun s hs) (by simp), dropWhile_run (hrun s' hs') (by simp)] at hdrop
  exact ⟨htake, by simpa using hdrop⟩

/-- Of two characters at which a text is cut, one stands before the other. -/
lemma mem_or_mem_of_append_cons_eq {s t s' t' : Text} {d : Char} (hne : c ≠ d)
    (h : s ++ c :: t = s' ++ d :: t') : c ∈ s' ∨ d ∈ s := by
  rcases List.append_eq_append_iff.mp h with ⟨w, rfl, hw⟩ | ⟨w, rfl, hw⟩
  · rcases w with _ | ⟨e, w⟩
    · exact absurd (by simpa using congrArg List.head? hw) hne
    · obtain ⟨rfl, -⟩ : c = e ∧ t = w ++ d :: t' := by simpa using hw
      exact Or.inl (by simp)
  · rcases w with _ | ⟨e, w⟩
    · exact absurd (by simpa using (congrArg List.head? hw).symm) hne
    · obtain ⟨rfl, -⟩ : d = e ∧ t' = w ++ c :: t := by simpa using hw
      exact Or.inr (by simp)

end Runs

lemma Text.isBlank_iff {t : Text} : t.isBlank = true ↔ ∀ c ∈ t, DrawStyle.isBlank c = true :=
  List.all_eq_true

@[simp] lemma Text.isBlank_cons {c : Char} {t : Text} :
    Text.isBlank (c :: t) = (DrawStyle.isBlank c && t.isBlank) := rfl

lemma toNat_of_inSelector {c : Char} (h : Rule.inSelector c = true) :
    0x2D ≤ c.toNat ∧ c.toNat ≤ 0x7A := by
  simp only [Rule.inSelector, isAlphanumeric, Bool.or_eq_true, Bool.and_eq_true, beq_iff_eq,
    decide_eq_true_eq, Char.le_def, UInt32.le_iff_toNat_le] at h
  rcases h with (((⟨h, h'⟩ | ⟨h, h'⟩) | ⟨h, h'⟩) | rfl) | rfl
  · exact ⟨le_trans (by decide) h, le_trans h' (by decide)⟩
  · exact ⟨le_trans (by decide) h, le_trans h' (by decide)⟩
  · exact ⟨le_trans (by decide) h, le_trans h' (by decide)⟩
  · decide
  · decide

lemma isBlank_of_inSelector {c : Char} (h : Rule.inSelector c = true) : isBlank c = false := by
  obtain ⟨h₁, h₂⟩ := toNat_of_inSelector h
  simp only [isBlank, Bool.or_eq_false_iff, Bool.and_eq_false_iff, decide_eq_false_iff_not,
    beq_eq_false_iff_ne]
  omega

lemma inSelector_of_isBlank {c : Char} (h : isBlank c = true) : Rule.inSelector c = false := by
  by_contra hc
  rw [isBlank_of_inSelector (by simpa using hc)] at h
  cases h

end DrawStyle
