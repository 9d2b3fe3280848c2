import DrawStyle.Clean
import DrawStyle.Proofs.Pattern.Seam
import DrawStyle.Proofs.Text.Runs

/-!
The shape of the empty rules that are read.

An empty rule is read exactly where a well-formed empty rule stands, whatever follows it. None
is read in front of a character that ends a rule, a line or a comment, unless that character is
an opening brace.
-/

namespace DrawStyle

namespace EmptyRule

/-- The selector starts like one and goes on like one, and only blanks stand between the
braces. -/
structure Valid (r : EmptyRule) : Prop where
  selector : ∃ c u, r.selector = c :: u ∧ startsSelector c = true ∧ ∀ d ∈ u, inSelector d = true
  gap : ∀ c ∈ r.gap, isBlank c = true

variable {r : EmptyRule} {t rest : Text}

lemma valid_of_read (h : read t = some (r, rest)) : r.Valid := by
  unfold read at h
  split at h
  · cases h
  · next c t =>
    split at h
    · next hc =>
      simp only [Option.map_eq_some_iff, Prod.mk.injEq] at h
      obtain ⟨⟨gap, rest'⟩, hb, rfl, rfl⟩ := h
      refine ⟨⟨c, _, rfl, hc, fun d hd => List.mem_takeWhile_imp hd⟩, fun d hd => ?_⟩
      unfold readBraces at hb
      split at hb
      · split at hb
        · cases hb
          exact List.mem_takeWhile_imp hd
        · cases hb
      · cases hb
    · cases h

lemma readBraces_append {gap : Text} (h : ∀ c ∈ gap, isBlank c = true) (rest : Text) :
    readBraces ('{' :: (gap ++ '}' :: rest)) = some (gap, rest) := by
  have hclose : isBlank '}' = false := rfl
  simp only [readBraces, dropWhile_run h hclose, takeWhile_run h hclose]

lemma Valid.read_spell_append (h : r.Valid) (rest : Text) :
    read (r.spell ++ rest) = some (r, rest) := by
  have hbrace : inSelector '{' = false := rfl
  obtain ⟨c, u, hsel, hc, hu⟩ := h.selector
  have e : r.spell ++ rest = c :: (u ++ '{' :: (r.gap ++ '}' :: rest)) := by simp [spell, hsel]
  simp only [e, read, hc, if_true, dropWhile_run hu hbrace, takeWhile_run hu hbrace,
    readBraces_append h.gap, Option.map_some, ← hsel]

/-- **An empty rule is read where a well-formed empty rule stands**, and nowhere else. -/
theorem read_eq_some_iff : read t = some (r, rest) ↔ r.Valid ∧ t = r.spell ++ rest := by
  constructor
  · intro h
    exact ⟨valid_of_read h, eq_of_read h⟩
  · rintro ⟨hr, rfl⟩
    exact hr.read_spell_append rest

@[simp] lemma spell_pattern (r : EmptyRule) : pattern.spell r = r.spell := rfl

lemma exact_pattern : pattern.Exact :=
  fun h u => (valid_of_read h).read_spell_append u

/-! ### Characters of selectors -/

/-- A boundary is neither a blank nor a character of class names. -/
lemma isBoundary_eq_false {c : Char} (h : Rule.inSelector c = true ∨ isBlank c = true) :
    isBoundary c = false := by
  rcases hc : isBoundary c with _ | _
  · rfl
  · simp only [isBoundary, Bool.or_eq_true, beq_iff_eq] at hc
    rcases hc with ((rfl | rfl) | rfl) | rfl
    all_goals exact absurd h (by decide)

lemma inSelector_of_startsSelector {c : Char} (h : startsSelector c = true) :
    inSelector c = true := by
  rw [startsSelector, Bool.and_eq_true, Bool.not_eq_true'] at h
  have hline : c ≠ '\n' := by
    rintro rfl
    exact absurd h.1 (by decide)
  simp [inSelector, h.2, hline]

lemma Valid.inSelector_of_mem (h : r.Valid) : ∀ d ∈ r.selector, inSelector d = true := by
  intro d hd
  obtain ⟨c, u, hsel, hc, hu⟩ := h.selector
  rw [hsel] at hd
  rcases List.mem_cons.mp hd with rfl | hd
  · exact inSelector_of_startsSelector hc
  · exact hu d hd

lemma Valid.not_isBoundary (h : r.Valid) : ∀ d ∈ r.selector, (!isBoundary d) = true := by
  intro d hd
  have hd' := h.inSelector_of_mem d hd
  rw [inSelector, Bool.and_eq_true] at hd'
  exact hd'.1

lemma Valid.newline_not_mem_selector (h : r.Valid) : '\n' ∉ r.selector :=
  not_mem_run h.inSelector_of_mem rfl

/-! ### Where empty rules start -/

/-- **An empty rule starts as early as it can**: the selector takes in what may stand in front of
it. -/
lemma read_cons_of_starts {c : Char} (hc : startsSelector c = true)
    (h : read t = some (r, rest)) : read (c :: t) = some (⟨c :: r.selector, r.gap⟩, rest) := by
  obtain ⟨hr, rfl⟩ := read_eq_some_iff.mp h
  exact Valid.read_spell_append (r := ⟨c :: r.selector, r.gap⟩)
    ⟨⟨c, r.selector, rfl, hc, hr.inSelector_of_mem⟩, hr.gap⟩ rest

/-- An empty rule starts with a character that may start a selector. -/
lemma read_cons_of_not_starts {c : Char} (hc : startsSelector c = false) (t : Text) :
    read (c :: t) = none := by
  rw [read, if_neg (by simp [hc])]

/-- No empty rule starts before a character that ends a rule or a comment, if no brace stands
in between. -/
lemma quiet_of_boundary {s : Text} {c : Char} (hs : '{' ∉ s) (hc : isBoundary c = true)
    (hne : c ≠ '{') (t : Text) : pattern.Quiet s (c :: t) := by
  intro v _ hsuffix
  rcases hread : pattern.read (v ++ c :: t) with _ | ⟨r, rest⟩
  · rfl
  · obtain ⟨hr, hv⟩ := read_eq_some_iff.mp hread
    have e : v ++ c :: t = r.selector ++ '{' :: (r.gap ++ '}' :: rest) := by
      rw [hv]; simp [spell]
    rcases mem_or_mem_of_append_cons_eq hne e with hmem | hmem
    · exact absurd hmem (not_mem_run hr.not_isBoundary (by rw [hc]; rfl))
    · exact absurd (hsuffix.mem hmem) hs

/-- No empty rule starts before the braces of a rule that is not empty. -/
lemma quiet_of_body {s body : Text} (hs : '{' ∉ s) (hclose : '}' ∉ body)
    (hbody : body.isBlank = false) (t : Text) : pattern.Quiet s ('{' :: (body ++ '}' :: t)) := by
  intro v _ hsuffix
  rcases hread : pattern.read (v ++ '{' :: (body ++ '}' :: t)) with _ | ⟨r, rest⟩
  · rfl
  · obtain ⟨hr, hv⟩ := read_eq_some_iff.mp hread
    have e : v ++ '{' :: (body ++ '}' :: t) = r.selector ++ '{' :: (r.gap ++ '}' :: rest) := by
      rw [hv]; simp [spell]
    have hselector : '{' ∉ r.selector := not_mem_run hr.not_isBoundary rfl
    have hgap : '}' ∉ r.gap := not_mem_run hr.gap rfl
    -- both texts are cut at their first braces
    obtain ⟨-, e⟩ := eq_of_append_cons_eq (fun hmem => hs (hsuffix.mem hmem)) hselector e
    obtain ⟨rfl, -⟩ := eq_of_append_cons_eq hclose hgap e
    rw [Text.isBlank_iff.mpr hr.gap] at hbody
    cases hbody

end EmptyRule

/-! ### Taking out empty rules -/

section

variable {s t : Text}

@[simp] lemma removeEmptyBlocks_nil : removeEmptyBlocks [] = [] := by
  rw [removeEmptyBlocks_eq_erase, Pattern.erase_nil]

lemma removeEmptyBlocks_of_read {r : EmptyRule} {rest : Text}
    (h : EmptyRule.pattern.read t = some (r, rest)) :
    removeEmptyBlocks t = removeEmptyBlocks rest := by
  rw [removeEmptyBlocks_eq_erase, removeEmptyBlocks_eq_erase, Pattern.erase_of_read h]

lemma removeEmptyBlocks_cons_of_read {c : Char} (h : EmptyRule.pattern.read (c :: t) = none) :
    removeEmptyBlocks (c :: t) = c :: removeEmptyBlocks t := by
  rw [removeEmptyBlocks_eq_erase, removeEmptyBlocks_eq_erase, Pattern.erase_cons h]

lemma removeEmptyBlocks_spell_append {r : EmptyRule} (h : r.Valid) (t : Text) :
    removeEmptyBlocks (r.spell ++ t) = removeEmptyBlocks t :=
  removeEmptyBlocks_of_read (h.read_spell_append t)

lemma removeEmptyBlocks_cons {c : Char} (hc : EmptyRule.startsSelector c = false) (t : Text) :
    removeEmptyBlocks (c :: t) = c :: removeEmptyBlocks t :=
  removeEmptyBlocks_cons_of_read (EmptyRule.read_cons_of_not_starts hc t)

lemma removeEmptyBlocks_append (h : EmptyRule.pattern.Quiet s t) :
    removeEmptyBlocks (s ++ t) = s ++ removeEmptyBlocks t := by
  rw [removeEmptyBlocks_eq_erase, removeEmptyBlocks_eq_erase, Pattern.erase_append_of_quiet h]

/-- Where no empty rule goes over a seam, both sides are cleared by themselves. -/
lemma removeEmptyBlocks_append_of_apart (h : EmptyRule.pattern.Apart s t) :
    removeEmptyBlocks (s ++ t) = removeEmptyBlocks s ++ removeEmptyBlocks t := by
  simp only [removeEmptyBlocks_eq_erase]
  exact Pattern.replace_append EmptyRule.exact_pattern h _

/-- A text is left as it is exactly if no part of it is an empty rule. -/
theorem removeEmptyBlocks_eq_self_iff :
    removeEmptyBlocks t = t ↔ ∀ r : EmptyRule, r.Valid → ¬ r.spell <:+: t := by
  rw [removeEmptyBlocks_eq_erase, Pattern.erase_eq_self_iff, Pattern.hits_eq_nil_iff]
  constructor
  · rintro h r hr ⟨a, b, hab⟩
    have hnone : EmptyRule.read (r.spell ++ b) = none :=
      h _ ⟨a, by rw [← List.append_assoc, hab]⟩
    rw [hr.read_spell_append b] at hnone
    cases hnone
  · intro h v hv
    rcases hread : EmptyRule.pattern.read v with _ | ⟨r, rest⟩
    · rfl
    · obtain ⟨hr, rfl⟩ := EmptyRule.read_eq_some_iff.mp hread
      exact absurd ((List.prefix_append _ _).isInfix.trans hv.isInfix) (h r hr)

end

end DrawStyle
