import DrawStyle.Proofs.Pattern.Sections

/-!
What is brought together where occurrences are cut out.

Erasing leaves the gaps, one directly behind the other. What stands in the text that is left
stood in the text before, unless it begins in front of a cut and ends behind it.
-/

namespace DrawStyle

namespace Pattern

variable {α : Type} {p : Pattern α} {t s : Text}

/-- What is left when all occurrences are cut out are the gaps. -/
lemma erase_eq_flatten_gaps (t : Text) : p.erase t = (p.sections t).gaps.flatten := by
  induction t using scan_induction (p := p) with
  | nil => simp [sections, Sections.ofPieces, Sections.gaps]
  | hit t a rest h ih =>
    rw [erase_of_read h, ih, sections_of_read h]
    simp [Sections.gaps]
  | plain c t h ih =>
    rw [erase_cons h, ih, sections_cons h]
    rcases p.sections t with ⟨_ | ⟨⟨gap, a⟩, parts⟩, tail⟩ <;> simp [Sections.gaps]

/-- Behind the first gap stands the first occurrence, and what follows it has the other
sections. -/
lemma exists_of_sections_eq {gap tail : Text} {a : α} {parts : List (Text × α)}
    (h : p.sections t = ⟨(gap, a) :: parts, tail⟩) :
    ∃ rest, t = gap ++ (p.spell a ++ rest) ∧ p.sections rest = ⟨parts, tail⟩ := by
  induction t using scan_induction (p := p) generalizing gap with
  | nil => simp [sections, Sections.ofPieces] at h
  | hit t b rest hr _ =>
    rw [sections_of_read hr] at h
    cases h
    exact ⟨rest, p.eq_of_read hr, rfl⟩
  | plain c t hr ih =>
    rw [sections_cons hr] at h
    rcases ht : p.sections t with ⟨_ | ⟨⟨gap', b⟩, parts'⟩, tail'⟩
    · rw [ht] at h
      cases h
    · rw [ht] at h
      cases h
      obtain ⟨rest, hrest, hsections⟩ := ih ht
      exact ⟨rest, by rw [hrest, List.cons_append], hsections⟩

/-- An occurrence is cut out directly behind a beginning of `s`, and what is left behind the cut
goes on with the rest of `s`. -/
def Joins (p : Pattern α) (t s : Text) : Prop :=
  ∃ front gap a back v w, (p.sections t).parts = front ++ (gap, a) :: back ∧
    s = v ++ w ∧ v ≠ [] ∧ w ≠ [] ∧ v <:+ gap ∧
      w <+: (Sections.gaps ⟨back, (p.sections t).tail⟩).flatten

lemma Joins.of_read {a : α} {rest : Text} (h : p.read t = some (a, rest))
    (hj : p.Joins rest s) : p.Joins t s := by
  obtain ⟨front, gap, b, back, v, w, hparts, hs, hv, hw, hgap, hback⟩ := hj
  refine ⟨([], a) :: front, gap, b, back, v, w, ?_, hs, hv, hw, hgap, ?_⟩
  · rw [sections_of_read h, hparts, List.cons_append]
  · rwa [sections_of_read h]

lemma Joins.cons {c : Char} (h : p.read (c :: t) = none) (hj : p.Joins t s) :
    p.Joins (c :: t) s := by
  obtain ⟨front, gap, a, back, v, w, hparts, hs, hv, hw, hgap, hback⟩ := hj
  rcases ht : p.sections t with ⟨parts, tail⟩
  have hcons := sections_cons h
  rw [ht] at hparts hback hcons
  subst hparts
  rcases front with _ | ⟨⟨gap', a'⟩, front⟩
  · exact ⟨[], c :: gap, a, back, v, w, by rw [hcons]; rfl, hs, hv, hw,
      hgap.trans (List.suffix_cons c gap), by rw [hcons]; exact hback⟩
  · exact ⟨(c :: gap', a') :: front, gap, a, back, v, w, by rw [hcons]; rfl, hs, hv, hw, hgap,
      by rw [hcons]; exact hback⟩

/-- What the text that is left begins with stood at the front of the text before, or it goes on
behind the first cut. -/
lemma exists_of_append_eq_erase {z : Text} (h : s ++ z = p.erase t) :
    (∃ u, z.Sublist u ∧ t = s ++ u) ∨
      ∃ gap a back tail w, p.sections t = ⟨(gap, a) :: back, tail⟩ ∧ s = gap ++ w ∧ w ≠ [] ∧
        w <+: (Sections.gaps ⟨back, tail⟩).flatten := by
  rcases hsections : p.sections t with ⟨_ | ⟨⟨gap, a⟩, back⟩, tail⟩
  · -- no cut is made
    have hwhole : p.erase t = t := by
      have hspell := spell_sections (p := p) t
      rw [hsections] at hspell
      rw [erase_eq_flatten_gaps, hsections, ← hspell]
      simp [Sections.gaps, Sections.spell]
    exact Or.inl ⟨z, List.Sublist.refl z, by rw [h, hwhole]⟩
  · obtain ⟨rest, rfl, hrest⟩ := exists_of_sections_eq hsections
    have hleft : p.erase (gap ++ (p.spell a ++ rest)) = gap ++ p.erase rest := by
      rw [erase_eq_flatten_gaps, erase_eq_flatten_gaps, hsections, hrest]
      simp [Sections.gaps]
    have hbehind : (p.erase rest).Sublist (p.spell a ++ rest) :=
      (p.erase_sublist rest).trans (List.sublist_append_right _ _)
    rw [hleft] at h
    rcases List.append_eq_append_iff.mp h with ⟨x, rfl, rfl⟩ | ⟨w, rfl, hw⟩
    · exact Or.inl ⟨x ++ (p.spell a ++ rest), (List.Sublist.refl x).append hbehind, by simp⟩
    · rcases eq_or_ne w [] with rfl | hne
      · rw [List.nil_append] at hw
        exact Or.inl ⟨p.spell a ++ rest, hw ▸ hbehind, by simp⟩
      · refine Or.inr ⟨gap, a, back, tail, w, rfl, rfl, hne, ?_⟩
        rw [← hrest, ← erase_eq_flatten_gaps, hw]
        exact List.prefix_append w z

/-- **What stands in the text that is left** stood in the text before, at a place where no
occurrence is read, or a cut goes through it. -/
theorem joins_or_exists_suffix {z : Text} (hs : s ≠ []) (h : s ++ z <:+ p.erase t) :
    p.Joins t s ∨ ∃ u, z.Sublist u ∧ s ++ u <:+ t ∧ p.read (s ++ u) = none := by
  induction t using scan_induction (p := p) with
  | nil =>
    rw [erase_nil, List.suffix_nil, List.append_eq_nil_iff] at h
    exact absurd h.1 hs
  | hit t a rest hr ih =>
    rw [erase_of_read hr] at h
    rcases ih h with hj | ⟨u, hzu, hu, hnone⟩
    · exact Or.inl (hj.of_read hr)
    · exact Or.inr ⟨u, hzu, hu.trans ⟨p.spell a, (p.eq_of_read hr).symm⟩, hnone⟩
  | plain c t hr ih =>
    rw [erase_cons hr] at h
    rcases List.suffix_cons_iff.mp h with he | h
    · -- it begins at this place
      obtain ⟨d, s, rfl⟩ := List.exists_cons_of_ne_nil hs
      rw [List.cons_append, List.cons.injEq] at he
      obtain ⟨rfl, he⟩ := he
      rcases exists_of_append_eq_erase he with ⟨u, hzu, rfl⟩ |
        ⟨gap, a, back, tail, w, hsections, rfl, hw, hback⟩
      · exact Or.inr ⟨u, hzu, List.suffix_rfl, hr⟩
      · have hcons := sections_cons hr
        rw [hsections] at hcons
        exact Or.inl ⟨[], d :: gap, a, back, d :: gap, w, by rw [hcons]; rfl, rfl,
          List.cons_ne_nil _ _, hw, List.suffix_rfl, by rw [hcons]; exact hback⟩
    · rcases ih h with hj | ⟨u, hzu, hu, hnone⟩
      · exact Or.inl (hj.cons hr)
      · exact Or.inr ⟨u, hzu, hu.trans (List.suffix_cons c t), hnone⟩

/-- In front of the cut stands a beginning, and directly behind it what is cut out. -/
lemma Joins.exists_infix {c : Char} (h : p.Joins t (s ++ [c])) :
    ∃ v a, v ≠ [] ∧ v <+: s ∧ v ++ p.spell a <:+: t := by
  obtain ⟨front, gap, a, back, v, w, hparts, hs, hv, hw, ⟨x, rfl⟩, -⟩ := h
  refine ⟨v, a, hv, ?_, ?_⟩
  · rcases List.eq_nil_or_concat w with rfl | ⟨w, d, rfl⟩
    · exact absurd rfl hw
    · rw [List.concat_eq_append, ← List.append_assoc] at hs
      exact ⟨w, (List.append_inj_left' hs rfl).symm⟩
  · have hspell := spell_sections (p := p) t
    rw [Sections.spell, Sections.keeping, hparts] at hspell
    rw [← hspell]
    refine ⟨front.flatMap (fun part => part.1 ++ p.spell part.2) ++ x,
      back.flatMap (fun part => part.1 ++ p.spell part.2) ++ (p.sections t).tail, ?_⟩
    simp

end Pattern

end DrawStyle
