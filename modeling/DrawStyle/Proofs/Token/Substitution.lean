import DrawStyle.Proofs.Pattern.Partition
import DrawStyle.Proofs.Token.Names

/-!
What it means to replace tokens.

No reference starts within another one, so a text is cut at its references in one way, and every
reference in it is one of those at which it is cut. Replacing puts the values of a table where
the references stand and leaves the rest as it is.
-/

namespace DrawStyle

/-- The text is cut at references to tokens, and none is left in a gap. -/
structure CutAtReferences (d : Sections Reference) (t : Text) : Prop where
  spell : d.replacing (fun r => referenceTo r.name) = t
  names : ∀ r ∈ d.hits, IsTokenName r.name
  gaps : ∀ gap ∈ d.gaps, ∀ name, IsTokenName name → ¬ referenceTo name <:+: gap

section

variable {t u v name : Text} {d : Sections Reference} {r : Reference}

namespace Reference

lemma solitary_pattern : pattern.Solitary :=
  fun h => (valid_of_read h).quiet_tail _

lemma read_spell_iff : pattern.read r.spell = some (r, []) ↔ IsTokenName r.name := by
  have hread : pattern.read r.spell = some (r, []) ↔ r.Valid := by
    rw [pattern, read_eq_some_iff, List.append_nil, and_iff_left rfl]
  rw [hread, isTokenName_iff_valid]
  constructor
  · exact fun h => ⟨r, h, rfl⟩
  · rintro ⟨⟨bare⟩, h, hname⟩
    obtain rfl : bare = r.bare := by simpa [name] using hname
    exact h

lemma hits_eq_nil_iff_no_infix :
    pattern.hits t = [] ↔ ∀ name, IsTokenName name → ¬ referenceTo name <:+: t := by
  rw [Pattern.hits_eq_nil_iff]
  constructor
  · rintro h name hname ⟨u, v, rfl⟩
    obtain ⟨r, hr, rfl⟩ := isTokenName_iff_valid.mp hname
    have hnone : read (r.spell ++ v) = none := h _ ⟨u, (List.append_assoc _ _ _).symm⟩
    rw [hr.read_spell_append v] at hnone
    cases hnone
  · intro h v hv
    refine read_eq_none_iff.mpr fun r hr hpre => ?_
    exact h r.name (isTokenName_iff_valid.mpr ⟨r, hr, rfl⟩) (hpre.isInfix.trans hv.isInfix)

end Reference

lemma cutAtReferences_iff_cuts : CutAtReferences d t ↔ d.Cuts Reference.pattern t := by
  constructor
  · rintro ⟨hspell, hnames, hgaps⟩
    exact ⟨hspell, fun r hr => Reference.read_spell_iff.mpr (hnames r hr),
      fun gap hgap => Reference.hits_eq_nil_iff_no_infix.mpr (hgaps gap hgap)⟩
  · rintro ⟨hspell, hhits, hgaps⟩
    exact ⟨hspell, fun r hr => Reference.read_spell_iff.mp (hhits r hr),
      fun gap hgap => Reference.hits_eq_nil_iff_no_infix.mp (hgaps gap hgap)⟩

/-- **A text is cut at its references in one way**, the one in which a scan cuts it. -/
theorem cutAtReferences_iff : CutAtReferences d t ↔ d = Reference.pattern.sections t := by
  rw [cutAtReferences_iff_cuts]
  constructor
  · exact Pattern.eq_sections_of_cuts Reference.exact_pattern Reference.solitary_pattern
  · rintro rfl
    exact Pattern.cuts_sections Reference.exact_pattern t

lemma CutAtReferences.exists_parts (h : CutAtReferences d t) (hname : IsTokenName name)
    (ht : t = u ++ referenceTo name ++ v) :
    ∃ front gap r back, d.parts = front ++ (gap, r) :: back ∧ r.name = name ∧
      u = Sections.replacing (fun r => referenceTo r.name) ⟨front, gap⟩ ∧
      v = Sections.replacing (fun r => referenceTo r.name) ⟨back, d.tail⟩ := by
  obtain ⟨r, -, rfl⟩ := isTokenName_iff_valid.mp hname
  obtain ⟨front, gap, back, hparts, hu, hv⟩ := Pattern.exists_parts_of_cuts Reference.exact_pattern
    Reference.solitary_pattern (cutAtReferences_iff_cuts.mp h)
    (Reference.read_spell_iff.mpr hname) ht
  exact ⟨front, gap, r, back, hparts, rfl, hu, hv⟩

lemma CutAtReferences.references_eq (h : CutAtReferences d t) :
    references t = d.hits.map Reference.name := by
  rw [references, cutAtReferences_iff.mp h, Pattern.hits_sections]

end

/-- **What it means to replace tokens.** A text is cut at references in one way so that no
reference is left in between, and every reference in the text is cut out where it stands. The
references of the text are those that are cut out, in order. In the text in which tokens are
replaced, the value that the table holds stands for each reference to a token of the table; all
other references and all that stands between them are as before. The references to tokens of the
table are counted, and the names of the others are reported in the order of their bytes, each
once. -/
theorem resolution_of_cutAtReferences (t : Text) :
    (∃! d, CutAtReferences d t) ∧
      ∀ d, CutAtReferences d t →
        (∀ u name v, IsTokenName name → t = u ++ referenceTo name ++ v →
          ∃ front gap r back, d.parts = front ++ (gap, r) :: back ∧ r.name = name ∧
            u = Sections.replacing (fun r => referenceTo r.name) ⟨front, gap⟩ ∧
            v = Sections.replacing (fun r => referenceTo r.name) ⟨back, d.tail⟩) ∧
        references t = d.hits.map Reference.name ∧
        ∀ table : TokenTable,
          (table.resolution t).text =
            d.replacing (fun r => (table.get? r.name).getD (referenceTo r.name)) ∧
          (table.resolution t).replaced = d.hits.countP (fun r => table.contains r.name) ∧
          (table.resolution t).unresolved.Pairwise (fun name name' => name.bytes < name'.bytes) ∧
          (∀ name, name ∈ (table.resolution t).unresolved ↔
            name ∈ d.hits.map Reference.name ∧ table.get? name = none) ∧
          table.resolve t = (table.resolution t).text := by
  refine ⟨⟨_, cutAtReferences_iff.mpr rfl, fun d h => cutAtReferences_iff.mp h⟩, fun d h => ?_⟩
  refine ⟨fun u name v hname ht => h.exists_parts hname ht, h.references_eq, fun table => ?_⟩
  refine ⟨?_, ?_, ?_, fun name => ?_, rfl⟩
  · rw [cutAtReferences_iff.mp h]
    exact Pattern.replace_eq_replacing _ t
  · rw [TokenTable.resolution, h.references_eq, List.countP_map]
    rfl
  · exact (TokenTable.pairwise_sortedNames _).imp Text.bytes_lt
  · rw [TokenTable.mem_unresolved_iff, h.references_eq, TokenTable.contains,
      Option.isSome_eq_false_iff, Option.isNone_iff_eq_none]

theorem resolution_of_cutAtReferences_near_misses :
    CutAtReferences ⟨[("var".toList, ⟨['a']⟩), ("var(--".toList, ⟨['-', 'b']⟩)], ")var(--c".toList⟩
        "varvar(--a)var(--var(---b))var(--c".toList ∧
      (TokenTable.resolution ⟨[("---b".toList, "var(--a)".toList)], List.pairwise_singleton _ _⟩
        "varvar(--a)var(--var(---b))var(--c".toList).text =
          "varvar(--a)var(--var(--a))var(--c".toList := by
  have hcut : CutAtReferences
      ⟨[("var".toList, ⟨['a']⟩), ("var(--".toList, ⟨['-', 'b']⟩)], ")var(--c".toList⟩
      "varvar(--a)var(--var(---b))var(--c".toList := by
    have hparts : (Reference.pattern.sections "varvar(--a)var(--var(---b))var(--c".toList).parts =
        [("var".toList, ⟨['a']⟩), ("var(--".toList, ⟨['-', 'b']⟩)] := by decide +kernel
    have htail : (Reference.pattern.sections "varvar(--a)var(--var(---b))var(--c".toList).tail =
        ")var(--c".toList := by decide +kernel
    rw [cutAtReferences_iff, ← hparts, ← htail]
  obtain ⟨-, -, hresolution⟩ := (resolution_of_cutAtReferences _).2 _ hcut
  refine ⟨hcut, ?_⟩
  rw [(hresolution _).1]
  decide +kernel

end DrawStyle
