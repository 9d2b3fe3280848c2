import DrawStyle.Proofs.Token.Substitution
import DrawStyle.Proofs.Text.Lines

/-!
Replacing tokens part by part.

Where a text is cut and no reference goes over the cut, tokens are replaced on its two sides by
themselves, whatever stands there that only looks like the beginning or the end of a reference.
No reference goes over the end of a line, so tokens are replaced line by line.
-/

namespace DrawStyle

/-- A reference to a token starts in `a` and ends in `b`, which stands behind it. -/
def Straddled (a b : Text) : Prop :=
  ∃ name v w, IsTokenName name ∧ v ≠ [] ∧ w ≠ [] ∧ v <:+ a ∧ w <+: b ∧ referenceTo name = v ++ w

section

variable {a b l : Text} {names names' : List Text} {table : TokenTable}

/-- What is read from the front part on ends there, if no reference goes over the cut. -/
lemma Reference.apart_of_not_straddled (h : ¬ Straddled a b) : Reference.pattern.Apart a b := by
  intro v _ hva r rest hread
  obtain ⟨hr, ht⟩ := Reference.read_eq_some_iff.mp hread
  rcases List.append_eq_append_iff.mp ht with ⟨w, hspell, hb⟩ | ⟨w, hv, -⟩
  · rcases eq_or_ne w [] with rfl | hw
    · exact ⟨[], by rw [List.append_nil, spell_pattern, hspell, List.append_nil]⟩
    · have hname : IsTokenName r.name := isTokenName_iff_valid.mpr ⟨r, hr, rfl⟩
      exact absurd ⟨r.name, v, w, hname, ‹v ≠ []›, hw, hva, ⟨rest, hb.symm⟩, hspell⟩ h
  · exact ⟨w, hv.symm⟩

/-- A reference that goes over the cut is found among the ends of the front part with the
beginnings of the part behind it. -/
lemma straddled_iff_any :
    Straddled a b ↔ (a.tails.any fun v => b.inits.any fun w =>
      !v.isEmpty && !w.isEmpty && (Reference.read (v ++ w)).any fun x => x.2.isEmpty) = true := by
  simp only [List.any_eq_true, List.mem_tails, List.mem_inits, Bool.and_eq_true, Bool.not_eq_true',
    List.isEmpty_eq_false_iff, Option.any_eq_true, List.isEmpty_iff]
  constructor
  · rintro ⟨name, v, w, hname, hv, hw, hva, hwb, hspell⟩
    obtain ⟨r, rfl, hread⟩ := hname.read_referenceTo
    exact ⟨v, hva, w, hwb, ⟨hv, hw⟩, (r, []), hspell ▸ hread, rfl⟩
  · rintro ⟨v, hva, w, hwb, ⟨hv, hw⟩, ⟨r, rest⟩, hread, rfl⟩
    obtain ⟨hr, hspell⟩ := Reference.read_eq_some_iff.mp hread
    rw [List.append_nil] at hspell
    exact ⟨r.name, v, w, isTokenName_iff_valid.mpr ⟨r, hr, rfl⟩, hv, hw, hva, hwb, hspell.symm⟩

instance (a b : Text) : Decidable (Straddled a b) := decidable_of_iff _ straddled_iff_any.symm

lemma sortedNames_congr (h : ∀ name, name ∈ names ↔ name ∈ names') :
    sortedNames names = sortedNames names' := by
  have hnodup : ∀ names, (sortedNames names).Nodup := by
    intro names
    refine (TokenTable.pairwise_sortedNames names).imp fun {name name'} hlt => ?_
    rintro rfl
    exact List.lt_irrefl _ hlt
  have hperm : (sortedNames names).Perm (sortedNames names') := by
    refine (List.perm_ext_iff_of_nodup (hnodup _) (hnodup _)).mpr fun name => ?_
    rw [TokenTable.mem_sortedNames, TokenTable.mem_sortedNames, h]
  exact hperm.eq_of_pairwise
    (fun _ _ _ _ hlt hgt => absurd (List.lt_trans hlt hgt) (List.lt_irrefl _))
    (TokenTable.pairwise_sortedNames _) (TokenTable.pairwise_sortedNames _)

namespace TokenTable

/-! ### Two parts of a text -/

lemma resolve_append (h : ¬ Straddled a b) :
    table.resolve (a ++ b) = table.resolve a ++ table.resolve b :=
  Pattern.replace_append Reference.exact_pattern (Reference.apart_of_not_straddled h) _

lemma references_append (h : ¬ Straddled a b) :
    references (a ++ b) = references a ++ references b := by
  rw [references, Pattern.hits_append Reference.exact_pattern (Reference.apart_of_not_straddled h),
    List.map_append, references, references]

lemma replaced_append (h : ¬ Straddled a b) :
    (table.resolution (a ++ b)).replaced =
      (table.resolution a).replaced + (table.resolution b).replaced := by
  simp only [resolution, references_append h, List.countP_append]

/-- The names that are left without a value are those of the two parts. -/
lemma unresolved_append (h : ¬ Straddled a b) :
    (table.resolution (a ++ b)).unresolved =
      sortedNames ((table.resolution a).unresolved ++ (table.resolution b).unresolved) := by
  refine sortedNames_congr fun name => ?_
  rw [List.mem_append, mem_unresolved_iff, mem_unresolved_iff, references_append h,
    List.filter_append, List.mem_append, List.mem_filter, List.mem_filter, Bool.not_eq_true']

/-! ### Lines -/

/-- Replacing tokens puts no newline into a line, if there is none in the values. -/
lemma newline_not_mem_resolve (htable : ∀ e ∈ table.entries, '\n' ∉ e.2) (hl : '\n' ∉ l) :
    '\n' ∉ table.resolve l := by
  intro hmem
  rcases mem_resolve hmem with h | ⟨e, he, h⟩
  · exact hl h
  · exact htable e he h

lemma resolve_append_newline (s t : Text) :
    table.resolve (s ++ '\n' :: t) = table.resolve s ++ '\n' :: table.resolve t := by
  rw [resolve_append_foreign rfl, resolve_cons (Reference.read_cons_of_ne (by decide) t)]

/-- **Tokens are replaced line by line.** -/
theorem splitOn_resolve (htable : ∀ e ∈ table.entries, '\n' ∉ e.2) (t : Text) :
    (table.resolve t).splitOn '\n' = (t.splitOn '\n').map table.resolve := by
  induction t using lines_induction with
  | last s hs =>
    rw [List.splitOn_eq_singleton hs,
      List.splitOn_eq_singleton (newline_not_mem_resolve htable hs), List.map_singleton]
  | line s t hs ih =>
    rw [resolve_append_newline, List.splitOn_append_cons_self_of_not_mem hs,
      List.splitOn_append_cons_self_of_not_mem (newline_not_mem_resolve htable hs), ih,
      List.map_cons]

end TokenTable

/-- **Replacing tokens is local.** If a text is cut where no reference goes over the cut, the two
parts of it are replaced by themselves: the texts and the references follow each other, the
replacements add up, and the names without a value are those of both. If the values of a table are
of one line each, lines stay lines, and each is replaced by itself. -/
theorem resolution_append (table : TokenTable) :
    (∀ a b : Text, ¬ Straddled a b →
      table.resolve (a ++ b) = table.resolve a ++ table.resolve b ∧
        (table.resolution (a ++ b)).replaced =
          (table.resolution a).replaced + (table.resolution b).replaced ∧
        (table.resolution (a ++ b)).unresolved =
          sortedNames ((table.resolution a).unresolved ++ (table.resolution b).unresolved) ∧
        references (a ++ b) = references a ++ references b) ∧
      ((∀ e ∈ table.entries, '\n' ∉ e.2) → ∀ t : Text,
        ((table.resolve t).splitOn '\n').length = (t.splitOn '\n').length ∧
          ∀ i : ℕ, ((table.resolve t).splitOn '\n')[i]? =
            ((t.splitOn '\n')[i]?).map table.resolve) := by
  refine ⟨fun a b h => ?_, fun htable t => ?_⟩
  · exact ⟨TokenTable.resolve_append h, TokenTable.replaced_append h,
      TokenTable.unresolved_append h, TokenTable.references_append h⟩
  · rw [TokenTable.splitOn_resolve htable]
    exact ⟨List.length_map _, fun i => List.getElem?_map⟩

theorem resolution_append_false_starts :
    ¬ Straddled "var(--t1) var(--t".toList "var(--t2)var(--x)".toList ∧
      TokenTable.drawingDefaults.resolve
          ("var(--t1) var(--t".toList ++ "var(--t2)var(--x)".toList) =
        "0.03px var(--t".toList ++ "0.06pxvar(--x)".toList ∧
      (∀ e ∈ TokenTable.drawingDefaults.entries, '\n' ∉ e.2) ∧
      ((TokenTable.drawingDefaults.resolve "var(--\nt1)\nvar(--t1)".toList).splitOn '\n').length =
        3 ∧
      ((TokenTable.drawingDefaults.resolve "var(--\nt1)\nvar(--t1)".toList).splitOn '\n')[2]? =
        some "0.03px".toList := by
  have hcut : ¬ Straddled "var(--t1) var(--t".toList "var(--t2)var(--x)".toList := by
    decide +kernel
  have hvalues : ∀ e ∈ TokenTable.drawingDefaults.entries, '\n' ∉ e.2 := by
    dsimp only [TokenTable.drawingDefaults]
    exact Entries.forall_mem_ofMembers (by decide)
  obtain ⟨hparts, hlines⟩ := resolution_append TokenTable.drawingDefaults
  obtain ⟨hlength, hline⟩ := hlines hvalues "var(--\nt1)\nvar(--t1)".toList
  refine ⟨hcut, ?_, hvalues, ?_, ?_⟩
  · rw [(hparts _ _ hcut).1]
    decide +kernel
  · rw [hlength]
    decide +kernel
  · rw [hline]
    decide +kernel

end

end DrawStyle
