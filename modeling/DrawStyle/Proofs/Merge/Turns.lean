import DrawStyle.Proofs.Merge.Flat
import DrawStyle.Proofs.Pattern.Cuts
import DrawStyle.Proofs.Pattern.Partition

/-!
Taking out the rules for selectors that may be any texts.

In the turn of a selector the text is cut at its rules, and what is left are the gaps. A selector
is taken as it is, with braces, blanks and all. Since the rule that begins at a place is known by
the selector, there is one way to cut a text so that no rule begins in a gap.
-/

namespace DrawStyle

/-- A rule for a selector, whatever the selector holds: a dot, the selector, blanks, and a body
without a closing brace between braces. -/
def SpellsRule (name m : Text) : Prop :=
  ∃ gap body : Text, gap.isBlank = true ∧ '}' ∉ body ∧
    m = '.' :: (name ++ (gap ++ '{' :: (body ++ ['}'])))

/-- At no place in `gap` a rule for the selector begins, where `rest` follows. -/
def NoneBegins (name gap rest : Text) : Prop :=
  Throughout (fun t => ∀ m, SpellsRule name m → ¬ m <+: t) gap rest

/-- A text is cut at rules for a selector, and none begins in a gap. -/
inductive CutAtRules (name : Text) : Sections Text → Text → Prop
  | tail {t : Text} : NoneBegins name t [] → CutAtRules name ⟨[], t⟩ t
  | rule {gap m t tail : Text} {parts : List (Text × Text)} : SpellsRule name m →
      NoneBegins name gap (m ++ t) → CutAtRules name ⟨parts, tail⟩ t →
      CutAtRules name ⟨(gap, m) :: parts, tail⟩ (gap ++ (m ++ t))

/-- Each selector has its turn, on what the turn before has left; one whose rules cannot be looked
for is passed over. Where the text is cut at some rule, the gaps are left and the selector is
listed. -/
inductive Removes : Text → List Text → Removal → Prop
  | done {t : Text} : Removes t [] ⟨t, []⟩
  | skip {t name : Text} {names : List Text} {r : Removal} : Rule.fits name = false →
      Removes t names r → Removes t (name :: names) r
  | pass {t name : Text} {names : List Text} {r : Removal} : Rule.fits name = true →
      CutAtRules name ⟨[], t⟩ t → Removes t names r → Removes t (name :: names) r
  | cut {t name : Text} {names : List Text} {s : Sections Text} {r : Removal} :
      Rule.fits name = true → CutAtRules name s t → s.parts ≠ [] →
      Removes s.gaps.flatten names r → Removes t (name :: names) ⟨r.text, name :: r.removed⟩

/-- The occurrences at which a text is cut, as texts. -/
def Sections.spelled {α : Type} (p : Pattern α) (s : Sections α) : Sections Text :=
  ⟨s.parts.map fun part => (part.1, p.spell part.2), s.tail⟩

section

variable {name t gap rest m : Text} {names : List Text} {r : Rule} {s : Sections Text}
  {removal : Removal}

lemma Sections.gaps_spelled {α : Type} (p : Pattern α) (s : Sections α) :
    (s.spelled p).gaps = s.gaps := by
  simp [spelled, gaps]

/-! ### Rules for a selector -/

lemma spellsRule_iff : SpellsRule name m ↔ ∃ r : Rule, r.selector = name ∧ r.braced.Valid ∧
    m = r.spell := by
  constructor
  · rintro ⟨gap, body, hgap, hbody, rfl⟩
    refine ⟨⟨name, ⟨gap, body⟩⟩, rfl, ⟨Text.isBlank_iff.mp hgap, fun c hc => ?_⟩, ?_⟩
    · rw [Braced.inBody, bne_iff_ne]
      rintro rfl
      exact hbody hc
    · simp [Rule.spell, Braced.spell]
  · rintro ⟨r, rfl, hr, rfl⟩
    exact ⟨r.braced.gap, r.braced.body, Text.isBlank_iff.mpr hr.gap, not_mem_run hr.body rfl,
      by simp [Rule.spell, Braced.spell]⟩

lemma SpellsRule.exists_read (h : SpellsRule name m) (rest : Text) :
    ∃ r : Rule, m = r.spell ∧ (Rule.patternNamed name).read (m ++ rest) = some (r, rest) := by
  obtain ⟨r, hname, hr, rfl⟩ := spellsRule_iff.mp h
  exact ⟨r, rfl, Rule.readNamed_eq_some_iff.mpr ⟨hname, hr, rfl⟩⟩

lemma spellsRule_of_read (h : (Rule.patternNamed name).read t = some (r, rest)) :
    SpellsRule name r.spell := by
  obtain ⟨hname, hr, -⟩ := Rule.readNamed_eq_some_iff.mp h
  exact spellsRule_iff.mpr ⟨r, hname, hr, rfl⟩

lemma read_eq_none_iff_no_front : (Rule.patternNamed name).read t = none ↔
    ∀ m, SpellsRule name m → ¬ m <+: t := by
  constructor
  · rintro h m hm ⟨rest, rfl⟩
    obtain ⟨r, -, hread⟩ := hm.exists_read rest
    rw [h] at hread
    cases hread
  · intro h
    rcases hread : (Rule.patternNamed name).read t with _ | ⟨r, rest⟩
    · rfl
    · have ht : t = r.spell ++ rest := Rule.eq_of_readNamed hread
      exact absurd ⟨rest, ht.symm⟩ (h _ (spellsRule_of_read hread))

lemma noneBegins_iff : NoneBegins name gap rest ↔ (Rule.patternNamed name).Quiet gap rest :=
  ⟨fun h => h.mono fun _ => read_eq_none_iff_no_front.mpr,
    fun h => h.mono fun _ => read_eq_none_iff_no_front.mp⟩

/-! ### One turn -/

lemma CutAtRules.eq_spelled (h : CutAtRules name s t) :
    s = ((Rule.patternNamed name).sections t).spelled (Rule.patternNamed name) := by
  induction h with
  | tail hquiet =>
    next t =>
    have hhits : (Rule.patternNamed name).hits t = [] := by
      rw [← List.append_nil t, Pattern.hits_append_of_quiet (noneBegins_iff.mp hquiet),
        Pattern.hits_nil]
    rw [Pattern.sections_of_hits_eq_nil hhits]
    rfl
  | rule hm hquiet _ ih =>
    next gap m t tail parts _ =>
    obtain ⟨r, rfl, hread⟩ := hm.exists_read t
    rw [Pattern.sections_append_of_read (noneBegins_iff.mp hquiet) hread]
    obtain ⟨rfl, rfl⟩ := Sections.mk.inj ih
    rfl

lemma cutAtRules_spelled (name t : Text) : CutAtRules name
    (((Rule.patternNamed name).sections t).spelled (Rule.patternNamed name)) t := by
  induction t using Pattern.scan_induction (p := Rule.patternNamed name) with
  | nil =>
    rw [Pattern.sections, Pattern.pieces_nil]
    exact .tail throughout_nil
  | hit t r rest hread ih =>
    rw [Pattern.sections_of_read hread, (Rule.patternNamed name).eq_of_read hread]
    change CutAtRules name _ ([] ++ (r.spell ++ rest))
    exact .rule (spellsRule_of_read hread) throughout_nil ih
  | plain c t hread ih =>
    rw [Pattern.sections_cons hread]
    rcases hsections : (Rule.patternNamed name).sections t with ⟨_ | ⟨⟨gap, r⟩, parts⟩, tail⟩
    · rw [hsections] at ih
      cases ih with
      | tail hquiet =>
        rw [← List.append_nil tail] at hread
        exact .tail (throughout_cons.mpr ⟨read_eq_none_iff_no_front.mp hread, hquiet⟩)
    · rw [hsections] at ih
      cases ih with
      | rule hm hquiet hrest =>
        rw [← List.cons_append]
        exact .rule hm (throughout_cons.mpr ⟨read_eq_none_iff_no_front.mp hread, hquiet⟩) hrest

/-- **There is one way to cut a text** so that no rule for the selector begins in a gap. -/
theorem cutAtRules_iff : CutAtRules name s t ↔
    s = ((Rule.patternNamed name).sections t).spelled (Rule.patternNamed name) :=
  ⟨CutAtRules.eq_spelled, fun h => h ▸ cutAtRules_spelled name t⟩

lemma CutAtRules.parts_eq_nil_iff (h : CutAtRules name s t) :
    s.parts = [] ↔ (Rule.patternNamed name).hits t = [] := by
  rw [cutAtRules_iff.mp h, ← Pattern.hits_sections]
  simp [Sections.spelled, Sections.hits]

lemma CutAtRules.flatten_gaps (h : CutAtRules name s t) :
    s.gaps.flatten = (Rule.patternNamed name).erase t := by
  rw [cutAtRules_iff.mp h, Sections.gaps_spelled, Pattern.erase_eq_flatten_gaps]

/-! ### All turns -/

lemma Removes.eq_removeBlocks (h : Removes t names removal) : removal = removeBlocks t names := by
  induction h with
  | done => rfl
  | skip hfits _ ih => rw [removeBlocks_cons_of_not_fits hfits, ih]
  | pass _ hcut _ ih => rw [removeBlocks_of_hits_eq_nil (hcut.parts_eq_nil_iff.mp rfl), ih]
  | cut hfits hcut hparts _ ih =>
    rw [removeBlocks_of_hits_ne_nil hfits (mt hcut.parts_eq_nil_iff.mpr hparts),
      ← hcut.flatten_gaps, ih]

lemma removes_removeBlocks (t : Text) (names : List Text) :
    Removes t names (removeBlocks t names) := by
  induction names generalizing t with
  | nil => exact .done
  | cons name names ih =>
    rcases hfits : Rule.fits name with _ | _
    · rw [removeBlocks_cons_of_not_fits hfits]
      exact .skip hfits (ih t)
    · have hcut := cutAtRules_spelled name t
      by_cases h : (Rule.patternNamed name).hits t = []
      · rw [removeBlocks_of_hits_eq_nil h]
        rw [Pattern.sections_of_hits_eq_nil h] at hcut
        exact .pass hfits hcut (ih t)
      · rw [removeBlocks_of_hits_ne_nil hfits h, ← hcut.flatten_gaps]
        exact .cut hfits hcut (mt hcut.parts_eq_nil_iff.mp h) (ih _)

lemma Removes.text_sublist (h : Removes t names removal) : removal.text.Sublist t := by
  induction h with
  | done => exact List.Sublist.refl _
  | skip _ _ ih => exact ih
  | pass _ _ _ ih => exact ih
  | cut _ hcut _ _ ih =>
    rw [hcut.flatten_gaps] at ih
    exact ih.trans (Pattern.erase_sublist _)

lemma Removes.removed_sublist (h : Removes t names removal) : removal.removed.Sublist names := by
  induction h with
  | done => exact List.Sublist.refl []
  | skip _ _ ih => exact ih.cons _
  | pass _ _ _ ih => exact ih.cons _
  | cut _ _ _ _ ih => exact ih.cons_cons _

lemma Removes.text_eq_iff (h : Removes t names removal) :
    removal.text = t ↔ removal.removed = [] := by
  induction h with
  | done => exact iff_of_true rfl rfl
  | skip _ _ ih => exact ih
  | pass _ _ _ ih => exact ih
  | cut _ hcut hparts hrest _ =>
    refine iff_of_false (fun htext => hparts (hcut.parts_eq_nil_iff.mpr ?_)) (List.cons_ne_nil _ _)
    -- nothing may be lost in this turn, since what is left of it goes down to the text
    have hle := hrest.text_sublist.length_le
    rw [htext, hcut.flatten_gaps] at hle
    exact Pattern.erase_eq_self_iff.mp ((Pattern.erase_sublist _).eq_of_length_le hle)

end

/-- **Rules for selectors that may be any texts** are taken out turn by turn. For each selector a
text can be cut in just one way at rules for it so that none begins in a gap. In its turn the
gaps are left, and the selector is listed if the text was cut. So what is left is a subsequence of
the text, the selectors that are listed are a subsequence of those given, and the text is left as
it is exactly if none is listed. -/
theorem removes_iff_eq_removeBlocks (t : Text) (names : List Text) :
    (∀ name u, ∃! s, CutAtRules name s u) ∧
      (∀ r, Removes t names r ↔ r = removeBlocks t names) ∧
      (removeBlocks t names).text.Sublist t ∧ (removeBlocks t names).removed.Sublist names ∧
        ((removeBlocks t names).text = t ↔ (removeBlocks t names).removed = []) := by
  have h := removes_removeBlocks t names
  refine ⟨fun name u => ⟨_, cutAtRules_spelled name u, fun s => CutAtRules.eq_spelled⟩,
    fun r => ⟨Removes.eq_removeBlocks, ?_⟩, h.text_sublist, h.removed_sublist, h.text_eq_iff⟩
  rintro rfl
  exact h

end DrawStyle
