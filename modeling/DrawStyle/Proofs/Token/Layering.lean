import DrawStyle.Proofs.Token.Entries
import DrawStyle.Proofs.Token.Reference

/-!
Replacing tokens in layers.

A value is inert if no part of it, with whatever stands around it, can become part of a
reference. Where the values of a table are inert, a reference is found after they were put in
only if it stood in the text before: the prefixes that references can continue with are the
same before and after. So replacing with one table and then with another is replacing once,
with the tables layered.
-/

namespace DrawStyle

/-- A value that neither holds, starts, ends nor continues a reference. -/
structure InertValue (v : Text) : Prop where
  foreign : ∃ c ∈ v, Reference.inSpelling c = false
  no_reference : ∀ r : Reference, r.Valid → ¬ r.spell <:+: v
  no_start : ∀ r : Reference, r.Valid → ∀ s, s ≠ [] → s <:+ v → ¬ s <+: r.spell
  no_end : ∀ r : Reference, r.Valid → ∀ s, s ≠ [] → s <+: v → ¬ s <:+ r.spell

/-- All values of the table are inert. -/
def TokenTable.Inert (table : TokenTable) : Prop := ∀ e ∈ table.entries, InertValue e.2

/-- A value without the first letter of a reference is inert if its first character that may
not stand in a reference comes before its first closing parenthesis. -/
lemma inertValue_of_no_letter {v : Text} (hforeign : ∃ c ∈ v, Reference.inSpelling c = false)
    (hletter : 'v' ∉ v) (hclose : ')' ∉ v.takeWhile Reference.inSpelling) : InertValue v where
  foreign := hforeign
  no_reference r _ h :=
    hletter (h.mem (Reference.letter_mem_of_front r.spell_ne_nil List.prefix_rfl))
  no_start r _ s hne hsv hs := hletter (hsv.mem (Reference.letter_mem_of_front hne hs))
  no_end r hr s hne hsv hs := by
    -- all of `s` may stand in a reference, so `s` lies before the foreign character
    obtain ⟨w, rfl⟩ := hsv
    have hall : ∀ c ∈ s, Reference.inSpelling c = true := fun c hc =>
      hr.inSpelling_of_mem (hs.mem hc)
    rw [List.takeWhile_append_of_pos hall] at hclose
    exact hclose (List.mem_append_left _ (Reference.close_mem_of_suffix hne hs))

lemma inert_drawingDefaults : TokenTable.drawingDefaults.Inert := by
  have h : ∀ e ∈ TokenTable.drawingDefaults.entries,
      e.2.all Reference.inSpelling = false ∧ 'v' ∉ e.2 ∧
        ')' ∉ e.2.takeWhile Reference.inSpelling := by
    dsimp only [TokenTable.drawingDefaults]
    exact Entries.forall_mem_ofMembers (by decide)
  intro e he
  obtain ⟨hforeign, hletter, hclose⟩ := h e he
  refine inertValue_of_no_letter ?_ hletter hclose
  simpa only [List.all_eq_false, Bool.not_eq_true] using hforeign

/-- What ends a reference does not begin with an inert value, nor within one. -/
lemma InertValue.eq_nil_of_front {v : Text} (hv : InertValue v) {r : Reference} (hr : r.Valid)
    {s u : Text} (hsr : s <:+ r.spell) (hs : s <+: v ++ u) : s = [] := by
  rcases List.prefix_or_prefix_of_prefix hs (List.prefix_append v u) with hsv | hvs
  · by_contra hne
    exact hv.no_end r hr s hne hsv hsr
  · obtain ⟨c, hc, hforeign⟩ := hv.foreign
    have hspell : c ∈ r.spell := hsr.mem (hvs.mem hc)
    rw [hr.inSpelling_of_mem hspell] at hforeign
    cases hforeign

/-- No reference starts in an inert value, whatever follows it. -/
lemma InertValue.quiet {v : Text} (hv : InertValue v) (u : Text) :
    Reference.pattern.Quiet v u := by
  intro s hne hsv
  refine Reference.read_eq_none_iff.mpr fun r hr hpre => ?_
  rcases List.prefix_or_prefix_of_prefix hpre (List.prefix_append s u) with hrs | hsr
  · exact hv.no_reference r hr (hrs.isInfix.trans hsv.isInfix)
  · exact hv.no_start r hr s hne hsv hsr

namespace TokenTable

variable {m n : TokenTable} {r : Reference} {t rest : Text}

lemma Inert.value (hm : m.Inert) {name v : Text} (h : m.get? name = some v) : InertValue v :=
  hm _ (Entries.mem_of_get? h)

/-! ### What stands at the front of a replaced text -/

/-- **Nothing that ends a reference is new**: if it stands at the front of a text in which an
inert table was applied, it stood there before. -/
theorem Inert.prefix_of_prefix_resolve (hm : m.Inert) (hr : r.Valid) {s : Text}
    (hsr : s <:+ r.spell) (hs : s <+: m.resolve t) : s <+: t := by
  induction t using Pattern.scan_induction (p := Reference.pattern) generalizing s with
  | nil => simpa [resolve] using hs
  | hit t q rest hq ih =>
    rw [resolve_of_read hq] at hs
    have ht : t = q.spell ++ rest := Reference.eq_of_read hq
    rcases hget : m.get? q.name with _ | v
    · rw [value_of_get?_eq_none hget] at hs
      rw [ht]
      rcases List.prefix_or_prefix_of_prefix hs (List.prefix_append q.spell _) with hsq | ⟨w, rfl⟩
      · exact hsq.trans (List.prefix_append _ _)
      · refine (List.prefix_append_right_inj _).mpr (ih ?_ ?_)
        · exact (List.suffix_append _ _).trans hsr
        · exact (List.prefix_append_right_inj _).mp hs
    · rw [value_of_get? hget] at hs
      rw [(hm.value hget).eq_nil_of_front hr hsr hs]
      exact List.nil_prefix
  | plain c t hq ih =>
    rw [resolve_cons hq] at hs
    rcases s with _ | ⟨d, s⟩
    · exact List.nil_prefix
    · obtain ⟨rfl, hpre⟩ := List.cons_prefix_cons.mp hs
      exact List.cons_prefix_cons.mpr ⟨rfl, ih ((List.suffix_cons d s).trans hsr) hpre⟩

/-- Where no reference stands, none stands after an inert table was applied behind it. -/
lemma Inert.read_cons (hm : m.Inert) {c : Char} (h : Reference.read (c :: t) = none) :
    Reference.read (c :: m.resolve t) = none := by
  rw [Reference.read_eq_none_iff] at h ⊢
  intro r hr hpre
  rw [← resolve_cons (Reference.read_eq_none_iff.mpr h)] at hpre
  exact h r hr (hm.prefix_of_prefix_resolve hr List.suffix_rfl hpre)

/-! ### Two tables, one after the other -/

/-- **Layers are applied one after the other.** -/
theorem Inert.resolve_resolve (hm : m.Inert) (n : TokenTable) (t : Text) :
    n.resolve (m.resolve t) = (n.extend m).resolve t := by
  induction t using Pattern.scan_induction (p := Reference.pattern) with
  | nil => simp [resolve]
  | hit t r rest hr ih =>
    rw [resolve_of_read hr, resolve_of_read hr, ← ih]
    rcases hget : m.get? r.name with _ | v
    · -- the reference is left to the second table
      have hvalid : r.Valid := Reference.valid_of_read hr
      have hlayer : r.value (n.extend m) = r.value n := by
        rw [Reference.value, get?_extend, hget, Option.none_or, Reference.value]
      rw [value_of_get?_eq_none hget, hlayer, resolve_of_read (hvalid.read_spell_append _)]
    · have hlayer : r.value (n.extend m) = v := by
        rw [Reference.value, get?_extend, hget, Option.some_or, Option.getD_some]
      rw [value_of_get? hget, hlayer, resolve_append_of_quiet ((hm.value hget).quiet _)]
  | plain c t hr ih =>
    rw [resolve_cons hr, resolve_cons hr, resolve_cons (hm.read_cons hr), ih]

/-- **The references that are left** are those to names that the table does not hold. -/
theorem Inert.references_resolve (hm : m.Inert) (t : Text) :
    references (m.resolve t) = (references t).filter fun name => !m.contains name := by
  induction t using Pattern.scan_induction (p := Reference.pattern) with
  | nil => simp [resolve, references]
  | hit t r rest hr ih =>
    rw [resolve_of_read hr, references_of_read hr]
    rcases hget : m.get? r.name with _ | v
    · have hvalid : r.Valid := Reference.valid_of_read hr
      rw [value_of_get?_eq_none hget, references_of_read (hvalid.read_spell_append _), ih,
        List.filter_cons_of_pos (by simp [contains, hget])]
    · rw [value_of_get? hget, references_append_of_quiet ((hm.value hget).quiet _), ih,
        List.filter_cons_of_neg (by simp [contains, hget])]
  | plain c t hr ih =>
    rw [resolve_cons hr, references_cons (hm.read_cons hr), references_cons hr, ih]

lemma resolve_extend_self (m : TokenTable) (t : Text) : (m.extend m).resolve t = m.resolve t := by
  have h : Reference.value (m.extend m) = Reference.value m := by
    funext r
    rw [Reference.value, get?_extend, Option.or_self, Reference.value]
  rw [resolve, h, resolve]

lemma countP_layers (names : List Text) :
    names.countP m.contains + (names.filter fun name => !m.contains name).countP n.contains =
      names.countP (n.extend m).contains := by
  induction names with
  | nil => rfl
  | cons name names ih =>
    have hlayer : (n.extend m).contains name = (m.contains name || n.contains name) :=
      contains_extend n m name
    rcases hm : m.contains name with _ | _
    · rw [hm, Bool.false_or] at hlayer
      rw [List.countP_cons_of_neg (by simp [hm]), List.filter_cons_of_pos (by simp [hm]),
        List.countP_cons, List.countP_cons, hlayer]
      omega
    · rw [hm, Bool.true_or] at hlayer
      rw [List.countP_cons_of_pos hm, List.filter_cons_of_neg (by simp [hm]),
        List.countP_cons_of_pos hlayer]
      omega

end TokenTable

/-- **Replacing in layers.** The drawing defaults are inert. After an inert table, a second
table, inert or not, does what the two do at once, with the first one layered over the second:
the text is the same, the replacements add up and the same names are left without a value.
Applied again, an inert table finds nothing to replace, and the references left by it are those
to names that it does not hold. -/
theorem resolution_layers :
    TokenTable.drawingDefaults.Inert ∧
      ∀ m : TokenTable, m.Inert → ∀ (n : TokenTable) (t : Text),
        (n.resolution (m.resolution t).text).text = ((n.extend m).resolution t).text ∧
          (m.resolution t).replaced + (n.resolution (m.resolution t).text).replaced =
            ((n.extend m).resolution t).replaced ∧
          (n.resolution (m.resolution t).text).unresolved =
            ((n.extend m).resolution t).unresolved ∧
          (m.resolution (m.resolution t).text).text = (m.resolution t).text ∧
          (m.resolution (m.resolution t).text).replaced = 0 ∧
          references (m.resolution t).text =
            (references t).filter fun name => !m.contains name := by
  refine ⟨inert_drawingDefaults, fun m hm n t => ?_⟩
  have hrefs := hm.references_resolve t
  refine ⟨hm.resolve_resolve n t, ?_, ?_, ?_, ?_, hrefs⟩
  · simp only [TokenTable.resolution, hrefs]
    exact TokenTable.countP_layers (references t)
  · simp only [TokenTable.resolution, hrefs, List.filter_filter]
    congr 1
    refine List.filter_congr fun name _ => ?_
    rw [TokenTable.contains_extend, Bool.not_or, Bool.and_comm]
  · exact (hm.resolve_resolve m t).trans (TokenTable.resolve_extend_self m t)
  · simp only [TokenTable.resolution, hrefs, List.countP_eq_zero, List.mem_filter]
    rintro name ⟨-, hname⟩ hmem
    rw [hmem] at hname
    cases hname

theorem resolution_layers_nested_reference :
    TokenTable.drawingDefaults.Inert ∧
      (TokenTable.resolution ⟨[("--t9".toList, "var(--t1)".toList)], List.pairwise_singleton _ _⟩
        (TokenTable.drawingDefaults.resolution
          "var(--t9) var(--var(--t5)) var(--t6)".toList).text).text =
        "var(--t1) var(--0.175px) 0.25px".toList := by
  have h := resolution_layers.2 TokenTable.drawingDefaults resolution_layers.1
    ⟨[("--t9".toList, "var(--t1)".toList)], List.pairwise_singleton _ _⟩
    "var(--t9) var(--var(--t5)) var(--t6)".toList
  refine ⟨resolution_layers.1, ?_⟩
  rw [h.1]
  decide +kernel

/-- An empty value is not inert: it lets a reference close that was open before. -/
example : TokenTable.resolve ⟨[("--a".toList, [])], List.pairwise_singleton _ _⟩
    "var(--bvar(--a))".toList = "var(--b)".toList := by
  decide +kernel

end DrawStyle
