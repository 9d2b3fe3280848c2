import DrawStyle.Token.Reference
import DrawStyle.Proofs.Pattern.Seam
import DrawStyle.Proofs.Text.Runs
import DrawStyle.Proofs.Token.Entries

/-!
The shape of the references that are read, and where they are replaced.

A reference is read exactly where a well-formed reference stands, whatever follows it. All of
its characters are letters, digits, dashes and parentheses, so references are replaced one by
one on the two sides of any other character.
-/

namespace DrawStyle

namespace Reference

/-- The name behind the dashes is not empty and made of the characters of token names. -/
structure Valid (r : Reference) : Prop where
  ne_nil : r.bare ≠ []
  bare : ∀ c ∈ r.bare, inTokenName c = true

/-- The characters of references. -/
def inSpelling (c : Char) : Bool := inTokenName c || c == '(' || c == ')'

variable {r : Reference} {t rest : Text}

lemma valid_of_read (h : read t = some (r, rest)) : r.Valid := by
  unfold read at h
  split at h
  · cases h
  · next u hu =>
    split at h
    · next c bare rest' hb hr =>
      cases h
      refine ⟨by simp, fun d hd => ?_⟩
      rw [← hb] at hd
      exact List.mem_takeWhile_imp hd
    · cases h

lemma Valid.read_spell_append (h : r.Valid) (rest : Text) :
    read (r.spell ++ rest) = some (r, rest) := by
  have hclose : inTokenName ')' = false := rfl
  have e : r.spell ++ rest = opening ++ (r.bare ++ ')' :: rest) := by simp [spell]
  obtain ⟨bare⟩ := r
  rcases bare with _ | ⟨c, bare⟩
  · exact absurd rfl h.ne_nil
  · simp only [e, read, afterFront?_append, takeWhile_run h.bare hclose,
      dropWhile_run h.bare hclose]

/-- **A reference is read where a well-formed reference stands**, and nowhere else. -/
theorem read_eq_some_iff : read t = some (r, rest) ↔ r.Valid ∧ t = r.spell ++ rest := by
  constructor
  · intro h
    exact ⟨valid_of_read h, eq_of_read h⟩
  · rintro ⟨hr, rfl⟩
    exact hr.read_spell_append rest

@[simp] lemma spell_pattern (r : Reference) : pattern.spell r = r.spell := rfl

lemma exact_pattern : pattern.Exact :=
  fun h u => (valid_of_read h).read_spell_append u

lemma read_eq_none_iff : read t = none ↔ ∀ r : Reference, r.Valid → ¬ r.spell <+: t := by
  constructor
  · rintro h r hr ⟨rest, rfl⟩
    rw [hr.read_spell_append rest] at h
    cases h
  · intro h
    rcases hread : read t with _ | ⟨r, rest⟩
    · rfl
    · obtain ⟨hr, ht⟩ := read_eq_some_iff.mp hread
      exact absurd ⟨rest, ht.symm⟩ (h r hr)

lemma Valid.inSpelling_of_mem (h : r.Valid) {c : Char} (hc : c ∈ r.spell) :
    inSpelling c = true := by
  have hopening : ∀ d ∈ opening, inSpelling d = true := List.all_eq_true.mp rfl
  rcases List.mem_append.mp hc with hc | hc
  · rcases List.mem_append.mp hc with hc | hc
    · exact hopening c hc
    · simp [inSpelling, h.bare c hc]
  · rw [List.mem_singleton.mp hc]
    decide

/-- What a reference begins with, if it is not empty, begins with its first letter. -/
lemma letter_mem_of_front {s : Text} (hne : s ≠ []) (hs : s <+: r.spell) : 'v' ∈ s := by
  rcases s with _ | ⟨c, s⟩
  · exact absurd rfl hne
  · obtain ⟨w, hw⟩ := hs
    obtain ⟨rfl, -⟩ : c = 'v' ∧ s ++ w = opening.tail ++ r.bare ++ [')'] := by
      simpa [spell, opening] using hw
    exact List.mem_cons_self

/-- What a reference ends with, if it is not empty, ends with its closing parenthesis. -/
lemma close_mem_of_suffix {s : Text} (hne : s ≠ []) (hs : s <:+ r.spell) : ')' ∈ s := by
  obtain ⟨w, hw⟩ := hs
  have hlast : s.getLast hne = ')' := by
    have h := congrArg List.getLast? hw
    rw [List.getLast?_append_of_ne_nil _ hne, List.getLast?_eq_some_getLast hne] at h
    simpa [spell] using h
  exact hlast ▸ List.getLast_mem hne

lemma read_cons_of_ne {c : Char} (hc : c ≠ 'v') (t : Text) : read (c :: t) = none := by
  refine read_eq_none_iff.mpr fun r _ ⟨rest, h⟩ => hc ?_
  obtain ⟨h, -⟩ : 'v' = c ∧ opening.tail ++ r.bare ++ [')'] ++ rest = t := by
    simpa [spell, opening] using h
  exact h.symm

lemma quiet_of_no_letter {s : Text} (hs : 'v' ∉ s) (t : Text) : pattern.Quiet s t := by
  intro v hv hsuffix
  rcases v with _ | ⟨c, v⟩
  · exact absurd rfl hv
  · refine read_cons_of_ne ?_ (v ++ t)
    rintro rfl
    exact hs (hsuffix.mem List.mem_cons_self)

/-- No reference starts behind the first letter of another one and within it. -/
lemma Valid.quiet_tail (h : r.Valid) (t : Text) : pattern.Quiet r.spell.tail t := by
  have htail : r.spell.tail = opening.tail ++ (r.bare ++ [')']) := by simp [spell, opening]
  rw [htail, Pattern.Quiet, throughout_append, throughout_append]
  refine ⟨quiet_of_no_letter (by decide) _, fun v _ hsuffix => ?_, quiet_of_no_letter (by decide) t⟩
  -- a reference would have its opening parenthesis among the characters of the name
  refine read_eq_none_iff.mpr ?_
  rintro q - ⟨rest, hq⟩
  have hcut : ['v', 'a', 'r'] ++ '(' :: ('-' :: '-' :: q.bare ++ [')'] ++ rest) =
      v ++ ')' :: t := by simpa [spell, opening] using hq
  rcases mem_or_mem_of_append_cons_eq (by decide) hcut with hmem | hmem
  · exact not_mem_run h.bare rfl (hsuffix.mem hmem)
  · exact absurd hmem (by decide)

/-- A character that may not stand in a reference ends what references start before it. -/
lemma apart_of_foreign {c : Char} (hc : inSpelling c = false) (s t : Text) :
    pattern.Apart s (c :: t) := by
  intro v _ _ r rest hread
  obtain ⟨hr, ht⟩ := read_eq_some_iff.mp hread
  rcases List.prefix_or_prefix_of_prefix ⟨rest, ht.symm⟩ (List.prefix_append v (c :: t)) with
    hrv | ⟨w, hw⟩
  · exact hrv
  · rcases w with _ | ⟨d, w⟩
    · exact ⟨[], by simpa using hw.symm⟩
    · -- the reference would go on with `c`
      rw [← hw, List.append_assoc] at ht
      obtain ⟨rfl, -⟩ : c = d ∧ t = w ++ rest := by simpa using ht
      have hmem : c ∈ r.spell := hw ▸ List.mem_append_right v List.mem_cons_self
      rw [hr.inSpelling_of_mem hmem] at hc
      cases hc

lemma quiet_of_no_paren {c : Char} (hc : inSpelling c = false) {s : Text} (hs : '(' ∉ s)
    (t : Text) : pattern.Quiet s (c :: t) := by
  intro v hv hsuffix
  refine read_eq_none_iff.mpr fun r hr ⟨rest, h⟩ => hs (hsuffix.mem ?_)
  have hread : read (v ++ c :: t) = some (r, rest) := read_eq_some_iff.mpr ⟨hr, h.symm⟩
  exact (apart_of_foreign hc s t v hv hsuffix r rest hread).mem (by simp [spell, opening])

end Reference

/-! ### Replacing references -/

namespace TokenTable

variable {m : TokenTable} {r : Reference} {s t rest : Text}

lemma value_of_get? {v : Text} (h : m.get? r.name = some v) : r.value m = v := by
  rw [Reference.value, h, Option.getD_some]

lemma value_of_get?_eq_none (h : m.get? r.name = none) : r.value m = r.spell := by
  rw [Reference.value, h, Option.getD_none]

lemma resolve_of_read (h : Reference.read t = some (r, rest)) :
    m.resolve t = r.value m ++ m.resolve rest :=
  Pattern.replace_of_read (p := Reference.pattern) _ h

lemma resolve_cons {c : Char} (h : Reference.read (c :: t) = none) :
    m.resolve (c :: t) = c :: m.resolve t :=
  Pattern.replace_cons (p := Reference.pattern) _ h

@[simp] lemma references_nil : references [] = [] := by simp [references]

lemma references_of_read (h : Reference.read t = some (r, rest)) :
    references t = r.name :: references rest := by
  rw [references, Pattern.hits_of_read (p := Reference.pattern) h, List.map_cons, references]

lemma references_cons {c : Char} (h : Reference.read (c :: t) = none) :
    references (c :: t) = references t := by
  rw [references, Pattern.hits_cons (p := Reference.pattern) h, references]

lemma resolve_append_of_quiet (h : Reference.pattern.Quiet s t) :
    m.resolve (s ++ t) = s ++ m.resolve t :=
  Pattern.replace_append_of_quiet h _

lemma references_append_of_quiet (h : Reference.pattern.Quiet s t) :
    references (s ++ t) = references t := by
  rw [references, Pattern.hits_append_of_quiet h, references]

/-- What stands behind a text adds its references to those of the text, if a character that may
not stand in a reference comes between. -/
lemma references_append_foreign {c : Char} (hc : Reference.inSpelling c = false) (s t : Text) :
    references (s ++ c :: t) = references s ++ references t := by
  have hne : c ≠ 'v' := by
    rintro rfl
    cases hc
  rw [← references_cons (Reference.read_cons_of_ne hne t), references, references, references,
    Pattern.hits_append Reference.exact_pattern (Reference.apart_of_foreign hc s t),
    List.map_append]

/-- Replacing goes on from the start behind a character that may not stand in a reference. -/
lemma resolve_append_foreign {c : Char} (hc : Reference.inSpelling c = false) (s t : Text) :
    m.resolve (s ++ c :: t) = m.resolve s ++ m.resolve (c :: t) :=
  Pattern.replace_append Reference.exact_pattern (Reference.apart_of_foreign hc s t) _

/-! ### The names that are accounted for -/

lemma mem_insertName {name k : Text} {names : List Text} :
    k ∈ insertName name names ↔ k = name ∨ k ∈ names := by
  induction names with
  | nil => simp [insertName]
  | cons j names ih =>
    rw [insertName]
    split
    · simp
    · split
      · next heq => simp [heq]
      · rw [List.mem_cons, ih, List.mem_cons]
        tauto

lemma mem_sortedNames {name : Text} {names : List Text} :
    name ∈ sortedNames names ↔ name ∈ names := by
  have hfold : ∀ sorted : List Text,
      name ∈ names.foldl (fun ks k => insertName k ks) sorted ↔ name ∈ sorted ∨ name ∈ names := by
    induction names with
    | nil => simp
    | cons k names ih =>
      intro sorted
      rw [List.foldl_cons, ih, mem_insertName, List.mem_cons]
      tauto
  rw [sortedNames, hfold]
  simp

lemma pairwise_insertName {names : List Text} (h : names.Pairwise (· < ·)) (name : Text) :
    (insertName name names).Pairwise (· < ·) := by
  induction names with
  | nil => exact List.pairwise_singleton _ _
  | cons j names ih =>
    obtain ⟨hfirst, hrest⟩ := List.pairwise_cons.mp h
    rw [insertName]
    split
    · next hlt =>
      refine List.pairwise_cons.mpr ⟨fun k hk => ?_, h⟩
      rcases List.mem_cons.mp hk with rfl | hk
      · exact hlt
      · exact List.lt_trans hlt (hfirst k hk)
    · next hnot =>
      split
      · exact h
      · next hne =>
        refine List.pairwise_cons.mpr ⟨fun k hk => ?_, ih hrest⟩
        rcases mem_insertName.mp hk with rfl | hk
        · exact (List.le_iff_lt_or_eq.mp (List.not_lt.mp hnot)).resolve_right (Ne.symm hne)
        · exact hfirst k hk

lemma pairwise_sortedNames (names : List Text) : (sortedNames names).Pairwise (· < ·) := by
  have hfold : ∀ sorted : List Text, sorted.Pairwise (· < ·) →
      (names.foldl (fun ks k => insertName k ks) sorted).Pairwise (· < ·) := by
    induction names with
    | nil => exact fun sorted h => h
    | cons k names ih => exact fun sorted h => ih _ (pairwise_insertName h k)
  exact hfold [] List.Pairwise.nil

/-- The names that are reported are those which the text refers to and the table does not hold. -/
lemma mem_unresolved_iff {name : Text} :
    name ∈ (m.resolution t).unresolved ↔ name ∈ references t ∧ m.contains name = false := by
  rw [resolution, mem_sortedNames, List.mem_filter, Bool.not_eq_true']

/-! ### Characters of a replaced text -/

/-- What is found in a replaced text comes from the text or from the table. -/
lemma mem_resolve {c : Char} (hc : c ∈ m.resolve t) : c ∈ t ∨ ∃ e ∈ m.entries, c ∈ e.2 := by
  induction t using Pattern.scan_induction (p := Reference.pattern) with
  | nil => simp [resolve] at hc
  | hit t r rest hr ih =>
    rw [resolve_of_read hr] at hc
    rw [Reference.eq_of_read hr]
    rcases List.mem_append.mp hc with hc | hc
    · rcases hget : m.get? r.name with _ | v
      · rw [value_of_get?_eq_none hget] at hc
        exact Or.inl (List.mem_append_left _ hc)
      · rw [value_of_get? hget] at hc
        exact Or.inr ⟨_, Entries.mem_of_get? hget, hc⟩
    · exact (ih hc).imp_left (List.mem_append_right _)
  | plain d t hr ih =>
    rw [resolve_cons hr] at hc
    rcases List.mem_cons.mp hc with rfl | hc
    · exact Or.inl List.mem_cons_self
    · exact (ih hc).imp_left (List.mem_cons_of_mem _)

end TokenTable

/-! ### References behind others -/

/-- A character in front of a text takes away no more than the reference that starts with it. -/
lemma references_cons_sublist (c : Char) (t : Text) :
    (references t).Sublist (references (c :: t)) := by
  rcases hread : Reference.read (c :: t) with _ | ⟨r, rest⟩
  · rw [TokenTable.references_cons hread]
  · obtain ⟨hr, ht⟩ := Reference.read_eq_some_iff.mp hread
    have htail : t = r.spell.tail ++ rest := by
      have h := congrArg List.tail ht
      rwa [List.tail_append_of_ne_nil r.spell_ne_nil] at h
    rw [TokenTable.references_of_read hread, htail,
      TokenTable.references_append_of_quiet (hr.quiet_tail rest)]
    exact List.sublist_cons_self _ _

/-- **The references of a text are found behind any other text.** -/
theorem references_append_sublist (s t : Text) :
    (references t).Sublist (references (s ++ t)) := by
  induction s with
  | nil => exact List.Sublist.refl _
  | cons c s ih => exact ih.trans (references_cons_sublist c (s ++ t))

end DrawStyle
