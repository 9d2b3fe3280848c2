import DrawStyle.Proofs.Rule.Shape

/-!
Where a rule could open.

A text opens a rule if it begins with a dot, a class name, blanks and an opening brace;
whether the rule is closed depends on what follows. No rule is read within a text that opens
none, so removing a rule joins two gaps without making a new one, as long as the first of
them does not end like the start of a rule.
-/

namespace DrawStyle

/-- The text begins with a dot, a class name, blanks and an opening brace. -/
def Opens (t : Text) : Prop :=
  ∃ name gap rest : Text, t = '.' :: (name ++ gap ++ '{' :: rest) ∧ IsClassName name ∧
    gap.isBlank = true

/-- The text is a dot, then characters of class names, then blanks; there may be none of
either kind. -/
def HalfOpens (t : Text) : Prop :=
  ∃ name gap : Text, t = '.' :: (name ++ gap) ∧ (∀ c ∈ name, Rule.inSelector c = true) ∧
    gap.isBlank = true

/-- The text ends in a dot, then characters of class names, then blanks. -/
def EndsHalfOpen (t : Text) : Prop := ∃ v, v <:+ t ∧ HalfOpens v

/-- A rule opens somewhere in the text. -/
def HoldsOpening (t : Text) : Prop := ∃ v, v <:+ t ∧ Opens v

/-- No rule opens in `a`, where `b` follows. -/
def Shut (a b : Text) : Prop := Throughout (fun t => ¬ Opens t) a b

/-! ### Deciding where rules open -/

section Decide

variable {t : Text}

lemma opens_iff :
    Opens t ↔ t.head? = some '.' ∧ t.tail.takeWhile Rule.inSelector ≠ [] ∧
      ((t.tail.dropWhile Rule.inSelector).dropWhile isBlank).head? = some '{' := by
  constructor
  · rintro ⟨name, gap, rest, rfl, hn, hg⟩
    have hgap := Text.isBlank_iff.mp hg
    -- what stands behind the name does not go on with it
    obtain ⟨c, v, hv, hc⟩ : ∃ c v, gap ++ '{' :: rest = c :: v ∧ Rule.inSelector c = false := by
      rcases gap with _ | ⟨c, gap⟩
      · exact ⟨'{', rest, rfl, rfl⟩
      · exact ⟨c, gap ++ '{' :: rest, rfl, inSelector_of_isBlank (hgap c (by simp))⟩
    have htail : name ++ gap ++ '{' :: rest = name ++ c :: v := by rw [List.append_assoc, hv]
    refine ⟨rfl, ?_, ?_⟩
    · rw [List.tail_cons, htail, takeWhile_run hn.2 hc]
      exact hn.1
    · rw [List.tail_cons, htail, dropWhile_run hn.2 hc, ← hv, dropWhile_run hgap rfl]
      rfl
  · rintro ⟨hdot, hne, hbrace⟩
    obtain ⟨u, rfl⟩ := List.head?_eq_some_iff.mp hdot
    obtain ⟨rest, hrest⟩ := List.head?_eq_some_iff.mp hbrace
    refine ⟨u.takeWhile Rule.inSelector, (u.dropWhile Rule.inSelector).takeWhile isBlank, rest, ?_,
      ⟨hne, fun c hc => List.mem_takeWhile_imp hc⟩,
      Text.isBlank_iff.mpr fun c hc => List.mem_takeWhile_imp hc⟩
    rw [List.tail_cons] at hrest
    rw [← hrest, List.append_assoc, List.takeWhile_append_dropWhile,
      List.takeWhile_append_dropWhile]

lemma halfOpens_iff :
    HalfOpens t ↔ t.head? = some '.' ∧ Text.isBlank (t.tail.dropWhile Rule.inSelector) = true := by
  constructor
  · rintro ⟨name, gap, rfl, hn, hg⟩
    refine ⟨rfl, Text.isBlank_iff.mpr fun c hc => ?_⟩
    rw [List.tail_cons, List.dropWhile_append_of_pos hn] at hc
    exact Text.isBlank_iff.mp hg c ((List.dropWhile_suffix _).mem hc)
  · rintro ⟨hdot, hu⟩
    obtain ⟨u, rfl⟩ := List.head?_eq_some_iff.mp hdot
    exact ⟨u.takeWhile Rule.inSelector, u.dropWhile Rule.inSelector,
      by rw [List.takeWhile_append_dropWhile], fun c hc => List.mem_takeWhile_imp hc, hu⟩

instance : DecidablePred Opens := fun _ => decidable_of_iff _ opens_iff.symm

instance : DecidablePred HalfOpens := fun _ => decidable_of_iff _ halfOpens_iff.symm

instance : DecidablePred EndsHalfOpen := fun t =>
  decidable_of_iff (∃ v ∈ t.tails, HalfOpens v) (by simp [EndsHalfOpen])

instance : DecidablePred HoldsOpening := fun t =>
  decidable_of_iff (∃ v ∈ t.tails, Opens v) (by simp [HoldsOpening])

end Decide

/-! ### Where no rule opens -/

/-- What opens a rule may end before the rule has opened; the rest of the opening follows. -/
lemma Opens.of_append {v b : Text} (h : Opens (v ++ b)) (hv : v ≠ []) :
    Opens v ∨ HalfOpens v ∧
      ∃ u rest, b = u ++ '{' :: rest ∧ ∀ c ∈ u, Rule.inSelector c = true ∨ isBlank c = true := by
  obtain ⟨name, gap, rest, ht, hn, hg⟩ := h
  rcases v with _ | ⟨c, v⟩
  · exact absurd rfl hv
  obtain ⟨rfl, he⟩ : c = '.' ∧ v ++ b = name ++ gap ++ '{' :: rest := by simpa using ht
  have hall : ∀ c ∈ name ++ gap, Rule.inSelector c = true ∨ isBlank c = true := by
    intro c hc
    rcases List.mem_append.mp hc with hc | hc
    · exact Or.inl (hn.2 c hc)
    · exact Or.inr (Text.isBlank_iff.mp hg c hc)
  rcases List.append_eq_append_iff.mp he with ⟨u, hu, rfl⟩ | ⟨u, rfl, hu⟩
  · -- the brace stands behind `v`
    refine Or.inr ⟨?_, u, rest, rfl, fun c hc => hall c (by rw [hu]; simp [hc])⟩
    rcases List.append_eq_append_iff.mp hu with ⟨w, rfl, hw⟩ | ⟨w, rfl, hw⟩
    · refine ⟨name, w, rfl, hn.2, Text.isBlank_iff.mpr fun c hc => ?_⟩
      exact Text.isBlank_iff.mp hg c (by rw [hw]; simp [hc])
    · exact ⟨v, [], by simp, fun c hc => hn.2 c (by simp [hc]), rfl⟩
  · rcases u with _ | ⟨d, u⟩
    · refine Or.inr ⟨⟨name, gap, by simp, hn.2, hg⟩, [], rest, by simpa using hu.symm, by simp⟩
    · obtain ⟨rfl, -⟩ : '{' = d ∧ rest = u ++ b := by simpa using hu
      exact Or.inl ⟨name, gap, u, rfl, hn, hg⟩

lemma opens_of_read {t : Text} {r : Rule} {rest : Text} (h : Rule.read t = some (r, rest)) :
    Opens t := by
  obtain ⟨hr, rfl⟩ := Rule.read_eq_some_iff.mp h
  exact ⟨r.selector, r.braced.gap, r.braced.body ++ '}' :: rest,
    by simp [Rule.spell, Braced.spell], hr.selector, Text.isBlank_iff.mpr hr.braced.gap⟩

lemma Pattern.Selects.quiet {p : Pattern Rule} {P : Rule → Bool} (hp : p.Selects P) {a b : Text}
    (h : Shut a b) : p.Quiet a b := by
  refine h.mono fun t ht => ?_
  rcases hr : p.read t with _ | ⟨r, rest⟩
  · rfl
  · exact absurd (opens_of_read (hp.read_iff.mp hr).1) ht

lemma shut_append {a a' b : Text} : Shut (a ++ a') b ↔ Shut a (a' ++ b) ∧ Shut a' b :=
  throughout_append

lemma shut_of_no_dot {a b : Text} (h : '.' ∉ a) : Shut a b := by
  rintro v hv hs ⟨name, gap, rest, ht, -⟩
  rcases v with _ | ⟨c, v⟩
  · exact hv rfl
  · obtain ⟨rfl, -⟩ : c = '.' ∧ v ++ b = name ++ gap ++ '{' :: rest := by simpa using ht
    exact h (hs.mem (by simp))

/-- At the end of a text, a gap without an opening opens no rule. -/
lemma shut_of_end {a : Text} (h : ¬ HoldsOpening a) : Shut a [] := fun v _ hs ho =>
  h ⟨v, hs, by simpa using ho⟩

/-- A gap that opens no rule and does not end like the start of one opens none, whatever
follows. -/
lemma shut_of_gap {a : Text} (h : ¬ HoldsOpening a) (he : ¬ EndsHalfOpen a) (b : Text) :
    Shut a b := by
  intro v hv hs ho
  rcases ho.of_append hv with ho | ⟨hh, -⟩
  · exact h ⟨v, hs, ho⟩
  · exact he ⟨v, hs, hh⟩

/-- A text that opens no rule opens none before a character that can stand in no opening, if
no brace stands in between. -/
lemma shut_of_stop {a u rest : Text} {c : Char} (h : ¬ HoldsOpening a)
    (hu : ∀ d ∈ u, d ≠ '{') (hc : c ≠ '{') (hsel : Rule.inSelector c = false)
    (hblank : isBlank c = false) : Shut a (u ++ c :: rest) := by
  intro v hv hs ho
  rcases ho.of_append hv with ho | ⟨-, w, rest', hw, hall⟩
  · exact h ⟨v, hs, ho⟩
  · -- the brace cannot stand before `c`, and `c` cannot stand before the brace
    rcases mem_or_mem_of_append_cons_eq hc hw with hmem | hmem
    · rcases hall c hmem with h' | h'
      · rw [hsel] at h'; cases h'
      · rw [hblank] at h'; cases h'
    · exact hu '{' hmem rfl

/-- Behind its dot, a rule whose body holds no brace opens no other rule. -/
lemma Rule.Valid.shut {r : Rule} (h : r.Valid) (hbody : '{' ∉ r.braced.body) (b : Text) :
    Shut (r.selector ++ r.braced.spell) b := by
  have hbody' : ¬ HoldsOpening r.braced.body := by
    rintro ⟨v, hs, name, gap, rest, rfl, -⟩
    exact hbody (hs.mem (by simp))
  have hsel : '.' ∉ r.selector := not_mem_run h.selector.2 rfl
  have hgap : '.' ∉ r.braced.gap := not_mem_run h.braced.gap rfl
  have e : r.selector ++ r.braced.spell =
      (r.selector ++ r.braced.gap ++ ['{']) ++ (r.braced.body ++ ['}']) := by
    simp [Braced.spell]
  rw [e]
  refine shut_append.mpr ⟨shut_of_no_dot (by simp [hsel, hgap]), shut_append.mpr ⟨?_, ?_⟩⟩
  · exact shut_of_stop (u := []) hbody' (by simp) (by decide) rfl rfl
  · exact shut_of_no_dot (by simp)

end DrawStyle
