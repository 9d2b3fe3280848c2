import DrawStyle.Merge
import DrawStyle.Proofs.Pattern.Seam
import DrawStyle.Proofs.Text.Runs

/-!
The shape of the rules that are read.

A rule is read exactly where a well-formed rule stands, whatever follows it. A rule for one
given class is read where a rule with that selector is read and nowhere else.
-/

namespace DrawStyle

/-- A class name: one or more letters, digits, underscores and dashes. -/
def IsClassName (name : Text) : Prop := name ≠ [] ∧ ∀ c ∈ name, Rule.inSelector c = true

instance : DecidablePred IsClassName := fun name =>
  decidable_of_iff (name ≠ [] ∧ name.all Rule.inSelector = true)
    (and_congr_right fun _ => List.all_eq_true)

namespace Braced

/-- Only blanks stand in front of the opening brace, and the body holds no closing brace. -/
structure Valid (b : Braced) : Prop where
  gap : ∀ c ∈ b.gap, isBlank c = true
  body : ∀ c ∈ b.body, inBody c = true

lemma valid_of_read {t : Text} {b : Braced} {rest : Text} (h : read t = some (b, rest)) :
    b.Valid := by
  unfold read at h
  split at h
  · split at h
    · cases h
      exact ⟨fun c hc => List.mem_takeWhile_imp hc, fun c hc => List.mem_takeWhile_imp hc⟩
    · cases h
  · cases h

lemma Valid.read_spell_append {b : Braced} (h : b.Valid) (rest : Text) :
    read (b.spell ++ rest) = some (b, rest) := by
  have hgap : isBlank '{' = false := rfl
  have hbody : inBody '}' = false := rfl
  have e : b.spell ++ rest = b.gap ++ '{' :: (b.body ++ '}' :: rest) := by simp [spell]
  simp only [e, read, dropWhile_run h.gap hgap, takeWhile_run h.gap hgap,
    dropWhile_run h.body hbody, takeWhile_run h.body hbody]

end Braced

namespace Rule

/-- The selector is a class name, and the rest is well-formed. -/
structure Valid (r : Rule) : Prop where
  selector : IsClassName r.selector
  braced : r.braced.Valid

lemma valid_of_read {t : Text} {r : Rule} {rest : Text} (h : read t = some (r, rest)) :
    r.Valid := by
  unfold read at h
  split at h
  · split at h
    · cases h
    · next selector hne hsel =>
      simp only [Option.map_eq_some_iff, Prod.mk.injEq] at h
      obtain ⟨⟨b, rest'⟩, hb, rfl, rfl⟩ := h
      refine ⟨⟨by simpa [hsel] using hsel, fun c hc => ?_⟩, Braced.valid_of_read hb⟩
      exact List.mem_takeWhile_imp hc
  · cases h

lemma head_braced {b : Braced} (h : b.Valid) (rest : Text) :
    ∃ c u, b.spell ++ rest = c :: u ∧ inSelector c = false := by
  rcases hg : b.gap with _ | ⟨c, gap⟩
  · exact ⟨'{', b.body ++ '}' :: rest, by simp [Braced.spell, hg], rfl⟩
  · refine ⟨c, gap ++ '{' :: (b.body ++ '}' :: rest), by simp [Braced.spell, hg], ?_⟩
    exact inSelector_of_isBlank (h.gap c (by simp [hg]))

lemma Valid.read_spell_append {r : Rule} (h : r.Valid) (rest : Text) :
    read (r.spell ++ rest) = some (r, rest) := by
  obtain ⟨c, u, hu, hc⟩ := head_braced h.braced rest
  have htake : (r.selector ++ (r.braced.spell ++ rest)).takeWhile inSelector = r.selector := by
    rw [hu, takeWhile_run h.selector.2 hc]
  have hdrop : (r.selector ++ (r.braced.spell ++ rest)).dropWhile inSelector =
      r.braced.spell ++ rest := by
    rw [hu, dropWhile_run h.selector.2 hc]
  have e : r.spell ++ rest = '.' :: (r.selector ++ (r.braced.spell ++ rest)) := by simp [spell]
  simp only [e, read, htake, hdrop, h.braced.read_spell_append, Option.map_some]
  split
  · next hs => exact absurd hs h.selector.1
  · rfl

/-- **A rule is read where a well-formed rule stands**, and nowhere else. -/
theorem read_eq_some_iff {t : Text} {r : Rule} {rest : Text} :
    read t = some (r, rest) ↔ r.Valid ∧ t = r.spell ++ rest := by
  constructor
  · intro h
    exact ⟨valid_of_read h, eq_of_read h⟩
  · rintro ⟨hr, rfl⟩
    exact hr.read_spell_append rest

@[simp] lemma spell_pattern (r : Rule) : pattern.spell r = r.spell := rfl

lemma valid_of_mem_hits {t : Text} {r : Rule} (h : r ∈ pattern.hits t) : r.Valid := by
  obtain ⟨u, rest, hread⟩ := Pattern.exists_read_of_mem_hits h
  exact valid_of_read hread

end Rule

/-- A pattern for the rules with a property, which their characters decide. -/
structure Pattern.Selects (p : Pattern Rule) (P : Rule → Bool) : Prop where
  spell : p.spell = Rule.spell
  read_iff : ∀ {t : Text} {r : Rule} {rest : Text},
    p.read t = some (r, rest) ↔ Rule.read t = some (r, rest) ∧ P r = true

lemma Rule.selects_pattern : Rule.pattern.Selects fun _ => true := ⟨rfl, by simp [pattern]⟩

/-- A rule for a selector, whatever the selector holds, is read where it stands and nowhere
else. -/
theorem Rule.readNamed_eq_some_iff {name t rest : Text} {r : Rule} :
    readNamed name t = some (r, rest) ↔
      r.selector = name ∧ r.braced.Valid ∧ t = r.spell ++ rest := by
  constructor
  · intro h
    have ht := eq_of_readNamed h
    unfold readNamed at h
    split at h
    · simp only [Option.bind_eq_some_iff, Option.map_eq_some_iff, Prod.mk.injEq] at h
      obtain ⟨u, -, ⟨b, rest'⟩, hb, rfl, rfl⟩ := h
      exact ⟨rfl, Braced.valid_of_read hb, ht⟩
    · cases h
  · rintro ⟨rfl, hr, rfl⟩
    simp [readNamed, spell, hr.read_spell_append]

/-- **The rules for one class** are those with its name as selector: a longer name that begins
with it is another class. -/
theorem Rule.selects_patternNamed {name : Text} (hn : IsClassName name) :
    (Rule.patternNamed name).Selects fun r => decide (r.selector = name) := by
  refine ⟨rfl, fun {t r rest} => ?_⟩
  rw [decide_eq_true_iff, Rule.read_eq_some_iff]
  constructor
  · intro h
    obtain ⟨rfl, hr, ht⟩ := Rule.readNamed_eq_some_iff.mp h
    exact ⟨⟨⟨hn, hr⟩, ht⟩, rfl⟩
  · rintro ⟨⟨hr, ht⟩, rfl⟩
    exact Rule.readNamed_eq_some_iff.mpr ⟨rfl, hr.braced, ht⟩

end DrawStyle
