import DrawStyle.Proofs.Rule.Blocks
import DrawStyle.Proofs.Rule.Fits
import DrawStyle.Proofs.Rule.Opening

/-!
Laying an override over a flat stylesheet.

A stylesheet is flat if no rule opens within a body, no gap ends like the start of a rule and
no rule is left open. Taking the rules for a class out of a flat stylesheet takes out exactly
those rules: the gaps that meet make no new rule and swallow none. So the rules for all
classes of an override can be taken out one class after the other, in any order.
-/

namespace DrawStyle

/-- The rules are well-formed and open no other rule, no gap opens one whatever follows it,
and the tail opens none where `b` follows. -/
structure Sections.Flat (s : Sections Rule) (b : Text) : Prop where
  valid : ∀ r ∈ s.hits, r.Valid
  body : ∀ r ∈ s.hits, '{' ∉ r.braced.body
  gap : ∀ part ∈ s.parts, ∀ u, Shut part.1 u
  tail : Shut s.tail b

section Scan

variable {p : Pattern Rule} {P : Rule → Bool} {r : Rule} {b : Text}

lemma Pattern.Selects.read_spell_append (hp : p.Selects P) (hr : r.Valid) (hP : P r = true)
    (rest : Text) : p.read (r.spell ++ rest) = some (r, rest) :=
  hp.read_iff.mpr ⟨hr.read_spell_append rest, hP⟩

lemma Pattern.Selects.quiet_spell (hp : p.Selects P) (hr : r.Valid)
    (hbody : '{' ∉ r.braced.body) (hP : P r = false) (rest : Text) :
    p.Quiet r.spell rest := by
  have e : r.spell = '.' :: (r.selector ++ r.braced.spell) := by simp [Rule.spell]
  have hdot : p.read (r.spell ++ rest) = none := by
    rcases hread : p.read (r.spell ++ rest) with _ | ⟨q, rest'⟩
    · rfl
    · obtain ⟨hq, hPq⟩ := hp.read_iff.mp hread
      rw [hr.read_spell_append rest] at hq
      cases hq
      rw [hP] at hPq; cases hPq
  rw [e] at hdot ⊢
  exact throughout_cons.mpr ⟨hdot, hp.quiet (hr.shut hbody rest)⟩

lemma Sections.Flat.of_cons {gap tail : Text} {parts : List (Text × Rule)}
    (h : Sections.Flat ⟨(gap, r) :: parts, tail⟩ b) :
    r.Valid ∧ '{' ∉ r.braced.body ∧ (∀ u, Shut gap u) ∧ Sections.Flat ⟨parts, tail⟩ b := by
  refine ⟨h.valid r (by simp [Sections.hits]), h.body r (by simp [Sections.hits]),
    h.gap (gap, r) (by simp), ⟨fun q hq => ?_, fun q hq => ?_, fun part hpart => ?_, h.tail⟩⟩
  · exact h.valid q (by simp only [Sections.hits] at hq ⊢; simp [hq])
  · exact h.body q (by simp only [Sections.hits] at hq ⊢; simp [hq])
  · exact h.gap part (by simp [hpart])

/-- **Erasing from a flat stylesheet** drops the rules that are looked for and nothing else. -/
theorem Sections.Flat.erase_keeping (hp : p.Selects P) {s : Sections Rule} (hs : s.Flat b)
    (keep : Rule → Bool) :
    p.erase (s.keeping Rule.pattern keep ++ b) =
      s.keeping Rule.pattern (fun r => keep r && !P r) ++ p.erase b := by
  obtain ⟨parts, tail⟩ := s
  induction parts with
  | nil => simp [Pattern.erase_append_of_quiet (hp.quiet hs.tail)]
  | cons part parts ih =>
    obtain ⟨gap, r⟩ := part
    obtain ⟨hr, hbody, hgap, hrest⟩ := hs.of_cons
    rw [Sections.keeping_cons, Sections.keeping_cons, List.append_assoc, List.append_assoc,
      Pattern.erase_append_of_quiet (hp.quiet (hgap _)), List.append_assoc, List.append_assoc,
      ← ih hrest]
    congr 1
    rcases keep r with _ | _
    · simp
    · rcases hP : P r with _ | _
      · simpa using Pattern.erase_append_of_quiet (hp.quiet_spell hr hbody hP _)
      · simpa using Pattern.erase_of_read (hp.read_spell_append hr hP _)

/-- **Scanning a flat stylesheet** finds the rules that are left in it. -/
theorem Sections.Flat.hits_keeping (hp : p.Selects P) {s : Sections Rule} (hs : s.Flat b)
    (keep : Rule → Bool) :
    p.hits (s.keeping Rule.pattern keep ++ b) =
      (s.hits.filter fun r => keep r && P r) ++ p.hits b := by
  obtain ⟨parts, tail⟩ := s
  induction parts with
  | nil => simp [Pattern.hits_append_of_quiet (hp.quiet hs.tail), Sections.hits]
  | cons part parts ih =>
    obtain ⟨gap, r⟩ := part
    obtain ⟨hr, hbody, hgap, hrest⟩ := hs.of_cons
    have hhits : Sections.hits ⟨(gap, r) :: parts, tail⟩ = r :: Sections.hits ⟨parts, tail⟩ := rfl
    rw [Sections.keeping_cons, List.append_assoc, hhits,
      Pattern.hits_append_of_quiet (hp.quiet (hgap _)), List.append_assoc]
    rcases hk : keep r with _ | _
    · simpa [hk] using ih hrest
    · rcases hP : P r with _ | _
      · have hquiet := Pattern.hits_append_of_quiet (hp.quiet_spell hr hbody hP
          (Sections.keeping Rule.pattern keep ⟨parts, tail⟩ ++ b))
        simpa [hk, hP, ih hrest] using hquiet
      · have hread := Pattern.hits_of_read (hp.read_spell_append hr hP
          (Sections.keeping Rule.pattern keep ⟨parts, tail⟩ ++ b))
        simpa [hk, hP, ih hrest] using hread

end Scan

/-! ### Taking out the rules for several classes -/

section Turn

variable {t name : Text}

lemma removeBlocks_cons_of_not_fits (h : Rule.fits name = false) (t : Text) (names : List Text) :
    removeBlocks t (name :: names) = removeBlocks t names := by
  simp only [removeBlocks, Rule.patternNamed?_eq_none h]

lemma removeBlocks_of_hits_eq_nil (h : (Rule.patternNamed name).hits t = []) (names : List Text) :
    removeBlocks t (name :: names) = removeBlocks t names := by
  rcases hfits : Rule.fits name with _ | _
  · exact removeBlocks_cons_of_not_fits hfits t names
  · simp [removeBlocks, Rule.patternNamed?_of_fits hfits, Pattern.occursIn, h]

lemma removeBlocks_of_hits_ne_nil (hfits : Rule.fits name = true)
    (h : (Rule.patternNamed name).hits t ≠ []) (names : List Text) :
    removeBlocks t (name :: names) =
      ⟨(removeBlocks ((Rule.patternNamed name).erase t) names).text,
        name :: (removeBlocks ((Rule.patternNamed name).erase t) names).removed⟩ := by
  simp [removeBlocks, Rule.patternNamed?_of_fits hfits, Pattern.occursIn, h]

lemma removeBlocks_cons (hfits : Rule.fits name = true) (t : Text) (names : List Text) :
    (removeBlocks t (name :: names)).text =
        (removeBlocks ((Rule.patternNamed name).erase t) names).text ∧
      (removeBlocks t (name :: names)).removed =
        (if (Rule.patternNamed name).hits t = [] then [] else [name]) ++
          (removeBlocks ((Rule.patternNamed name).erase t) names).removed := by
  by_cases hhits : (Rule.patternNamed name).hits t = []
  · have herase : (Rule.patternNamed name).erase t = t := Pattern.replace_of_hits_eq_nil hhits _
    rw [removeBlocks_of_hits_eq_nil hhits, herase, if_pos hhits]
    exact ⟨rfl, rfl⟩
  · rw [removeBlocks_of_hits_ne_nil hfits hhits, if_neg hhits]
    exact ⟨rfl, rfl⟩

lemma removeBlocks_of_not_fits {names : List Text} (h : ∀ name ∈ names, Rule.fits name = false)
    (t : Text) : removeBlocks t names = ⟨t, []⟩ := by
  induction names with
  | nil => rfl
  | cons name names ih =>
    rw [List.forall_mem_cons] at h
    rw [removeBlocks_cons_of_not_fits h.1, ih h.2]

/-- What is left is what the turns leave of the text, one after the other. -/
theorem text_removeBlocks_eq_foldl (t : Text) (names : List Text) :
    (removeBlocks t names).text =
      (names.filter Rule.fits).foldl (fun t name => (Rule.patternNamed name).erase t) t := by
  induction names generalizing t with
  | nil => rfl
  | cons name names ih =>
    rcases hfits : Rule.fits name with _ | _
    · rw [List.filter_cons_of_neg (Bool.eq_false_iff.mp hfits), ← ih,
        removeBlocks_cons_of_not_fits hfits]
    · rw [List.filter_cons_of_pos hfits, List.foldl_cons, ← ih, (removeBlocks_cons hfits t names).1]

lemma removeBlocks_append (t : Text) (names names' : List Text) :
    (removeBlocks t (names ++ names')).text =
      (removeBlocks (removeBlocks t names).text names').text := by
  simp only [text_removeBlocks_eq_foldl, List.filter_append, List.foldl_append]

end Turn

section Remove

variable {s : Sections Rule} {names : List Text}

/-- The rules for a class in a flat stylesheet of which only some rules are left. -/
lemma Sections.Flat.hits_named (hs : s.Flat []) {name : Text} (hn : IsClassName name)
    (keep : Rule → Bool) :
    (Rule.patternNamed name).hits (s.keeping Rule.pattern keep) =
      s.hits.filter fun r => keep r && decide (r.selector = name) := by
  simpa using hs.hits_keeping (Rule.selects_patternNamed hn) keep

lemma Sections.Flat.erase_named (hs : s.Flat []) {name : Text} (hn : IsClassName name)
    (keep : Rule → Bool) :
    (Rule.patternNamed name).erase (s.keeping Rule.pattern keep) =
      s.keeping Rule.pattern fun r => keep r && !decide (r.selector = name) := by
  simpa using hs.erase_keeping (Rule.selects_patternNamed hn) keep

/-- Whatever the order of the classes, what is left are the rules for other classes. -/
lemma Sections.Flat.text_removeBlocks (hs : s.Flat []) (hn : ∀ name ∈ names, IsClassName name)
    (keep : Rule → Bool) :
    (removeBlocks (s.keeping Rule.pattern keep) names).text =
      s.keeping Rule.pattern fun r => keep r && decide (r.selector ∉ names.filter Rule.fits) := by
  induction names generalizing keep with
  | nil => simp [removeBlocks]
  | cons name names ih =>
    rw [List.forall_mem_cons] at hn
    rcases hfits : Rule.fits name with _ | _
    · rw [removeBlocks_cons_of_not_fits hfits, List.filter_cons_of_neg (Bool.eq_false_iff.mp hfits),
        ih hn.2]
    · rw [(removeBlocks_cons hfits _ names).1, hs.erase_named hn.1, ih hn.2,
        List.filter_cons_of_pos hfits]
      congr 1
      ext r
      by_cases h : r.selector = name <;> simp [h]

/-- A class is listed as removed if one of the rules was for it. -/
lemma Sections.Flat.removed_removeBlocks (hs : s.Flat [])
    (hn : ∀ name ∈ names, IsClassName name) (hnodup : names.Nodup) (keep : Rule → Bool) :
    (removeBlocks (s.keeping Rule.pattern keep) names).removed =
      (names.filter Rule.fits).filter fun name =>
        s.hits.any fun r => keep r && decide (r.selector = name) := by
  induction names generalizing keep with
  | nil => simp [removeBlocks]
  | cons name names ih =>
    rw [List.forall_mem_cons] at hn
    obtain ⟨hfresh, hnodup⟩ := List.nodup_cons.mp hnodup
    rcases hfits : Rule.fits name with _ | _
    · rw [removeBlocks_cons_of_not_fits hfits, List.filter_cons_of_neg (Bool.eq_false_iff.mp hfits),
        ih hn.2 hnodup]
    · rw [(removeBlocks_cons hfits _ names).2, hs.hits_named hn.1, hs.erase_named hn.1,
        ih hn.2 hnodup, List.filter_cons_of_pos hfits]
      have hrest : ((names.filter Rule.fits).filter fun n => s.hits.any fun r =>
            (keep r && !decide (r.selector = name)) && decide (r.selector = n)) =
          (names.filter Rule.fits).filter fun n =>
            s.hits.any fun r => keep r && decide (r.selector = n) := by
        refine List.filter_congr fun n hmem => ?_
        have hne : n ≠ name := fun h => hfresh (h ▸ List.mem_of_mem_filter hmem)
        congr 1
        ext r
        by_cases h : r.selector = n
        · simp [h, hne]
        · simp [h]
      rw [hrest, List.filter_cons]
      by_cases h : (s.hits.any fun r => keep r && decide (r.selector = name)) = true
      · obtain ⟨r, hr, hkeep⟩ := List.any_eq_true.mp h
        have hne : (s.hits.filter fun r => keep r && decide (r.selector = name)) ≠ [] :=
          List.ne_nil_of_mem (List.mem_filter.mpr ⟨hr, hkeep⟩)
        rw [if_neg hne, if_pos h, List.singleton_append]
      · have hnil : (s.hits.filter fun r => keep r && decide (r.selector = name)) = [] := by
          rw [List.filter_eq_nil_iff]
          exact fun r hr hkeep => h (List.any_eq_true.mpr ⟨r, hr, hkeep⟩)
        rw [if_pos hnil, if_neg h, List.nil_append]

end Remove

/-! ### Merging -/

lemma text_merge_eq_foldl (base override : Text) :
    (merge base override).text =
      ((selectors override).filter Rule.fits).foldl
        (fun t name => (Rule.patternNamed name).erase t) base ++ overrideSeparator ++ override := by
  rw [merge, text_removeBlocks_eq_foldl]

lemma shut_overrideSeparator {a : Text} (h : ¬ HoldsOpening a) (override : Text) :
    Shut a (overrideSeparator ++ override) ∧ Shut overrideSeparator override := by
  refine ⟨?_, shut_of_no_dot (by decide)⟩
  have e : overrideSeparator ++ override =
      ['\n'] ++ '/' :: (overrideSeparator.drop 2 ++ override) := rfl
  rw [e]
  exact shut_of_stop h (by simp) (by decide) rfl rfl

/-- No body of a rule holds an opening brace, no gap in front of a rule ends in a dot,
characters of class names and blanks, and in no gap a rule opens. -/
structure FlatSheet (t : Text) : Prop where
  body : ∀ b ∈ ruleBlocks t, '{' ∉ b.body
  seam : ∀ part ∈ (Rule.pattern.sections t).parts, ¬ EndsHalfOpen part.1
  gap : ∀ gap ∈ (Rule.pattern.sections t).gaps, ¬ HoldsOpening gap

lemma FlatSheet.flat {t b : Text} (h : FlatSheet t)
    (htail : Shut (Rule.pattern.sections t).tail b) : (Rule.pattern.sections t).Flat b where
  valid r hr := by
    rw [Pattern.hits_sections] at hr
    exact Rule.valid_of_mem_hits hr
  body r hr := by
    rw [Pattern.hits_sections] at hr
    have hmem : r.braced.body ∈ (ruleBlocks t).map RuleBlock.body := by
      rw [map_ruleBlocks RuleBlock.body (fun r => r.braced.body) fun n q hq =>
        (Rule.valid_of_mem_hits hq).body_toBlock n]
      exact List.mem_map_of_mem hr
    obtain ⟨blk, hblk, he⟩ := List.mem_map.mp hmem
    exact he ▸ h.body blk hblk
  gap part hpart u := by
    refine shut_of_gap (h.gap part.1 ?_) (h.seam part hpart) u
    exact List.mem_append_left _ (List.mem_map_of_mem hpart)
  tail := htail

lemma FlatSheet.tail {t : Text} (h : FlatSheet t) :
    ¬ HoldsOpening (Rule.pattern.sections t).tail :=
  h.gap _ (List.mem_append_right _ (by simp))

lemma Rule.Valid.flatSheet_spell {r : Rule} (hr : r.Valid) (hbody : '{' ∉ r.braced.body) :
    FlatSheet r.spell where
  body b hb := by
    rw [hr.ruleBlocks_spell, List.mem_singleton] at hb
    rwa [hb, hr.body_toBlock]
  seam part hpart := by
    rw [hr.sections_spell, List.mem_singleton] at hpart
    have hgap : ¬ EndsHalfOpen [] := by decide
    rwa [hpart]
  gap gap hgap := by
    have hgaps : Sections.gaps ⟨[([], r)], []⟩ = [[], []] := rfl
    rw [hr.sections_spell, hgaps, List.mem_pair, or_self] at hgap
    rw [hgap]
    decide

instance : DecidablePred FlatSheet := fun t =>
  decidable_of_iff ((∀ b ∈ ruleBlocks t, '{' ∉ b.body) ∧
      (∀ part ∈ (Rule.pattern.sections t).parts, ¬ EndsHalfOpen part.1) ∧
      ∀ gap ∈ (Rule.pattern.sections t).gaps, ¬ HoldsOpening gap)
    ⟨fun ⟨h₁, h₂, h₃⟩ => ⟨h₁, h₂, h₃⟩, fun h => ⟨h.body, h.seam, h.gap⟩⟩

end DrawStyle
