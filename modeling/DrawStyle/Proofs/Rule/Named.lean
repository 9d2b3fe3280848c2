import DrawStyle.Proofs.Rule.Fits
import DrawStyle.Proofs.Rule.Listed

/-!
The rules for one class among the rules of a text.

A pattern for one class reads a rule wherever one for the class stands, also within the body of
another rule. What it reads is a listed block or lies in the body of one, and then it ends with
the block: both end at the first closing brace. A class whose name is too long has no pattern.
-/

namespace DrawStyle

/-- The pattern reads an occurrence off the text, from one byte offset to another. -/
def Pattern.Matches {α : Type} (p : Pattern α) (t : Text) (start stop : ℕ) : Prop :=
  ∃ u v a rest, t = u ++ v ∧ p.read v = some (a, rest) ∧ u.byteSize = start ∧
    (u ++ p.spell a).byteSize = stop

/-- The byte offset of the opening brace. -/
def RuleBlock.braceAt (b : RuleBlock) : ℕ :=
  b.start + Text.byteSize (b.text.takeWhile (· != '{'))

section

variable {t w z v v' name : Text} {r q : Rule} {n m : ℕ} {b : RuleBlock}

/-- A pattern for a class matches where a rule for the class stands. -/
lemma matches_patternNamed_iff (hname : IsClassName name) :
    (Rule.patternNamed name).Matches t n m ↔
      ∃ r : Rule, r.StandsAt n t ∧ r.selector = name ∧ m = n + r.spell.byteSize := by
  have hselects := Rule.selects_patternNamed hname
  constructor
  · rintro ⟨u, v, r, rest, rfl, hread, rfl, rfl⟩
    obtain ⟨hrule, hsel⟩ := hselects.read_iff.mp hread
    obtain ⟨hr, rfl⟩ := Rule.read_eq_some_iff.mp hrule
    exact ⟨r, hr.standsAt u rest, of_decide_eq_true hsel, Text.byteSize_append u r.spell⟩
  · rintro ⟨r, ⟨hr, u, v, rfl, rfl⟩, hsel, rfl⟩
    refine ⟨u, r.spell ++ v, r, v, List.append_assoc _ _ _, ?_, rfl, Text.byteSize_append _ _⟩
    exact hselects.read_iff.mpr ⟨hr.read_spell_append v, decide_eq_true hsel⟩

/-! ### Rules within rules -/

lemma Rule.spell_eq_head_body (r : Rule) : r.spell = r.head ++ r.braced.body ++ ['}'] := by
  simp [spell_eq_head_append, head]

lemma Rule.one_lt_byteSize_spell (r : Rule) : 1 < r.spell.byteSize := by
  have hhead := Text.byteSize_pos (t := r.head) (by simp [head])
  have hclose : Text.byteSize ['}'] = 1 := rfl
  rw [r.spell_eq_head_body, Text.byteSize_append, Text.byteSize_append, hclose]
  omega

lemma Rule.Valid.close_not_mem (hr : r.Valid) : '}' ∉ r.head ++ r.braced.body := by
  have hsel : '}' ∉ r.selector := not_mem_run hr.selector.2 rfl
  have hgap : '}' ∉ r.braced.gap := not_mem_run hr.braced.gap rfl
  have hbody : '}' ∉ r.braced.body := not_mem_run hr.braced.body rfl
  simp [Rule.head, hsel, hgap, hbody]

lemma Rule.Valid.exists_body_of_dot (hr : r.Valid) (hw : w ≠ []) (h : r.spell = w ++ '.' :: z) :
    ∃ s, w = r.head ++ s ∧ r.braced.body ++ ['}'] = s ++ '.' :: z := by
  rw [r.spell_eq_head_body, List.append_assoc] at h
  rcases List.append_eq_append_iff.mp h with ⟨s, rfl, hs⟩ | ⟨s, hs, hz⟩
  · exact ⟨s, rfl, hs⟩
  · rcases s with _ | ⟨d, s⟩
    · exact ⟨[], by simpa using hs.symm, by simpa using hz.symm⟩
    · -- the dot would stand in the class name, among the blanks or for the brace
      obtain rfl : '.' = d := (List.cons.inj hz).1
      obtain ⟨c, w, rfl⟩ := List.exists_cons_of_ne_nil hw
      have hsel : '.' ∉ r.selector := not_mem_run hr.selector.2 rfl
      have hgap : '.' ∉ r.braced.gap := not_mem_run hr.braced.gap rfl
      have htail : r.selector ++ r.braced.gap ++ ['{'] = w ++ '.' :: s := (List.cons.inj hs).2
      have hmem : '.' ∈ r.selector ++ r.braced.gap ++ ['{'] := htail ▸ by simp
      simp [hsel, hgap] at hmem

/-- **A rule that begins within another one** begins in its body and ends with it. -/
theorem Rule.Valid.eq_of_append_eq (hr : r.Valid) (hq : q.Valid) (hw : w ≠ []) (hz : z ≠ [])
    (hspell : r.spell = w ++ z) (h : z ++ v = q.spell ++ v') :
    z = q.spell ∧ ∃ s, w = r.head ++ s := by
  obtain ⟨c, z, rfl⟩ := List.exists_cons_of_ne_nil hz
  obtain rfl : c = '.' := (List.cons.inj h).1
  obtain ⟨s, hs, hbody⟩ := hr.exists_body_of_dot hw hspell
  refine ⟨?_, s, hs⟩
  -- both are closed by the first brace
  obtain ⟨front, hfront⟩ : ∃ front, '.' :: z = front ++ ['}'] := by
    rcases List.eq_nil_or_concat' ('.' :: z) with hnil | ⟨front, d, hconcat⟩
    · cases hnil
    · rw [hconcat, ← List.append_assoc] at hbody
      exact ⟨front, by rw [hconcat, List.append_inj_right' hbody rfl]⟩
  rw [hfront, ← List.append_assoc] at hbody
  have hfree : '}' ∉ front := fun hmem =>
    not_mem_run hr.braced.body rfl
      (List.append_inj_left' hbody rfl ▸ List.mem_append_right s hmem)
  rw [hfront, q.spell_eq_head_body, List.append_assoc, List.append_assoc _ ['}'] v'] at h
  rw [hfront, q.spell_eq_head_body, (eq_of_append_cons_eq hfree hq.close_not_mem h).1]

/-! ### Bodies and their bytes -/

lemma Rule.Valid.braceAt_toBlock (hr : r.Valid) (n : ℕ) :
    (r.toBlock n).braceAt + 1 = n + r.head.byteSize := by
  have htake : (r.toBlock n).text.takeWhile (· != '{') = '.' :: (r.selector ++ r.braced.gap) := by
    rw [Rule.toBlock, r.spell_eq_head_append]
    exact takeWhile_run hr.no_open_run (by decide)
  rw [RuleBlock.braceAt, htake, Rule.head, Text.byteSize_append, Nat.add_assoc]
  rfl

lemma Rule.Valid.braceAt_add (hr : r.Valid) (n : ℕ) :
    (r.toBlock n).braceAt + 1 + (r.toBlock n).body.byteSize + 1 = (r.toBlock n).stop := by
  have hstop : (r.toBlock n).stop = n + r.spell.byteSize := rfl
  have hclose : Text.byteSize ['}'] = 1 := rfl
  rw [hr.braceAt_toBlock, hr.body_toBlock, hstop, r.spell_eq_head_body, Text.byteSize_append,
    Text.byteSize_append, hclose]
  omega

/-- A rule that stands within another one stands in its body, and ends with it. -/
lemma Rule.StandsAt.nested (hr : r.StandsAt n t) (hq : q.StandsAt m t) (hlt : n < m)
    (hm : m < n + r.spell.byteSize) :
    (r.toBlock n).braceAt < m ∧ m < (r.toBlock n).braceAt + 1 + (r.toBlock n).body.byteSize ∧
      m + q.spell.byteSize = (r.toBlock n).stop := by
  obtain ⟨hr, u, v, rfl, rfl⟩ := hr
  obtain ⟨hq, u', v', ht, rfl⟩ := hq
  rw [List.append_assoc, List.append_assoc] at ht
  obtain ⟨w, z, hw, hz, rfl, hspell, hrest⟩ := Text.exists_cut_of_within ht hlt hm
  obtain ⟨rfl, s, rfl⟩ := hr.eq_of_append_eq hq hw hz hspell hrest.symm
  have hstart := hr.braceAt_toBlock u.byteSize
  have hbody := hr.braceAt_add u.byteSize
  have hstop : (r.toBlock u.byteSize).stop = u.byteSize + r.spell.byteSize := rfl
  have hclose := q.one_lt_byteSize_spell
  rw [hspell, Text.byteSize_append, Text.byteSize_append] at hstop
  simp only [Text.byteSize_append] at hlt ⊢
  refine ⟨?_, ?_, ?_⟩
  · omega
  · omega
  · omega

end

/-- **The rules for one class among all rules.** Where the pattern for a class matches, from one
byte offset to another, one listed block covers its start. Either the block is what is matched,
and it is for the class, or the match starts between the braces of the block and ends with it. Each
listed block, whose body lies between its braces, is matched as a whole by the pattern for its
class, if there is one, and where it starts no pattern for another class matches. There is a pattern
for each class whose name has at most 327500 bytes. -/
theorem matches_patternNamed (t : Text) :
    (∀ name, IsClassName name → ∀ p, Rule.patternNamed? name = some p → ∀ start stop,
      p.Matches t start stop →
      ∃ b, (ruleBlocks t).filter (fun c => decide (c.start ≤ start ∧ start < c.stop)) = [b] ∧
        (b.start = start ∧ b.stop = stop ∧ b.selector = name ∨
          b.braceAt < start ∧ start < b.braceAt + 1 + b.body.byteSize ∧ b.stop = stop)) ∧
    (∀ b ∈ ruleBlocks t, b.braceAt + 1 + b.body.byteSize + 1 = b.stop ∧
      (∀ p, Rule.patternNamed? b.selector = some p → p.Matches t b.start b.stop) ∧
      ∀ name, IsClassName name → ∀ p, Rule.patternNamed? name = some p → ∀ stop,
        p.Matches t b.start stop → name = b.selector) ∧
    ∀ name : Text, name.byteSize ≤ 327500 → ∃ p, Rule.patternNamed? name = some p := by
  refine ⟨fun name hname p hp start stop h => ?_, fun b hb => ?_, fun name hsize =>
    ⟨_, Rule.patternNamed?_of_fits (Rule.fits_of_byteSize_le hsize)⟩⟩
  · obtain ⟨-, rfl⟩ := Rule.patternNamed?_eq_some_iff.mp hp
    obtain ⟨q, hq, hsel, rfl⟩ := (matches_patternNamed_iff hname).mp h
    obtain ⟨b, hb, hle, hlt⟩ := hq.exists_mem_ruleBlocks
    refine ⟨b, filter_covering_eq (pairwise_ruleBlocks t) hb hle hlt, ?_⟩
    obtain ⟨r, hr, he⟩ := exists_standsAt_of_mem_ruleBlocks hb
    rw [he] at hlt ⊢
    rcases Nat.eq_or_lt_of_le hle with heq | hstart
    · left
      rw [heq] at hr ⊢
      obtain rfl := hr.eq hq
      exact ⟨rfl, rfl, hsel⟩
    · obtain ⟨hbrace, hbody, hend⟩ := hr.nested hq hstart hlt
      exact Or.inr ⟨hbrace, hbody, hend.symm⟩
  · obtain ⟨r, hr, he⟩ := exists_standsAt_of_mem_ruleBlocks hb
    have hstart := hr.1.braceAt_add b.start
    rw [← he] at hstart
    have hsel : b.selector = r.selector := congrArg RuleBlock.selector he
    have hstop : b.stop = b.start + r.spell.byteSize := congrArg RuleBlock.stop he
    refine ⟨hstart, fun p hp => ?_, fun name hname p hp stop h => ?_⟩
    · obtain ⟨-, rfl⟩ := Rule.patternNamed?_eq_some_iff.mp hp
      rw [hsel]
      exact (matches_patternNamed_iff hr.1.selector).mpr ⟨r, hr, rfl, hstop⟩
    · obtain ⟨-, rfl⟩ := Rule.patternNamed?_eq_some_iff.mp hp
      obtain ⟨q, hq, rfl, -⟩ := (matches_patternNamed_iff hname).mp h
      rw [hsel, hr.eq hq]

theorem matches_patternNamed_in_body :
    IsClassName "foo".toList ∧
      Rule.patternNamed? "foo".toList = some (Rule.patternNamed "foo".toList) ∧
      (Rule.patternNamed "foo".toList).Matches "é.foo-x\x7b.foo \x7by\x7dz\x7d".toList 9 17 ∧
      ∃ b, (ruleBlocks "é.foo-x\x7b.foo \x7by\x7dz\x7d".toList).filter
          (fun c => decide (c.start ≤ 9 ∧ 9 < c.stop)) = [b] ∧
        b.braceAt < 9 ∧ 9 < b.braceAt + 1 + b.body.byteSize ∧ b.stop = 17 := by
  have hname : IsClassName "foo".toList := by decide
  have hfits : Rule.fits "foo".toList = true := Rule.fits_of_byteSize_le (by decide)
  have hpattern := Rule.patternNamed?_of_fits hfits
  have hmatch : (Rule.patternNamed "foo".toList).Matches
      "é.foo-x\x7b.foo \x7by\x7dz\x7d".toList 9 17 :=
    ⟨"é.foo-x\x7b".toList, ".foo \x7by\x7dz\x7d".toList, ⟨"foo".toList, ⟨[' '], ['y']⟩⟩,
      "z\x7d".toList, by decide, by decide +kernel, by decide +kernel, by decide +kernel⟩
  obtain ⟨b, hb, hcases⟩ := (matches_patternNamed _).1 _ hname _ hpattern 9 17 hmatch
  have hstart : ∀ c ∈ ruleBlocks "é.foo-x\x7b.foo \x7by\x7dz\x7d".toList, c.start ≠ 9 := by
    decide +kernel
  have hmem : b ∈ ruleBlocks "é.foo-x\x7b.foo \x7by\x7dz\x7d".toList :=
    List.mem_of_mem_filter (hb ▸ List.mem_singleton_self b)
  exact ⟨hname, hpattern, hmatch, b, hb, hcases.resolve_left fun h => hstart b hmem h.1⟩

/-- A listed block is not matched by a pattern for its class if the name is too long. -/
theorem not_matches_longRule : ∃ b ∈ ruleBlocks longRule.spell, IsClassName b.selector ∧
    ¬ ∃ p, Rule.patternNamed? b.selector = some p ∧ p.Matches longRule.spell b.start b.stop := by
  have hb : longRule.toBlock 0 ∈ ruleBlocks longRule.spell := by
    rw [valid_longRule.ruleBlocks_spell]
    exact List.mem_singleton_self _
  refine ⟨longRule.toBlock 0, hb, isClassName_longName, ?_⟩
  rintro ⟨p, hp, -⟩
  have hnone : Rule.patternNamed? longName = none := Rule.patternNamed?_eq_none fits_longName
  exact Option.some_ne_none p (hp.symm.trans hnone)

end DrawStyle
