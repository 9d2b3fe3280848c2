import DrawStyle.Proofs.Pattern.Places
import DrawStyle.Proofs.Rule.Blocks
import DrawStyle.Proofs.Text.Encoding

/-!
The list of the rules of a text.

A rule stands at a place of a text if it is spelled there. The blocks that are listed are rules
that stand in the text, each with its bytes and one behind the other, and a rule that stands
anywhere starts in one of them. There is one such list.
-/

namespace DrawStyle

/-- The rule stands in the text, with `n` bytes in front of it. -/
def Rule.StandsAt (r : Rule) (n : ℕ) (t : Text) : Prop :=
  r.Valid ∧ ∃ u v, t = u ++ r.spell ++ v ∧ u.byteSize = n

/-- The block is a dot, its class name, blanks and its body in braces, and takes its bytes of the
text. -/
structure RuleBlock.StandsIn (b : RuleBlock) (t : Text) : Prop where
  selector : IsClassName b.selector
  body : '}' ∉ b.body
  form : ∃ gap : Text, gap.isBlank = true ∧
    b.text = '.' :: b.selector ++ gap ++ '{' :: b.body ++ ['}']
  place : ∃ u v, t = u ++ b.text ++ v ∧ u.byteSize = b.start ∧ (u ++ b.text).byteSize = b.stop

/-- The blocks stand in the text one behind the other, and each place at which a rule stands is
the start of one of them or lies inside of it. -/
structure ListsRules (t : Text) (bs : List RuleBlock) : Prop where
  sound : ∀ b ∈ bs, b.StandsIn t
  apart : bs.Pairwise fun b c => b.stop ≤ c.start
  complete : ∀ n r, Rule.StandsAt r n t → ∃ b ∈ bs, n = b.start ∨ b.start < n ∧ n < b.stop

section

variable {t : Text} {r q : Rule} {n : ℕ} {b : RuleBlock} {bs bs' : List RuleBlock}

/-! ### Rules at their places -/

lemma Rule.Valid.standsAt (hr : r.Valid) (u v : Text) :
    r.StandsAt u.byteSize (u ++ (r.spell ++ v)) :=
  ⟨hr, u, v, (List.append_assoc _ _ _).symm, rfl⟩

lemma Rule.StandsAt.eq (hr : r.StandsAt n t) (hq : q.StandsAt n t) : r = q := by
  obtain ⟨hr, u, v, rfl, rfl⟩ := hr
  obtain ⟨hq, u', v', ht, hn⟩ := hq
  rw [List.append_assoc, List.append_assoc] at ht
  obtain ⟨-, hspell⟩ := Text.eq_of_byteSize_eq ht hn.symm
  have hread := hr.read_spell_append v
  rw [hspell, hq.read_spell_append v'] at hread
  cases hread
  rfl

lemma Rule.StandsAt.standsIn (h : r.StandsAt n t) : (r.toBlock n).StandsIn t := by
  obtain ⟨hr, u, v, rfl, rfl⟩ := h
  have hbody := hr.body_toBlock u.byteSize
  refine ⟨hr.selector, ?_, ⟨r.braced.gap, Text.isBlank_iff.mpr hr.braced.gap, ?_⟩,
    u, v, rfl, rfl, Text.byteSize_append _ _⟩
  · rw [hbody]
    exact not_mem_run hr.braced.body rfl
  · rw [hbody]
    simp [Rule.toBlock, Rule.spell, Braced.spell]

lemma RuleBlock.StandsIn.exists_standsAt (h : b.StandsIn t) :
    ∃ r : Rule, r.StandsAt b.start t ∧ b = r.toBlock b.start := by
  obtain ⟨hselector, hbody, ⟨gap, hgap, htext⟩, u, v, ht, hstart, hstop⟩ := h
  have hspell : Rule.spell ⟨b.selector, gap, b.body⟩ = b.text := by
    simp [htext, Rule.spell, Braced.spell]
  refine ⟨⟨b.selector, gap, b.body⟩, ⟨⟨hselector, ?_⟩, u, v, ?_, hstart⟩, ?_⟩
  · exact ⟨Text.isBlank_iff.mp hgap, fun c hc => bne_iff_ne.mpr fun he => hbody (he ▸ hc)⟩
  · rw [hspell, ht]
  · rw [Text.byteSize_append, hstart] at hstop
    obtain ⟨selector, text, start, stop⟩ := b
    simp only [Rule.toBlock, RuleBlock.mk.injEq, true_and]
    exact ⟨hspell.symm, by rw [hspell]; exact hstop.symm⟩

lemma RuleBlock.StandsIn.start_lt_stop (h : b.StandsIn t) : b.start < b.stop := by
  obtain ⟨r, -, hb⟩ := h.exists_standsAt
  rw [hb]
  exact Nat.lt_add_of_pos_right (Rule.pattern.byteSize_spell_pos r)

/-- The bytes of a text from the start of a block to its end are those of the block. -/
lemma RuleBlock.StandsIn.bytes_eq (h : b.StandsIn t) :
    (t.bytes.take b.stop).drop b.start = b.text.bytes := by
  obtain ⟨u, v, rfl, hstart, hstop⟩ := h.place
  rw [Text.bytes_append, ← hstop, ← Text.length_bytes, List.take_left, Text.bytes_append,
    ← hstart, ← Text.length_bytes, List.drop_left]

/-! ### The list -/

lemma ruleBlocks_eq_map (t : Text) :
    ruleBlocks t = (Rule.pattern.located t).map fun x => x.2.toBlock x.1 := rfl

lemma exists_standsAt_of_mem_ruleBlocks (h : b ∈ ruleBlocks t) :
    ∃ r : Rule, r.StandsAt b.start t ∧ b = r.toBlock b.start := by
  rw [ruleBlocks_eq_map] at h
  obtain ⟨⟨n, r⟩, hx, rfl⟩ := List.mem_map.mp h
  obtain ⟨u, rest, ht, hn, hread⟩ := Pattern.exists_of_mem_locate hx
  have hr : r.Valid := Rule.valid_of_read (t := r.spell ++ rest) hread
  refine ⟨r, ?_, rfl⟩
  rw [ht]
  exact (hn.trans (Nat.zero_add _)).symm ▸ hr.standsAt u rest

lemma standsIn_of_mem_ruleBlocks (h : b ∈ ruleBlocks t) : b.StandsIn t := by
  obtain ⟨r, hr, hb⟩ := exists_standsAt_of_mem_ruleBlocks h
  rw [hb]
  exact hr.standsIn

lemma pairwise_ruleBlocks (t : Text) : (ruleBlocks t).Pairwise fun b c => b.stop ≤ c.start := by
  rw [ruleBlocks_eq_map]
  exact List.pairwise_map.mpr (Pattern.pairwise_locate (p := Rule.pattern) t 0)

/-- Where a rule stands, a listed block starts, or has started and does not end before. -/
lemma Rule.StandsAt.exists_mem_ruleBlocks (h : r.StandsAt n t) :
    ∃ b ∈ ruleBlocks t, b.start ≤ n ∧ n < b.stop := by
  obtain ⟨hr, u, v, rfl, rfl⟩ := h
  have hread : Rule.pattern.read (r.spell ++ v) = some (r, v) := hr.read_spell_append v
  obtain ⟨x, hx, hle, hlt⟩ := Pattern.exists_mem_locate_of_read (u := u) hread 0
  rw [Nat.zero_add] at hle hlt
  rw [List.append_assoc]
  exact ⟨x.2.toBlock x.1, List.mem_map_of_mem hx, hle, hlt⟩

/-- **The listed blocks** are rules of the text, and all rules start in them. -/
theorem listsRules_ruleBlocks (t : Text) : ListsRules t (ruleBlocks t) where
  sound _ hb := standsIn_of_mem_ruleBlocks hb
  apart := pairwise_ruleBlocks t
  complete n r h := by
    obtain ⟨b, hb, hle, hlt⟩ := h.exists_mem_ruleBlocks
    rcases Nat.eq_or_lt_of_le hle with heq | hstart
    · exact ⟨b, hb, Or.inl heq.symm⟩
    · exact ⟨b, hb, Or.inr ⟨hstart, hlt⟩⟩

lemma ListsRules.covers (h : ListsRules t bs) (hb : b.StandsIn t) :
    ∃ c ∈ bs, c.start ≤ b.start ∧ b.start < c.stop := by
  obtain ⟨r, hr, -⟩ := hb.exists_standsAt
  obtain ⟨c, hc, heq | ⟨hle, hlt⟩⟩ := h.complete _ r hr
  · exact ⟨c, hc, heq.ge, heq ▸ (h.sound c hc).start_lt_stop⟩
  · exact ⟨c, hc, hle.le, hlt⟩

/-- **There is one list** of the rules of a text. -/
theorem ListsRules.unique (h : ListsRules t bs) (h' : ListsRules t bs') : bs = bs' := by
  refine eq_of_starts_covered (fun b hb => ?_) h.apart h'.apart
    (fun b hb => h'.covers (h.sound b hb)) (fun b hb => h.covers (h'.sound b hb))
    fun b hb c hc hstart => ?_
  · rcases hb with hb | hb
    · exact (h.sound b hb).start_lt_stop
    · exact (h'.sound b hb).start_lt_stop
  · obtain ⟨r, hr, hrb⟩ := (h.sound b hb).exists_standsAt
    obtain ⟨q, hq, hqc⟩ := (h'.sound c hc).exists_standsAt
    rw [hstart] at hr
    rw [hrb, hqc, hstart, hr.eq hq]

end

/-- **The rules of a text.** The listed blocks stand in the text with their bytes, one behind the
other; each is a dot, a class name, blanks and a body in braces, and where else a rule stands, it
starts inside of one of them. No other list of blocks does that. The classes of a text are those
of its blocks, each once, in the order of their first blocks. -/
theorem eq_ruleBlocks_iff (t : Text) :
    (∀ bs, bs = ruleBlocks t ↔ ListsRules t bs) ∧
      (∀ b ∈ ruleBlocks t, (t.bytes.take b.stop).drop b.start = b.text.bytes) ∧
      (∀ name, name ∈ selectors t ↔ ∃ b ∈ ruleBlocks t, b.selector = name) ∧
      (selectors t).Pairwise fun name name' =>
        ((ruleBlocks t).map RuleBlock.selector).idxOf name <
          ((ruleBlocks t).map RuleBlock.selector).idxOf name' := by
  refine ⟨fun bs => ⟨?_, fun h => h.unique (listsRules_ruleBlocks t)⟩,
    fun b hb => (standsIn_of_mem_ruleBlocks hb).bytes_eq, fun name => ?_,
    pairwise_idxOf_eraseDups _⟩
  · rintro rfl
    exact listsRules_ruleBlocks t
  · rw [selectors, List.mem_eraseDups, List.mem_map]

theorem eq_ruleBlocks_iff_nested :
    ListsRules "é.a\u2003\x7bé\x7d.b \x7b.c\x7bz\x7d.a\x7b".toList
        [⟨['a'], ".a\u2003\x7bé\x7d".toList, 2, 11⟩,
          ⟨['b'], ".b \x7b.c\x7bz\x7d".toList, 11, 20⟩] ∧
      ((Text.bytes "é.a\u2003\x7bé\x7d.b \x7b.c\x7bz\x7d.a\x7b".toList).take 11).drop 2 =
        Text.bytes ".a\u2003\x7bé\x7d".toList := by
  have hblocks : [⟨['a'], ".a\u2003\x7bé\x7d".toList, 2, 11⟩,
      ⟨['b'], ".b \x7b.c\x7bz\x7d".toList, 11, 20⟩] =
        ruleBlocks "é.a\u2003\x7bé\x7d.b \x7b.c\x7bz\x7d.a\x7b".toList := by
    decide +kernel
  obtain ⟨hlist, hbytes, -⟩ :=
    eq_ruleBlocks_iff "é.a\u2003\x7bé\x7d.b \x7b.c\x7bz\x7d.a\x7b".toList
  exact ⟨(hlist _).mp hblocks, hbytes _ (hblocks ▸ List.mem_cons_self)⟩

end DrawStyle
