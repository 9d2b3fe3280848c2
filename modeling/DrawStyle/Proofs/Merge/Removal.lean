import DrawStyle.Proofs.Merge.Flat
import DrawStyle.Proofs.Pattern.Cuts

/-!
Which rules are left when the rules for some classes are taken out.

In the turn of a class no rule for it is passed over, so a rule for it that is found in the end
was put together by a cut, in that turn or a later one. The cut stands where the rule has begun
and its brace is not yet open. What is cut out begins with a dot, so there the text had a dot
directly behind the start of a rule, as it stands between the classes of a selector for more
than one class.
-/

namespace DrawStyle

/-- A dot stands directly behind the start of a rule. -/
def HoldsChain (t : Text) : Prop := ∃ v, HalfOpens v ∧ v ++ ['.'] <:+: t

section

variable {r : Rule} {s t z name : Text} {names : List Text}

/-! ### One turn -/

lemma Rule.head_ne_nil (r : Rule) : r.head ≠ [] := List.cons_ne_nil _ _

lemma Rule.spell_append_eq_head_append (r : Rule) (b : Text) :
    r.spell ++ b = r.head ++ (r.braced.body ++ '}' :: b) := by
  simp [spell_eq_head_append, head]

/-- Where a rule has opened it is read, if it is closed at all. -/
lemma Rule.exists_readNamed_head (hr : r.braced.Valid) (h : '}' ∈ z) :
    ∃ q rest, readNamed r.selector (r.head ++ z) = some (q, rest) := by
  obtain ⟨body, rest, rfl, hbody⟩ := List.eq_append_cons_of_mem h
  have hvalid : Braced.Valid ⟨r.braced.gap, body⟩ :=
    ⟨hr.gap, fun c hc => bne_iff_ne.mpr fun he => hbody (he ▸ hc)⟩
  refine ⟨⟨r.selector, ⟨r.braced.gap, body⟩⟩, rest, readNamed_eq_some_iff.mpr ⟨rfl, hvalid, ?_⟩⟩
  simp [head, spell, Braced.spell]

/-- **In the turn of a class** only a cut can make a rule for it. -/
theorem Rule.joins_of_erase (hr : r.braced.Valid)
    (h : r.head ++ z <:+ (patternNamed r.selector).erase t) (hz : '}' ∈ z) :
    (patternNamed r.selector).Joins t r.head := by
  rcases Pattern.joins_or_exists_suffix r.head_ne_nil h with hj | ⟨u, hzu, -, hnone⟩
  · exact hj
  · obtain ⟨q, rest, hread⟩ := exists_readNamed_head hr (hzu.mem hz)
    have hsome : (patternNamed r.selector).read (r.head ++ u) = some (q, rest) := hread
    rw [hsome] at hnone
    cases hnone

/-! ### Several turns -/

/-- **What is found after some turns** was there before them, or was put together by a cut in
one of them. -/
theorem joins_or_exists_of_removeBlocks (hs : s ≠ [])
    (h : s ++ z <:+ (removeBlocks t names).text) :
    (∃ before name after, names = before ++ name :: after ∧ Rule.fits name = true ∧
        (Rule.patternNamed name).Joins (removeBlocks t before).text s) ∨
      ∃ u, z.Sublist u ∧ s ++ u <:+ t := by
  induction names generalizing t with
  | nil => exact Or.inr ⟨z, List.Sublist.refl z, h⟩
  | cons name names ih =>
    rcases hfits : Rule.fits name with _ | _
    · rw [removeBlocks_cons_of_not_fits hfits] at h
      refine (ih h).imp_left ?_
      rintro ⟨before, name', after, rfl, hfits', hj⟩
      exact ⟨name :: before, name', after, rfl, hfits',
        by rwa [removeBlocks_cons_of_not_fits hfits]⟩
    · rw [(removeBlocks_cons hfits t names).1] at h
      rcases ih h with ⟨before, name', after, rfl, hfits', hj⟩ | ⟨u, hzu, hu⟩
      · exact Or.inl ⟨name :: before, name', after, rfl, hfits',
          by rwa [(removeBlocks_cons hfits t before).1]⟩
      · rcases Pattern.joins_or_exists_suffix hs hu with hj | ⟨u', huu', hu', -⟩
        · exact Or.inl ⟨[], name, names, rfl, hfits, hj⟩
        · exact Or.inr ⟨u', hzu.trans huu', hu'⟩

/-! ### Dots behind the start of a rule -/

lemma HalfOpens.of_append (h : HalfOpens (s ++ t)) (hs : s ≠ []) : HalfOpens s := by
  obtain ⟨hdot, hblank⟩ := halfOpens_iff.mp h
  obtain ⟨c, s, rfl⟩ := List.exists_cons_of_ne_nil hs
  refine halfOpens_iff.mpr ⟨hdot, ?_⟩
  rw [List.cons_append, List.tail_cons, List.dropWhile_append] at hblank
  split at hblank
  · next hnil =>
    rw [List.tail_cons, List.isEmpty_iff.mp hnil]
    rfl
  · exact Text.isBlank_iff.mpr fun d hd =>
      Text.isBlank_iff.mp hblank d (List.mem_append_left t hd)

/-- Where a cut goes through the start of a rule, or ends it, a dot stood behind its
beginning. -/
lemma HalfOpens.holdsChain_of_joins (hs : HalfOpens s) {c : Char}
    (h : (Rule.patternNamed name).Joins t (s ++ [c])) : HoldsChain t := by
  obtain ⟨v, q, hv, ⟨w, rfl⟩, hwithin⟩ := h.exists_infix
  have hdot : v ++ ['.'] <:+: v ++ (Rule.patternNamed name).spell q :=
    ⟨[], q.selector ++ q.braced.spell, by simp [Rule.patternNamed, Rule.spell]⟩
  exact ⟨v, hs.of_append hv, hdot.trans hwithin⟩

lemma HoldsChain.of_removeBlocks (h : HoldsChain (removeBlocks t names).text) : HoldsChain t := by
  induction names generalizing t with
  | nil => exact h
  | cons name names ih =>
    rcases hfits : Rule.fits name with _ | _
    · rw [removeBlocks_cons_of_not_fits hfits] at h
      exact ih h
    · rw [(removeBlocks_cons hfits t names).1] at h
      obtain ⟨v, hv, x, z, hz⟩ := ih h
      have hsuffix : v ++ ['.'] ++ z <:+ (Rule.patternNamed name).erase t :=
        ⟨x, by rw [← hz, List.append_assoc x]⟩
      rcases Pattern.joins_or_exists_suffix (by simp) hsuffix with hj | ⟨u, -, hu, -⟩
      · exact hv.holdsChain_of_joins hj
      · exact ⟨v, hv, (List.prefix_append _ u).isInfix.trans hu.isInfix⟩

/-! ### All turns -/

/-- **A rule for one of the classes that is left**, for a class whose rules can be looked for, was
put together by a cut in the turn of its class or in a later one: a rule was cut out directly behind
a beginning of it, and what stood behind the cut went on with it through its opening brace. In a text
in which no dot stands directly behind the start of a rule there is no such cut, and no rule for any
of these classes is left. -/
theorem joins_of_spell_infix_removeBlocks (t : Text) (names : List Text) (r : Rule)
    (hr : r.Valid) (hname : r.selector ∈ names) (hfits : Rule.fits r.selector = true)
    (h : r.spell <:+: (removeBlocks t names).text) :
    (∃ before name after, names = before ++ name :: after ∧ r.selector ∈ before ++ [name] ∧
        Rule.fits name = true ∧ (Rule.patternNamed name).Joins (removeBlocks t before).text r.head) ∧
      HoldsChain t := by
  obtain ⟨before, name, after, hnames, hturn, hfits', hj⟩ : ∃ before name after,
      names = before ++ name :: after ∧ r.selector ∈ before ++ [name] ∧ Rule.fits name = true ∧
        (Rule.patternNamed name).Joins (removeBlocks t before).text r.head := by
    obtain ⟨before, later, rfl⟩ := List.append_of_mem hname
    obtain ⟨a, b, hab⟩ := h
    rw [removeBlocks_append, (removeBlocks_cons hfits _ later).1, List.append_assoc,
      r.spell_append_eq_head_append] at hab
    rcases joins_or_exists_of_removeBlocks r.head_ne_nil ⟨a, hab⟩ with
      ⟨between, name, after, rfl, hfits', hj⟩ | ⟨u, hzu, hu⟩
    · -- the cut is made in a later turn
      refine ⟨before ++ r.selector :: between, name, after, by simp, by simp, hfits', ?_⟩
      rwa [removeBlocks_append, (removeBlocks_cons hfits _ between).1]
    · refine ⟨before, r.selector, later, rfl, by simp, hfits, ?_⟩
      exact Rule.joins_of_erase hr.braced hu (hzu.mem (by simp))
  refine ⟨⟨before, name, after, hnames, hturn, hfits', hj⟩, ?_⟩
  have hhalf : HalfOpens ('.' :: (r.selector ++ r.braced.gap)) :=
    ⟨r.selector, r.braced.gap, rfl, hr.selector.2, Text.isBlank_iff.mpr hr.braced.gap⟩
  exact (hhalf.holdsChain_of_joins hj).of_removeBlocks

theorem joins_of_spell_infix_removeBlocks_later_turn :
    Rule.fits "bp".toList = true ∧
      Rule.spell ⟨"bp".toList, [], ['y']⟩ <:+:
        (removeBlocks ".b.a\x7bx\x7dp\x7by\x7d".toList ["bp".toList, ['a']]).text ∧
      (∃ before name after, ["bp".toList, ['a']] = before ++ name :: after ∧
        "bp".toList ∈ before ++ [name] ∧ Rule.fits name = true ∧
          (Rule.patternNamed name).Joins
            (removeBlocks ".b.a\x7bx\x7dp\x7by\x7d".toList before).text
            (Rule.head ⟨"bp".toList, [], ['y']⟩)) ∧
      HoldsChain ".b.a\x7bx\x7dp\x7by\x7d".toList := by
  have hvalid : Rule.Valid ⟨"bp".toList, [], ['y']⟩ :=
    ⟨by decide, List.all_eq_true.mp rfl, List.all_eq_true.mp rfl⟩
  have hfits : Rule.fits "bp".toList = true := Rule.fits_of_byteSize_le (by decide)
  have hleft : (removeBlocks ".b.a\x7bx\x7dp\x7by\x7d".toList ["bp".toList, ['a']]).text =
      Rule.spell ⟨"bp".toList, [], ['y']⟩ := by
    rw [text_removeBlocks_eq_foldl, Rule.filter_fits_eq_self (by decide)]
    decide +kernel
  have hwithin : Rule.spell ⟨"bp".toList, [], ['y']⟩ <:+:
      (removeBlocks ".b.a\x7bx\x7dp\x7by\x7d".toList ["bp".toList, ['a']]).text :=
    ⟨[], [], by simpa using hleft.symm⟩
  exact ⟨hfits, hwithin,
    joins_of_spell_infix_removeBlocks _ _ ⟨"bp".toList, [], ['y']⟩ hvalid (by decide) hfits hwithin⟩

/-- A rule can be left for a class whose rules were taken out: of `.a.ab{x}b{y}` the turn of
`ab` leaves `.ab{y}`. -/
theorem exists_spell_infix_removeBlocks :
    ∃ r : Rule, r.Valid ∧ r.selector ∈ ["ab".toList] ∧
      r.spell <:+: (removeBlocks ".a.ab\x7bx\x7db\x7by\x7d".toList ["ab".toList]).text := by
  have hleft : (removeBlocks ".a.ab\x7bx\x7db\x7by\x7d".toList ["ab".toList]).text =
      Rule.spell ⟨"ab".toList, [], ['y']⟩ := by
    rw [text_removeBlocks_eq_foldl, Rule.filter_fits_eq_self (by decide)]
    decide +kernel
  exact ⟨⟨"ab".toList, [], ['y']⟩,
    ⟨by decide, List.all_eq_true.mp rfl, List.all_eq_true.mp rfl⟩, by decide, [], [],
    by simpa using hleft.symm⟩

end

end DrawStyle
