import DrawStyle.Proofs.Clean.EmptyRule
import DrawStyle.Proofs.Clean.Lines
import DrawStyle.Proofs.Rule.Blocks
import DrawStyle.Proofs.Rule.Opening
import DrawStyle.Proofs.Text.Thinned

/-!
What a simple stylesheet says.

A stylesheet is read as a list of class names, each with the body of its rule without blanks.
Taking out blanks does not change what is read, and taking out empty rules takes the rules with
nothing in their bodies off the list. So cleaning in which repeated lines are kept leaves
exactly the other rules, whatever passes it needs.
-/

namespace DrawStyle

/-- A class name, blanks on one line and a body without braces. -/
structure Rule.Simple (r : Rule) : Prop where
  selector : IsClassName r.selector
  gap : r.braced.gap.isBlank = true
  one_line : '\n' ∉ r.braced.gap
  no_open : '{' ∉ r.braced.body
  no_close : '}' ∉ r.braced.body

instance (r : Rule) : Decidable r.Simple :=
  decidable_of_iff (IsClassName r.selector ∧ r.braced.gap.isBlank = true ∧
      '\n' ∉ r.braced.gap ∧ '{' ∉ r.braced.body ∧ '}' ∉ r.braced.body)
    ⟨fun ⟨h₁, h₂, h₃, h₄, h₅⟩ => ⟨h₁, h₂, h₃, h₄, h₅⟩,
      fun h => ⟨h.selector, h.gap, h.one_line, h.no_open, h.no_close⟩⟩

/-- What is read of a rule: its class name and its body without blanks. -/
def Rule.reading (r : Rule) : Text × Text := (r.selector, squeeze r.braced.body)

/-- The text is read as the given rules: it is made of blanks, remarks that end in a slash and
simple rules. -/
inductive Reads : List (Text × Text) → Text → Prop where
  | done : Reads [] []
  | blank (c : Char) {x : List (Text × Text)} {t : Text} : isBlank c = true → Reads x t →
      Reads x (c :: t)
  | remark (w : Text) {x : List (Text × Text)} {t : Text} :
      '.' ∉ w → '{' ∉ w → '}' ∉ w → Reads x t → Reads x (w ++ '/' :: t)
  | rule (r : Rule) {x : List (Text × Text)} {t : Text} : r.Simple → Reads x t →
      Reads (r.reading :: x) (r.spell ++ t)

lemma Rule.Simple.valid {r : Rule} (h : r.Simple) : r.Valid where
  selector := h.selector
  braced :=
    ⟨Text.isBlank_iff.mp h.gap, fun c hc => by
      rw [Braced.inBody, bne_iff_ne]
      rintro rfl
      exact h.no_close hc⟩

lemma Rule.spell_append (r : Rule) (t : Text) :
    r.spell ++ t =
      '.' :: (r.selector ++ (r.braced.gap ++ '{' :: (r.braced.body ++ '}' :: t))) := by
  simp [spell, Braced.spell]

namespace Reads

variable {x : List (Text × Text)} {t u : Text}

lemma blanks {s : Text} (hs : s.isBlank = true) (h : Reads x t) : Reads x (s ++ t) := by
  induction s with
  | nil => exact h
  | cons c s ih =>
    rw [Text.isBlank_cons, Bool.and_eq_true] at hs
    exact blank c hs.1 (ih hs.2)

lemma append_newline (h : Reads x t) : Reads x (t ++ ['\n']) := by
  induction h with
  | done => exact blank '\n' rfl done
  | blank c hc _ ih => exact blank c hc ih
  | remark w h₁ h₂ h₃ _ ih =>
    rw [List.append_assoc]
    exact remark w h₁ h₂ h₃ ih
  | rule r hr _ ih =>
    rw [List.append_assoc]
    exact rule r hr ih

/-! ### The rules that are found -/

/-- **The rules that are found** in a text are those that it is read as. -/
theorem map_hits (h : Reads x t) : (Rule.pattern.hits t).map Rule.reading = x := by
  have hselects := Rule.selects_pattern
  induction h with
  | done => rw [Pattern.hits_nil, List.map_nil]
  | @blank c x t hc _ ih =>
    have hdot : '.' ∉ [c] := not_mem_run (p := isBlank) (by simpa using hc) rfl
    have hquiet := hselects.quiet (shut_of_no_dot (b := t) hdot)
    rw [← ih, ← Pattern.hits_append_of_quiet hquiet, List.singleton_append]
  | @remark w x t hdot _ _ _ ih =>
    have hquiet := hselects.quiet (shut_of_no_dot (a := w ++ ['/']) (b := t) (by simp [hdot]))
    rw [← ih, ← Pattern.hits_append_of_quiet hquiet, List.append_assoc, List.singleton_append]
  | @rule r x t hr _ ih =>
    have hread : Rule.pattern.read (r.spell ++ t) = some (r, t) := hr.valid.read_spell_append t
    rw [Pattern.hits_of_read hread, List.map_cons, ih]

lemma map_ruleBlocks (h : Reads x t) :
    (ruleBlocks t).map (fun b => (b.selector, squeeze b.body)) = x := by
  rw [DrawStyle.map_ruleBlocks _ Rule.reading fun n r hr => ?_, h.map_hits]
  rw [(Rule.valid_of_mem_hits hr).body_toBlock n]
  rfl

/-! ### Taking out blanks -/

/-- **Blanks do not count**: a text without some of its blanks is read as before. -/
theorem thinned (h : Reads x t) (ht : Thinned t u) : Reads x u := by
  induction h generalizing u with
  | done =>
    rw [Thinned.eq_of_no_blank (by simp) ht]
    exact done
  | blank c hc _ ih =>
    cases ht with
    | keep _ ht => exact blank c hc (ih ht)
    | drop _ _ ht => exact ih ht
  | remark w hdot hopen hclose _ ih =>
    obtain ⟨w', u, rfl, hw, hu⟩ := ht.append_split
    obtain ⟨t', rfl, ht'⟩ := hu.cons_split rfl
    exact remark w' (fun hc => hdot (hw.sublist.mem hc)) (fun hc => hopen (hw.sublist.mem hc))
      (fun hc => hclose (hw.sublist.mem hc)) (ih ht')
  | rule r hr _ ih =>
    rw [Rule.spell_append] at ht
    obtain ⟨u₁, rfl, h₁⟩ := ht.cons_split rfl
    obtain ⟨name, u₂, rfl, hname, h₂⟩ := h₁.append_split
    obtain ⟨gap, u₃, rfl, hgap, h₃⟩ := h₂.append_split
    obtain ⟨u₄, rfl, h₄⟩ := h₃.cons_split rfl
    obtain ⟨body, u₅, rfl, hbody, h₅⟩ := h₄.append_split
    obtain ⟨t', rfl, ht'⟩ := h₅.cons_split rfl
    have hsame : name = r.selector :=
      hname.eq_of_no_blank fun c hc => isBlank_of_inSelector (hr.selector.2 c hc)
    have hsimple : Rule.Simple ⟨r.selector, ⟨gap, body⟩⟩ :=
      { selector := hr.selector
        gap := Text.isBlank_iff.mpr fun c hc => Text.isBlank_iff.mp hr.gap c (hgap.sublist.mem hc)
        one_line := fun hc => hr.one_line (hgap.sublist.mem hc)
        no_open := fun hc => hr.no_open (hbody.sublist.mem hc)
        no_close := fun hc => hr.no_close (hbody.sublist.mem hc) }
    have hreading : r.reading = Rule.reading ⟨r.selector, ⟨gap, body⟩⟩ := by
      rw [Rule.reading, Rule.reading, hbody.squeeze_eq]
    rw [hreading, hsame, ← Rule.spell_append ⟨r.selector, ⟨gap, body⟩⟩]
    exact rule _ hsimple (ih ht')

lemma removeBlankLines (h : Reads x t) : Reads x (removeBlankLines t) := by
  refine h.append_newline.thinned (Thinned.of_sublist ?_ ?_)
  · exact (unlines_sublist_of_sublist_lines List.filter_sublist).1
  · have hkept : squeeze (DrawStyle.removeBlankLines t) = squeeze t :=
      filter_removeBlankLines (fun c hc => by simp [hc]) t
    have hnewline : squeeze ['\n'] = [] := by decide
    rw [hkept, squeeze_append, hnewline, List.append_nil]

end Reads

/-! ### Taking out empty rules -/

/-- The rules that say something. -/
def withBodies (x : List (Text × Text)) : List (Text × Text) := x.filter fun e => !e.2.isEmpty

lemma withBodies_withBodies (x : List (Text × Text)) : withBodies (withBodies x) = withBodies x := by
  rw [withBodies, withBodies, List.filter_filter]
  simp only [Bool.and_self]

namespace Rule.Simple

variable {r : Rule}

lemma valid_emptyRule (h : r.Simple) (hbody : r.braced.body.isBlank = true) :
    EmptyRule.Valid ⟨'.' :: (r.selector ++ r.braced.gap), r.braced.body⟩ where
  selector := by
    refine ⟨'.', r.selector ++ r.braced.gap, rfl, rfl, fun d hd => ?_⟩
    have hline : '\n' ∉ r.selector := not_mem_run h.selector.2 rfl
    have hne : d ≠ '\n' := by
      rintro rfl
      simp [hline, h.one_line] at hd
    have hkind : Rule.inSelector d = true ∨ isBlank d = true :=
      (List.mem_append.mp hd).imp (h.selector.2 d) (Text.isBlank_iff.mp h.gap d)
    rw [EmptyRule.inSelector, EmptyRule.isBoundary_eq_false hkind]
    simpa using hne
  gap := Text.isBlank_iff.mp hbody

lemma removeEmptyBlocks_of_isBlank (h : r.Simple) (hbody : r.braced.body.isBlank = true)
    (t : Text) : removeEmptyBlocks (r.spell ++ t) = removeEmptyBlocks t := by
  have e : r.spell = EmptyRule.spell ⟨'.' :: (r.selector ++ r.braced.gap), r.braced.body⟩ := by
    simp [Rule.spell, Braced.spell, EmptyRule.spell]
  rw [e, removeEmptyBlocks_spell_append (h.valid_emptyRule hbody)]

/-- A rule with something in its body stays, and no empty rule starts in it. -/
lemma removeEmptyBlocks_of_not_isBlank (h : r.Simple) (hbody : r.braced.body.isBlank = false)
    (t : Text) : removeEmptyBlocks (r.spell ++ t) = r.spell ++ removeEmptyBlocks t := by
  have e : ∀ u, r.spell ++ u =
      ('.' :: (r.selector ++ r.braced.gap)) ++ '{' :: (r.braced.body ++ '}' :: u) := by
    intro u
    simp [Rule.spell, Braced.spell]
  rw [e t, removeEmptyBlocks_append (EmptyRule.quiet_of_body h.valid.no_open_head h.no_close hbody t),
    removeEmptyBlocks_cons rfl,
    removeEmptyBlocks_append (EmptyRule.quiet_of_boundary h.no_open rfl (by decide) t),
    removeEmptyBlocks_cons rfl, ← e]

end Rule.Simple

namespace Reads

variable {x : List (Text × Text)} {t : Text}

/-- **Empty rules are taken off the list**, and nothing else is. -/
theorem removeEmptyBlocks (h : Reads x t) : Reads (withBodies x) (removeEmptyBlocks t) := by
  induction h with
  | done =>
    rw [removeEmptyBlocks_nil]
    exact done
  | blank c hc _ ih =>
    rw [removeEmptyBlocks_cons (by simp [EmptyRule.startsSelector, hc])]
    exact blank c hc ih
  | remark w hdot hopen hclose _ ih =>
    rw [removeEmptyBlocks_append (EmptyRule.quiet_of_boundary hopen rfl (by decide) _),
      removeEmptyBlocks_cons rfl]
    exact remark w hdot hopen hclose ih
  | @rule r x t hr _ ih =>
    rcases hbody : r.braced.body.isBlank with _ | _
    · have hne : squeeze r.braced.body ≠ [] := fun h => by
        rw [squeeze_eq_nil_iff.mp h] at hbody
        cases hbody
      rw [hr.removeEmptyBlocks_of_not_isBlank hbody, withBodies,
        List.filter_cons_of_pos (by simpa [Rule.reading] using hne)]
      exact rule r hr ih
    · have hnil : squeeze r.braced.body = [] := squeeze_eq_nil_iff.mpr hbody
      rw [hr.removeEmptyBlocks_of_isBlank hbody, withBodies,
        List.filter_cons_of_neg (by simp [Rule.reading, hnil])]
      exact ih

/-! ### Cleaning -/

lemma pass {c : Cleaner} (hc : c.dedupeLines = false) (h : Reads x t) :
    Reads (withBodies x) (c.pass t) := by
  rw [Cleaner.pass, hc]
  exact h.removeEmptyBlocks.removeBlankLines

/-- **Cleaning leaves the rules that say something**, where repeated lines are kept. -/
theorem clean {c : Cleaner} (hc : c.dedupeLines = false) (h : Reads x t) :
    Reads (withBodies x) (c.clean t) := by
  induction t using Cleaner.clean.induct c generalizing x with
  | case1 t hfix =>
    have hpass := h.pass hc
    rw [hfix] at hpass
    rwa [Cleaner.clean, if_pos hfix]
  | case2 t hmore ih =>
    have hclean := ih (h.pass hc)
    rw [withBodies_withBodies] at hclean
    rwa [Cleaner.clean, if_neg hmore]

end Reads

end DrawStyle
