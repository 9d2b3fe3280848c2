import DrawStyle.Proofs.Merge.Flat

/-!
An override replaces whole rules of a flat base.

What is left of the base are all of its gaps and the rules for the classes that have no rule in
the override, unchanged and in order; the rules of the merged text are those rules and then the
rules of the override. Rules for a class whose name is too long are not looked for and stay.
-/

namespace DrawStyle

/-- A text without its rules for some classes: all gaps and all other rules, in order. -/
def withoutRules (t : Text) (names : List Text) : Text :=
  (Rule.pattern.sections t).keeping Rule.pattern fun r => decide (r.selector ∉ names)

/-- The classes of an override whose rules are looked for in a base. -/
def soughtSelectors (override : Text) : List Text := (selectors override).filter Rule.fits

section

variable {base override : Text}

lemma mem_soughtSelectors {name : Text} :
    name ∈ soughtSelectors override ↔ name ∈ selectors override ∧ Rule.fits name = true :=
  List.mem_filter

lemma FlatSheet.removeBlocks (h : FlatSheet base) {names : List Text}
    (hn : ∀ name ∈ names, IsClassName name) :
    (removeBlocks base names).text = withoutRules base (names.filter Rule.fits) := by
  have hflat := h.flat (b := []) (shut_of_end h.tail)
  have hrm := hflat.text_removeBlocks hn fun _ => true
  rw [← Sections.spell, Pattern.spell_sections] at hrm
  simpa [withoutRules] using hrm

lemma FlatSheet.replaced_merge (h : FlatSheet base) :
    (merge base override).replaced =
      (soughtSelectors override).filter fun name => decide (name ∈ selectors base) := by
  have hflat := h.flat (b := []) (shut_of_end h.tail)
  have hrm := hflat.removed_removeBlocks
    (fun name hname => isClassName_of_mem_selectors (t := override) hname)
    (nodup_selectors override) fun _ => true
  rw [← Sections.spell, Pattern.spell_sections] at hrm
  rw [merge, hrm]
  refine List.filter_congr fun name _ => ?_
  rw [Bool.eq_iff_iff, decide_eq_true_iff, mem_selectors, List.any_eq_true, Pattern.hits_sections]
  simp

/-- Where no class has rules that can be looked for, the base is left as it is. -/
lemma merge_of_not_fits (base : Text) (h : ∀ name ∈ selectors override, Rule.fits name = false) :
    merge base override = ⟨base ++ overrideSeparator ++ override, []⟩ := by
  rw [merge, removeBlocks_of_not_fits h]

/-- Of a rule on its own nothing is left without the rules for its class. -/
lemma Rule.Valid.withoutRules_spell {r : Rule} (hr : r.Valid) :
    withoutRules r.spell [r.selector] = [] := by
  rw [withoutRules, hr.sections_spell]
  simp

/-- The rules of a merged text: those that are left of the base, then those of the override. -/
lemma FlatSheet.hits_withoutRules (h : FlatSheet base) (names : List Text) (override : Text) :
    Rule.pattern.hits (withoutRules base names ++ overrideSeparator ++ override) =
      (Rule.pattern.hits base).filter (fun r => decide (r.selector ∉ names)) ++
        Rule.pattern.hits override := by
  obtain ⟨htail, hsep⟩ := shut_overrideSeparator h.tail override
  have hkept := (h.flat htail).hits_keeping Rule.selects_pattern
    fun r => decide (r.selector ∉ names)
  rw [withoutRules, List.append_assoc, hkept,
    Pattern.hits_append_of_quiet (Rule.selects_pattern.quiet hsep), Pattern.hits_sections]
  simp

end

/-- **An override replaces whole rules of a flat base.** The merged text is the base without
its rules for the classes of the override whose rules are looked for, the separator and the override;
the classes listed as replaced are those of them that had a rule in the base; and the rules found in
the merged text are the rules left of the base and then the rules of the override. What is left of
the base depends on the set of the classes alone, not on how often or in which order they are
taken out. Rules are looked for if the name of their class has at most 327500 bytes. -/
theorem merge_of_flatSheet (base override : Text) (h : FlatSheet base) :
    (merge base override).text =
        withoutRules base (soughtSelectors override) ++ overrideSeparator ++ override ∧
      (merge base override).replaced =
        (soughtSelectors override).filter (fun name => decide (name ∈ selectors base)) ∧
      (ruleBlocks (merge base override).text).map RuleBlock.content =
        ((ruleBlocks base).filter fun b => decide (b.selector ∉ soughtSelectors override)).map
            RuleBlock.content ++
          (ruleBlocks override).map RuleBlock.content ∧
      (∀ names : List Text, (∀ name, name ∈ names ↔ name ∈ selectors override) →
        (removeBlocks base names).text = withoutRules base (soughtSelectors override)) ∧
      ∀ name ∈ selectors override, name.byteSize ≤ 327500 → name ∈ soughtSelectors override := by
  have htext : (merge base override).text =
      withoutRules base (soughtSelectors override) ++ overrideSeparator ++ override := by
    rw [merge, h.removeBlocks fun name hname => isClassName_of_mem_selectors hname, soughtSelectors]
  refine ⟨htext, h.replaced_merge, ?_, fun names hnames => ?_, fun name hname hsize =>
    mem_soughtSelectors.mpr ⟨hname, Rule.fits_of_byteSize_le hsize⟩⟩
  · rw [htext, map_content_ruleBlocks, h.hits_withoutRules, List.map_append, map_content_ruleBlocks,
      map_content_filter_ruleBlocks base fun name => decide (name ∉ soughtSelectors override)]
  · rw [h.removeBlocks fun name hname => isClassName_of_mem_selectors ((hnames name).mp hname)]
    unfold withoutRules
    congr 1
    ext r
    simp [hnames, mem_soughtSelectors]

theorem merge_of_flatSheet_two_classes :
    FlatSheet "/*.*/.a \x7bx\x7d\n.b \x7by\x7dp \x7b\x7d\n.a \x7b\x7d.x".toList ∧
      (merge "/*.*/.a \x7bx\x7d\n.b \x7by\x7dp \x7b\x7d\n.a \x7b\x7d.x".toList
          ".c \x7b\x7d\n.a \x7bz\x7d".toList).text =
        ("/*.*/\n.b \x7by\x7dp \x7b\x7d\n.x\n/* ---- overrides ---- */\n" ++
          ".c \x7b\x7d\n.a \x7bz\x7d").toList ∧
      (merge "/*.*/.a \x7bx\x7d\n.b \x7by\x7dp \x7b\x7d\n.a \x7b\x7d.x".toList
        ".c \x7b\x7d\n.a \x7bz\x7d".toList).replaced = ["a".toList] := by
  have h : FlatSheet "/*.*/.a \x7bx\x7d\n.b \x7by\x7dp \x7b\x7d\n.a \x7b\x7d.x".toList := by
    decide +kernel
  have hsought : soughtSelectors ".c \x7b\x7d\n.a \x7bz\x7d".toList = ["c".toList, "a".toList] := by
    rw [soughtSelectors, Rule.filter_fits_eq_self (by decide +kernel)]
    decide +kernel
  obtain ⟨htext, hreplaced, -⟩ := merge_of_flatSheet _ ".c \x7b\x7d\n.a \x7bz\x7d".toList h
  rw [hsought] at htext hreplaced
  refine ⟨h, ?_, ?_⟩
  · rw [htext]
    decide +kernel
  · rw [hreplaced]
    decide +kernel

/-- A rule whose class name is too long is not replaced when it is laid over itself. -/
theorem not_replaced_longRule : FlatSheet longRule.spell ∧
    (merge longRule.spell longRule.spell).text ≠
      withoutRules longRule.spell (selectors longRule.spell) ++ overrideSeparator ++ longRule.spell ∧
    (merge longRule.spell longRule.spell).replaced ≠
      (selectors longRule.spell).filter
        (fun name => decide (name ∈ selectors longRule.spell)) := by
  have hselectors := valid_longRule.selectors_spell
  have hlong : ∀ name ∈ selectors longRule.spell, Rule.fits name = false :=
    hselectors ▸ List.forall_mem_singleton.mpr fits_longName
  have hmerge := merge_of_not_fits longRule.spell hlong
  refine ⟨valid_longRule.flatSheet_spell List.not_mem_nil, ?_, ?_⟩
  · rw [hmerge, hselectors, valid_longRule.withoutRules_spell]
    simp [Rule.spell_ne_nil]
  · rw [hmerge, hselectors]
    simp

end DrawStyle
