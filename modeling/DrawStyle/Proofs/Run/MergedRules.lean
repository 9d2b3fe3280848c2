import DrawStyle.Run
import DrawStyle.Proofs.Merge.Flat
import DrawStyle.Proofs.Run.Reading
import DrawStyle.Proofs.Token.Reference

/-!
The rules of a merged, replaced and cleaned stylesheet.

Simple stylesheets are flat, so merging drops whole rules of the base. Replacing tokens acts on
each body by itself, since no reference crosses a brace. So the text that is cleaned is read as
a list of rules that is known, and cleaning takes out those with nothing in their bodies.
-/

namespace DrawStyle

/-- Only blanks stand outside the rules, and all rules are simple. -/
structure Sections.Simple (s : Sections Rule) : Prop where
  gap : ∀ part ∈ s.parts, Text.isBlank part.1 = true
  tail : s.tail.isBlank = true
  rule : ∀ r ∈ s.hits, r.Simple

instance (s : Sections Rule) : Decidable s.Simple :=
  decidable_of_iff ((∀ part ∈ s.parts, Text.isBlank part.1 = true) ∧ s.tail.isBlank = true ∧
      ∀ r ∈ s.hits, r.Simple)
    ⟨fun ⟨h₁, h₂, h₃⟩ => ⟨h₁, h₂, h₃⟩, fun h => ⟨h.gap, h.tail, h.rule⟩⟩

/-- No value of the table holds a brace. -/
def TokenTable.BraceFree (table : TokenTable) : Prop :=
  ∀ e ∈ table.entries, '{' ∉ e.2 ∧ '}' ∉ e.2

instance (table : TokenTable) : Decidable table.BraceFree :=
  inferInstanceAs (Decidable (∀ e ∈ table.entries, _))

/-- A rule with the values of a table in its body. -/
def Rule.resolved (table : TokenTable) (r : Rule) : Rule :=
  ⟨r.selector, ⟨r.braced.gap, table.resolve r.braced.body⟩⟩

/-! ### Merging -/

/-- **A simple stylesheet is flat.** -/
lemma Sections.Simple.flat {s : Sections Rule} (h : s.Simple) (b : Text) : s.Flat b := by
  have hblank : ∀ {t : Text}, t.isBlank = true → ∀ u, Shut t u := by
    intro t ht u
    exact shut_of_no_dot (not_mem_run (Text.isBlank_iff.mp ht) rfl)
  exact
    { valid := fun r hr => (h.rule r hr).valid
      body := fun r hr => (h.rule r hr).no_open
      gap := fun part hpart => hblank (h.gap part hpart)
      tail := hblank h.tail b }

lemma Sections.Simple.of_cons {gap tail : Text} {r : Rule} {parts : List (Text × Rule)}
    (h : Sections.Simple ⟨(gap, r) :: parts, tail⟩) :
    gap.isBlank = true ∧ r.Simple ∧ Sections.Simple ⟨parts, tail⟩ :=
  ⟨h.gap (gap, r) (by simp), h.rule r (by simp [Sections.hits]),
    { gap := fun part hpart => h.gap part (by simp [hpart])
      tail := h.tail
      rule := fun q hq => h.rule q (by simp only [Sections.hits] at hq ⊢; simp [hq]) }⟩

lemma Sections.Simple.mem_selectors {s : Sections Rule} (h : s.Simple) {name : Text} :
    name ∈ selectors (s.spell Rule.pattern) ↔ ∃ r ∈ s.hits, r.selector = name := by
  have hhits := (h.flat []).hits_keeping Rule.selects_pattern fun _ => true
  rw [List.append_nil, Pattern.hits_nil, List.append_nil, ← Sections.spell] at hhits
  rw [DrawStyle.mem_selectors, hhits]
  simp

/-- The override has a rule for the class of a rule, and rules for the class can be looked for. -/
def Sections.replaces (override : Sections Rule) (r : Rule) : Bool :=
  Rule.fits r.selector && override.hits.any fun q => decide (q.selector = r.selector)

/-- Unless the name of its class is very long, a rule is replaced by any rule for the class. -/
lemma Sections.replaces_of_byteSize_le (o : Sections Rule) {r : Rule}
    (h : r.selector.byteSize ≤ 327500) :
    o.replaces r = decide (∃ q ∈ o.hits, q.selector = r.selector) := by
  rw [replaces, Rule.fits_of_byteSize_le h, Bool.true_and, Bool.eq_iff_iff]
  simp

lemma Sections.filter_not_replaces (o : Sections Rule) {rs : List Rule}
    (h : ∀ r ∈ rs, r.selector.byteSize ≤ 327500) :
    (rs.filter fun r => !o.replaces r) =
      rs.filter fun r => !decide (∃ q ∈ o.hits, q.selector = r.selector) :=
  List.filter_congr fun r hr => by rw [o.replaces_of_byteSize_le (h r hr)]

lemma Sections.Simple.text_merge {s o : Sections Rule} (hs : s.Simple) (ho : o.Simple) :
    (merge (s.spell Rule.pattern) (o.spell Rule.pattern)).text =
      s.keeping Rule.pattern (fun r => !o.replaces r) ++
        (overrideSeparator ++ o.spell Rule.pattern) := by
  have hrm := (hs.flat []).text_removeBlocks
    (fun name hname => isClassName_of_mem_selectors (t := o.spell Rule.pattern) hname) fun _ => true
  rw [← Sections.spell] at hrm
  have hkeep : (fun r : Rule => true && decide
        (r.selector ∉ (selectors (o.spell Rule.pattern)).filter Rule.fits)) =
      fun r => !o.replaces r := by
    funext r
    rcases hfits : Rule.fits r.selector with _ | _
    · simp [Sections.replaces, hfits]
    · rw [Bool.eq_iff_iff]
      simp [Sections.replaces, hfits, ho.mem_selectors]
  rw [merge, hrm, hkeep, List.append_assoc]

/-! ### Replacing tokens -/

section Resolve

variable {table : TokenTable} {r : Rule} {t : Text}

lemma Rule.Simple.resolved (h : r.Simple) (ht : table.BraceFree) :
    (r.resolved table).Simple where
  selector := h.selector
  gap := h.gap
  one_line := h.one_line
  no_open hmem := by
    rcases TokenTable.mem_resolve hmem with hmem | ⟨e, he, hmem⟩
    · exact h.no_open hmem
    · exact (ht e he).1 hmem
  no_close hmem := by
    rcases TokenTable.mem_resolve hmem with hmem | ⟨e, he, hmem⟩
    · exact h.no_close hmem
    · exact (ht e he).2 hmem

/-- **Tokens are replaced in the body of a rule by itself.** -/
theorem Rule.Simple.resolve_spell_append (h : r.Simple) (t : Text) :
    table.resolve (r.spell ++ t) = (r.resolved table).spell ++ table.resolve t := by
  have hselector : '(' ∉ r.selector := not_mem_run h.selector.2 rfl
  have hgap : '(' ∉ r.braced.gap := not_mem_run (Text.isBlank_iff.mp h.gap) rfl
  have e : ∀ (body u : Text), ('.' :: (r.selector ++ r.braced.gap)) ++ '{' :: (body ++ '}' :: u) =
      Rule.spell ⟨r.selector, ⟨r.braced.gap, body⟩⟩ ++ u := by
    intro body u
    simp [Rule.spell, Braced.spell]
  have hhead : '(' ∉ '.' :: (r.selector ++ r.braced.gap) := by simp [hselector, hgap]
  have hclose : table.resolve ('}' :: t) = '}' :: table.resolve t :=
    TokenTable.resolve_cons (Reference.read_cons_of_ne (by decide) t)
  calc table.resolve (r.spell ++ t)
      = table.resolve (('.' :: (r.selector ++ r.braced.gap)) ++
          '{' :: (r.braced.body ++ '}' :: t)) := by rw [e]
    _ = ('.' :: (r.selector ++ r.braced.gap)) ++
          '{' :: (table.resolve r.braced.body ++ '}' :: table.resolve t) := by
        rw [TokenTable.resolve_append_of_quiet (Reference.quiet_of_no_paren rfl hhead _),
          TokenTable.resolve_cons (Reference.read_cons_of_ne (by decide) _),
          TokenTable.resolve_append_foreign rfl, hclose]
    _ = (r.resolved table).spell ++ table.resolve t := by rw [e, Rule.resolved]

lemma TokenTable.resolve_blank_append {s : Text} (hs : s.isBlank = true) (t : Text) :
    table.resolve (s ++ t) = s ++ table.resolve t := by
  induction s with
  | nil => rfl
  | cons c s ih =>
    rw [Text.isBlank_cons, Bool.and_eq_true] at hs
    have hc : c ≠ 'v' := by
      rintro rfl
      exact absurd hs.1 (by decide)
    rw [List.cons_append, resolve_cons (Reference.read_cons_of_ne hc _), ih hs.2, List.cons_append]

/-- What is read of a simple stylesheet in which some rules are kept and tokens replaced. -/
lemma Sections.Simple.reads_resolve {s : Sections Rule} (h : s.Simple) (ht : table.BraceFree)
    (keep : Rule → Bool) {x : List (Text × Text)} (hx : Reads x (table.resolve t)) :
    Reads ((s.hits.filter keep).map (fun r => (r.resolved table).reading) ++ x)
      (table.resolve (s.keeping Rule.pattern keep ++ t)) := by
  obtain ⟨parts, tail⟩ := s
  induction parts with
  | nil =>
    rw [Sections.keeping_nil, TokenTable.resolve_blank_append h.tail]
    exact hx.blanks h.tail
  | cons part parts ih =>
    obtain ⟨gap, r⟩ := part
    obtain ⟨hgap, hr, hrest⟩ := h.of_cons
    have hhits : Sections.hits ⟨(gap, r) :: parts, tail⟩ = r :: Sections.hits ⟨parts, tail⟩ := rfl
    rw [Sections.keeping_cons, List.append_assoc, TokenTable.resolve_blank_append hgap, hhits]
    refine Reads.blanks hgap ?_
    rcases hk : keep r with _ | _
    · rw [List.filter_cons_of_neg (by simp [hk])]
      simpa using ih hrest
    · rw [List.filter_cons_of_pos hk, if_pos rfl, Rule.spell_pattern, List.append_assoc,
        hr.resolve_spell_append, List.map_cons, List.cons_append]
      exact Reads.rule _ (hr.resolved ht) (ih hrest)

lemma reads_resolve_separator {x : List (Text × Text)} (hx : Reads x (table.resolve t)) :
    Reads x (table.resolve (overrideSeparator ++ t)) := by
  have e : ∀ u : Text, overrideSeparator ++ u =
      '\n' :: ("/* ---- overrides ---- *".toList ++ '/' :: ('\n' :: u)) := fun _ => rfl
  have hquiet := Reference.quiet_of_no_paren (c := '/') (s := "/* ---- overrides ---- *".toList)
    rfl (by decide) ('\n' :: t)
  rw [e, TokenTable.resolve_cons (Reference.read_cons_of_ne (by decide) _),
    TokenTable.resolve_append_of_quiet hquiet,
    TokenTable.resolve_cons (Reference.read_cons_of_ne (by decide) _),
    TokenTable.resolve_cons (Reference.read_cons_of_ne (by decide) _)]
  refine Reads.blank '\n' rfl (Reads.remark _ (by decide) (by decide) (by decide) ?_)
  exact Reads.blank '\n' rfl hx

end Resolve

/-! ### The whole run -/

lemma withBodies_map_reading (table : TokenTable) (rs : List Rule) :
    withBodies (rs.map fun r => (r.resolved table).reading) =
      (rs.filter fun r => !(table.resolve r.braced.body).isBlank).map fun r =>
        (r.selector, squeeze (table.resolve r.braced.body)) := by
  rw [withBodies, List.filter_map]
  congr 1
  refine List.filter_congr fun r _ => ?_
  rw [Function.comp_apply, Bool.eq_iff_iff, Bool.not_eq_true', Bool.not_eq_true',
    ← Bool.not_eq_true, ← Bool.not_eq_true, List.isEmpty_iff, not_iff_not]
  exact squeeze_eq_nil_iff

/-- What is left in the end is known by the rules of the base that merging leaves. -/
lemma Sections.Simple.ruleBlocks_run {base override : Sections Rule} (hb : base.Simple)
    (ho : override.Simple) {table : TokenTable} (ht : table.BraceFree) {keep : Rule → Bool}
    (h : (merge (base.spell Rule.pattern) (override.spell Rule.pattern)).text =
      base.keeping Rule.pattern keep ++ (overrideSeparator ++ override.spell Rule.pattern)) :
    (ruleBlocks (({} : Cleaner).keepDuplicates.clean (table.resolution
        (merge (base.spell Rule.pattern) (override.spell Rule.pattern)).text).text)).map
          (fun b => (b.selector, squeeze b.body)) =
      ((base.hits.filter keep ++ override.hits).filter fun r =>
          !(table.resolve r.braced.body).isBlank).map fun r =>
        (r.selector, squeeze (table.resolve r.braced.body)) := by
  have hnil : Reads [] (table.resolve []) := by
    rw [TokenTable.resolve, Pattern.replace_nil]
    exact Reads.done
  have hover := ho.reads_resolve ht (fun _ => true) hnil
  rw [List.append_nil, List.append_nil, ← Sections.spell] at hover
  have hmerged := hb.reads_resolve ht keep (reads_resolve_separator hover)
  rw [← h] at hmerged
  have hclean := hmerged.clean (c := ({} : Cleaner).keepDuplicates) rfl
  have hrules := hclean.map_ruleBlocks
  rw [List.filter_true, ← List.map_append, withBodies_map_reading] at hrules
  exact hrules

/-- **The rules of a merged stylesheet.** For simple stylesheets and a table whose values hold
no brace, where repeated lines are kept, the rules of the file that a merge run writes are the
rules of the base that the override does not replace and then the rules of the override, but for
those in whose body nothing stands once tokens are replaced. Each has its class and, but for blanks,
its body with the tokens replaced. A rule whose class name has at most 327500 bytes is replaced
exactly if the override has a rule for the class. -/
theorem ruleBlocks_merge_run (base override : Sections Rule) (hb : base.Simple)
    (ho : override.Simple) (table : TokenTable) (ht : table.BraceFree) :
    (ruleBlocks (({} : Cleaner).keepDuplicates.clean (table.resolution
        (merge (base.spell Rule.pattern) (override.spell Rule.pattern)).text).text)).map
          (fun b => (b.selector, squeeze b.body)) =
      (((base.hits.filter fun r => !override.replaces r) ++
          override.hits).filter fun r => !(table.resolve r.braced.body).isBlank).map (fun r =>
        (r.selector, squeeze (table.resolve r.braced.body))) ∧
    ∀ r ∈ base.hits, r.selector.byteSize ≤ 327500 →
      (override.replaces r = true ↔ ∃ q ∈ override.hits, q.selector = r.selector) :=
  ⟨hb.ruleBlocks_run ho ht (hb.text_merge ho), fun _ _ hsize => by
    rw [Sections.replaces_of_byteSize_le override hsize, decide_eq_true_iff]⟩

theorem ruleBlocks_merge_run_empty_override :
    (ruleBlocks (({} : Cleaner).keepDuplicates.clean (TokenTable.drawingDefaults.resolution
        (merge ".a \x7b w: var(--t1) \x7d\n.b \x7bx\x7d .c \x7b\n\x7d\n".toList
          ".b \x7b\x7d\n.d\x7by\x7d".toList).text).text)).map (fun b => (b.selector, squeeze b.body)) =
      [("a".toList, "w:0.03px".toList), ("d".toList, "y".toList)] := by
  obtain ⟨h, -⟩ := ruleBlocks_merge_run
    ⟨[([], ⟨"a".toList, ⟨" ".toList, " w: var(--t1) ".toList⟩⟩),
      ("\n".toList, ⟨"b".toList, ⟨" ".toList, "x".toList⟩⟩),
      (" ".toList, ⟨"c".toList, ⟨" ".toList, "\n".toList⟩⟩)], "\n".toList⟩
    ⟨[([], ⟨"b".toList, ⟨" ".toList, []⟩⟩), ("\n".toList, ⟨"d".toList, ⟨[], "y".toList⟩⟩)], []⟩
    (by decide +kernel) (by decide +kernel) TokenTable.drawingDefaults (by decide +kernel)
  rw [Sections.filter_not_replaces _ (by decide +kernel)] at h
  exact h.trans (by decide +kernel)

/-- One rule and nothing else. -/
def Rule.alone (r : Rule) : Sections Rule := ⟨[([], r)], []⟩

lemma Rule.Simple.alone {r : Rule} (h : r.Simple) : r.alone.Simple where
  gap part hpart := by
    rw [List.mem_singleton.mp hpart]
    rfl
  tail := rfl
  rule q hq := by
    obtain rfl := List.mem_singleton.mp hq
    exact h

/-- A rule for the class whose name is too long, with something in its body. -/
def longBaseRule : Rule := ⟨longName, [], ['x']⟩

/-- A rule is not replaced if its class name is too long. -/
theorem ruleBlocks_merge_run_longName :
    longBaseRule.alone.Simple ∧ longRule.alone.Simple ∧ TokenTable.empty.BraceFree ∧
    (ruleBlocks (({} : Cleaner).keepDuplicates.clean (TokenTable.empty.resolution
        (merge (longBaseRule.alone.spell Rule.pattern)
          (longRule.alone.spell Rule.pattern)).text).text)).map
          (fun b => (b.selector, squeeze b.body)) ≠
      (((longBaseRule.alone.hits.filter fun r =>
            decide (∀ q ∈ longRule.alone.hits, q.selector ≠ r.selector)) ++
          longRule.alone.hits).filter fun r =>
            !(TokenTable.empty.resolve r.braced.body).isBlank).map fun r =>
        (r.selector, squeeze (TokenTable.empty.resolve r.braced.body)) := by
  have hbase : longBaseRule.alone.Simple :=
    Rule.Simple.alone ⟨isClassName_longName, rfl, by decide, by decide, by decide⟩
  have hover : longRule.alone.Simple :=
    Rule.Simple.alone ⟨isClassName_longName, rfl, by decide, by decide, by decide⟩
  have htable : TokenTable.empty.BraceFree := by decide
  have hrun := hbase.ruleBlocks_run hover htable (hbase.text_merge hover)
  refine ⟨hbase, hover, htable, ?_⟩
  have hkept : longRule.alone.replaces longBaseRule = false :=
    (congrArg (· && _) fits_longName).trans (Bool.false_and _)
  have hleft : (longBaseRule.alone.hits.filter fun r => !longRule.alone.replaces r) =
      [longBaseRule] :=
    List.filter_cons_of_pos (by rw [hkept, Bool.not_false])
  have hnone : (longBaseRule.alone.hits.filter fun r =>
      decide (∀ q ∈ longRule.alone.hits, q.selector ≠ r.selector)) = [] :=
    List.filter_cons_of_neg (by simp [Rule.alone, Sections.hits, longBaseRule, longRule])
  rw [hrun, hleft, hnone]
  -- one rule is left, where none would be if the base had lost its own
  intro heq
  have hlength := congrArg List.length heq
  rw [List.length_map, List.length_map] at hlength
  exact absurd hlength (by decide +kernel)

end DrawStyle
