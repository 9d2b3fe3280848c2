import DrawStyle.Proofs.Pattern.Sections
import DrawStyle.Proofs.Rule.Shape
import DrawStyle.Proofs.Text.Repeats

/-!
The rules that are listed for a text.

Each listed block is a well-formed rule of the text: its text is that of the rule and its body
what stands between the braces. The selectors of a text are the class names of its rules, each
once.
-/

namespace DrawStyle

/-- A block without its place: its selector and its text. -/
def RuleBlock.content (b : RuleBlock) : Text × Text := (b.selector, b.text)

/-- A rule as the content of the block that it gives. -/
def Rule.content (r : Rule) : Text × Text := (r.selector, r.spell)

/-- A rule from its dot through its opening brace. -/
def Rule.head (r : Rule) : Text := '.' :: (r.selector ++ r.braced.gap) ++ ['{']

section

variable {t : Text}

/-- What is known of a block apart from its place is known from its rule. -/
lemma map_ruleBlocks {β : Type} (f : RuleBlock → β) (g : Rule → β)
    (hfg : ∀ n r, r ∈ Rule.pattern.hits t → f (r.toBlock n) = g r) :
    (ruleBlocks t).map f = (Rule.pattern.hits t).map g := by
  have hsnd : ∀ x ∈ Rule.pattern.located t, x.2 ∈ Rule.pattern.hits t := fun x hx => by
    rw [← Pattern.map_snd_located]; exact List.mem_map_of_mem hx
  rw [ruleBlocks, List.map_map, ← Pattern.map_snd_located, List.map_map]
  exact List.map_congr_left fun x hx => hfg x.1 x.2 (hsnd x hx)

lemma map_content_ruleBlocks (t : Text) :
    (ruleBlocks t).map RuleBlock.content = (Rule.pattern.hits t).map Rule.content :=
  map_ruleBlocks _ _ fun _ _ _ => rfl

lemma map_content_filter_ruleBlocks (t : Text) (P : Text → Bool) :
    ((ruleBlocks t).filter fun b => P b.selector).map RuleBlock.content =
      ((Rule.pattern.hits t).filter fun r => P r.selector).map Rule.content := by
  have h := congrArg (List.filter fun c => P c.1) (map_content_ruleBlocks t)
  rwa [List.filter_map, List.filter_map] at h

lemma selectors_eq (t : Text) :
    selectors t = ((Rule.pattern.hits t).map Rule.selector).eraseDups := by
  rw [selectors, map_ruleBlocks RuleBlock.selector Rule.selector fun _ _ _ => rfl]

lemma mem_selectors {name : Text} :
    name ∈ selectors t ↔ ∃ r ∈ Rule.pattern.hits t, r.selector = name := by
  rw [selectors_eq, List.mem_eraseDups, List.mem_map]

lemma nodup_selectors (t : Text) : (selectors t).Nodup := by
  rw [selectors_eq]; exact nodup_eraseDups _

lemma isClassName_of_mem_selectors {name : Text} (h : name ∈ selectors t) : IsClassName name := by
  obtain ⟨r, hr, rfl⟩ := mem_selectors.mp h
  exact (Rule.valid_of_mem_hits hr).selector

lemma exists_of_mem_ruleBlocks {b : RuleBlock} (h : b ∈ ruleBlocks t) :
    ∃ n, ∃ r ∈ Rule.pattern.hits t, r.toBlock n = b := by
  obtain ⟨⟨n, r⟩, hr, rfl⟩ := List.mem_map.mp h
  refine ⟨n, r, ?_, rfl⟩
  rw [← Pattern.map_snd_located]
  exact List.mem_map_of_mem hr

lemma Rule.spell_eq_head_append (r : Rule) :
    r.spell = '.' :: (r.selector ++ r.braced.gap) ++ '{' :: (r.braced.body ++ ['}']) := by
  simp [spell, Braced.spell]

namespace Rule.Valid

variable {r : Rule}

lemma no_open_head (h : r.Valid) : '{' ∉ '.' :: (r.selector ++ r.braced.gap) := by
  have hsel : '{' ∉ r.selector := not_mem_run h.selector.2 rfl
  have hgap : '{' ∉ r.braced.gap := not_mem_run h.braced.gap rfl
  simp [hsel, hgap]

lemma no_open_run (h : r.Valid) : ∀ c ∈ '.' :: (r.selector ++ r.braced.gap), (c != '{') = true := by
  intro c hc
  rw [bne_iff_ne]
  rintro rfl
  exact h.no_open_head hc

/-- **The body of a block** is the body of its rule: neither the class name nor the blanks
behind it hold a brace. -/
theorem body_toBlock (h : r.Valid) (n : ℕ) : (r.toBlock n).body = r.braced.body := by
  simp only [RuleBlock.body, toBlock, afterBrace, r.spell_eq_head_append,
    dropWhile_run h.no_open_run (c := '{') (by decide)]
  simp

/-! ### A rule on its own -/

lemma sections_spell (h : r.Valid) : pattern.sections r.spell = ⟨[([], r)], []⟩ := by
  have hread : pattern.read r.spell = some (r, []) := by
    rw [← List.append_nil r.spell]
    exact h.read_spell_append []
  rw [Pattern.sections_of_read hread, Pattern.sections, Pattern.pieces_nil]
  rfl

lemma ruleBlocks_spell (h : r.Valid) : ruleBlocks r.spell = [r.toBlock 0] := by
  rw [ruleBlocks, Pattern.located_eq_locate_sections, h.sections_spell]
  rfl

lemma selectors_spell (h : r.Valid) : selectors r.spell = [r.selector] := by
  rw [selectors, h.ruleBlocks_spell]
  rfl

end Rule.Valid

end

end DrawStyle
