import DrawStyle.Proofs.Clean.EmptyRule
import DrawStyle.Proofs.Pattern.Spans
import Mathlib.Data.List.DropRight

/-!
Which empty rules are taken out, place by place.

Whether an opening brace belongs to an empty rule is seen from the text around it: behind it
stands a closing brace after blanks only, and what stands in front of it on its line, up to the
last brace, semicolon or slash, is not blank. Its rule starts with the first character there that
is not a blank. A scan finds the rules of these braces and no others: it comes to the first
character of such a rule with nothing of the selector passed over. So the rules do not overlap,
and they are what is taken out of a text.
-/

namespace DrawStyle

namespace EmptyRule

/-- What stands at the end of a text behind its last brace, semicolon, slash or newline. -/
def stretchBefore (u : Text) : Text := u.rtakeWhile inSelector

/-- What of it belongs to the selector of a rule whose opening brace follows. -/
def selectorBefore (u : Text) : Text := (stretchBefore u).dropWhile isBlank

/-- At a place of a text stands an opening brace, with only blanks between it and a closing one,
and not only blanks in front of it. -/
structure EmptyBraceAt (t : Text) (q : ℕ) : Prop where
  opens : t[q]? = some '{'
  closes : ((t.drop (q + 1)).dropWhile isBlank).head? = some '}'
  selector : ∃ c ∈ stretchBefore (t.take q), isBlank c = false

instance (t : Text) : DecidablePred (EmptyBraceAt t) := fun q =>
  decidable_of_iff (t[q]? = some '{' ∧ ((t.drop (q + 1)).dropWhile isBlank).head? = some '}' ∧
      (stretchBefore (t.take q)).isBlank = false)
    ⟨fun h => ⟨h.1, h.2.1, by simpa [Text.isBlank] using h.2.2⟩,
      fun h => ⟨h.1, h.2, by simpa [Text.isBlank] using h.3⟩⟩

/-- The places of such braces, from left to right. -/
def emptyBraces (t : Text) : List ℕ := (List.range t.length).filter fun q => EmptyBraceAt t q

/-- The span of the rule of an opening brace: from the first character in front of the brace that
belongs to its selector through the closing brace behind it. -/
def spanAt (t : Text) (q : ℕ) : ℕ × ℕ :=
  (q - (selectorBefore (t.take q)).length,
    q + 1 + ((t.drop (q + 1)).takeWhile isBlank).length + 1)

variable {c : Char} {r : EmptyRule} {s t u v rest : Text} {q : ℕ}

/-! ### What stands in front of a brace -/

lemma selectorBefore_append_run (hs : ∀ d ∈ s, inSelector d = true) (u : Text) :
    selectorBefore (u ++ s) = (stretchBefore u ++ s).dropWhile isBlank := by
  rw [selectorBefore, stretchBefore, rtakeWhile_append_run hs, ← stretchBefore]

lemma selectorBefore_append (hs : ∀ d ∈ s, inSelector d = true) (hne : selectorBefore u ≠ []) :
    selectorBefore (u ++ s) = selectorBefore u ++ s := by
  rw [selectorBefore_append_run hs, List.dropWhile_append, ← selectorBefore,
    if_neg (by simpa using hne)]

/-- Where none has started, it starts with the first character that is not a blank. -/
lemma selectorBefore_append_of_nil (hs : ∀ d ∈ s, inSelector d = true)
    (hnil : selectorBefore u = []) : selectorBefore (u ++ s) = s.dropWhile isBlank := by
  rw [selectorBefore_append_run hs, List.dropWhile_append, ← selectorBefore,
    if_pos (by simp [hnil])]

lemma selectorBefore_concat_of_not_inSelector (hc : inSelector c = false) (u : Text) :
    selectorBefore (u ++ [c]) = [] := by
  rw [selectorBefore, stretchBefore, List.rtakeWhile_concat_neg _ _ _ (by simp [hc]),
    List.dropWhile_nil]

lemma selectorBefore_ne_nil_iff :
    selectorBefore u ≠ [] ↔ ∃ d ∈ stretchBefore u, isBlank d = false := by
  rw [selectorBefore, ne_eq, List.dropWhile_eq_nil_iff]
  simp

/-- What stands in front of an opening brace is the selector of an empty rule, if only blanks stand
between the braces. -/
lemma valid_selectorBefore (hne : selectorBefore u ≠ []) {gap : Text}
    (hgap : ∀ d ∈ gap, isBlank d = true) : Valid ⟨selectorBefore u, gap⟩ := by
  have hin : ∀ d ∈ selectorBefore u, inSelector d = true := fun d hd =>
    List.mem_rtakeWhile_imp ((List.dropWhile_sublist isBlank).mem hd)
  obtain ⟨d, w, hsel⟩ := List.exists_cons_of_ne_nil hne
  have hvisible : isBlank d = false := by
    have hhead := List.head?_dropWhile_not isBlank (stretchBefore u)
    rw [← selectorBefore, hsel] at hhead
    simpa using hhead
  have hboundary := hin d (by simp [hsel])
  rw [inSelector, Bool.and_eq_true] at hboundary
  refine ⟨⟨d, w, hsel, ?_, fun e he => hin e (by simp [hsel, he])⟩, hgap⟩
  rw [startsSelector, hvisible, hboundary.1]
  rfl

/-- An empty rule is read where the selector of such a brace starts. -/
lemma read_selectorBefore_append (hne : selectorBefore u ≠ [])
    (hclose : (v.dropWhile isBlank).head? = some '}') :
    pattern.read (selectorBefore u ++ '{' :: v) ≠ none := by
  obtain ⟨rest, hrest⟩ := List.head?_eq_some_iff.mp hclose
  have hvalid := valid_selectorBefore hne fun d (hd : d ∈ v.takeWhile isBlank) =>
    List.mem_takeWhile_imp hd
  have e : selectorBefore u ++ '{' :: v =
      spell ⟨selectorBefore u, v.takeWhile isBlank⟩ ++ rest := by
    have hv := List.takeWhile_append_dropWhile (p := isBlank) (l := v)
    rw [hrest] at hv
    conv_lhs => rw [← hv]
    simp [spell]
  have hread : pattern.read _ = some (_, rest) := hvalid.read_spell_append rest
  rw [e, hread]
  exact Option.some_ne_none _

/-! ### What a scan has passed over -/

/-- No empty rule starts in what is passed over and goes on in the text that follows. -/
def Settled (u t : Text) : Prop :=
  selectorBefore u ≠ [] → pattern.read (selectorBefore u ++ t) = none

lemma settled_of_selectorBefore_eq_nil (h : selectorBefore u = []) (t : Text) : Settled u t :=
  fun hne => absurd h hne

/-- A character at which no empty rule is read is passed over. -/
lemma Settled.concat (h : Settled u (c :: t)) (hr : pattern.read (c :: t) = none) :
    Settled (u ++ [c]) t := by
  rcases hc : inSelector c with _ | _
  · exact settled_of_selectorBefore_eq_nil (selectorBefore_concat_of_not_inSelector hc u) t
  · have hone : ∀ d ∈ [c], inSelector d = true := by simpa using hc
    rcases eq_or_ne (selectorBefore u) [] with hnil | hne
    · rw [Settled, selectorBefore_append_of_nil hone hnil]
      rcases hblank : isBlank c with _ | _
      · rw [List.dropWhile_cons_of_neg (by simp [hblank])]
        exact fun _ => hr
      · rw [List.dropWhile_cons_of_pos hblank]
        exact fun hne => absurd rfl hne
    · rw [Settled, selectorBefore_append hone hne, List.append_assoc]
      exact fun _ => h hne

/-- **Where an empty rule is read, no selector has started**: the rule would start earlier. -/
lemma Settled.selectorBefore_eq_nil (hr : r.Valid) (h : Settled u (r.spell ++ rest)) :
    selectorBefore u = [] := by
  by_contra hne
  have hclose : ((r.gap ++ '}' :: rest).dropWhile isBlank).head? = some '}' := by
    rw [dropWhile_run hr.gap rfl]
    rfl
  have hlonger := selectorBefore_append hr.inSelector_of_mem hne
  have e : selectorBefore u ++ (r.spell ++ rest) =
      selectorBefore (u ++ r.selector) ++ '{' :: (r.gap ++ '}' :: rest) := by
    rw [hlonger]
    simp [spell]
  have hnone := h hne
  rw [e] at hnone
  exact read_selectorBefore_append (by simp [hlonger, hne]) hclose hnone

/-! ### Braces of empty rules -/

lemma emptyBraceAt_append_cons :
    EmptyBraceAt (u ++ c :: v) u.length ↔
      c = '{' ∧ (v.dropWhile isBlank).head? = some '}' ∧ selectorBefore u ≠ [] := by
  have hchar : (u ++ c :: v)[u.length]? = some c := by simp
  have hfront : (u ++ c :: v).take u.length = u := List.take_left
  have hback : (u ++ c :: v).drop (u.length + 1) = v := by simp
  rw [selectorBefore_ne_nil_iff]
  constructor
  · rintro ⟨hopen, hclose, hselector⟩
    rw [hchar, Option.some.injEq] at hopen
    rw [hback] at hclose
    rw [hfront] at hselector
    exact ⟨hopen, hclose, hselector⟩
  · rintro ⟨hopen, hclose, hselector⟩
    exact ⟨by rw [hchar, hopen], by rwa [hback], by rwa [hfront]⟩

lemma spanAt_append_cons :
    spanAt (u ++ c :: v) u.length =
      (u.length - (selectorBefore u).length, u.length + 1 + (v.takeWhile isBlank).length + 1) := by
  have hfront : (u ++ c :: v).take u.length = u := List.take_left
  have hback : (u ++ c :: v).drop (u.length + 1) = v := by simp
  rw [spanAt, hfront, hback]

/-- The braces of empty rules in `t`, where `u` stands in front of it. -/
def emptyBracesFrom (u t : Text) : List ℕ :=
  (List.range' u.length t.length).filter fun q => EmptyBraceAt (u ++ t) q

lemma emptyBracesFrom_cons_of_not (h : ¬ EmptyBraceAt (u ++ c :: t) u.length) :
    emptyBracesFrom u (c :: t) = emptyBracesFrom (u ++ [c]) t := by
  have e : u ++ [c] ++ t = u ++ c :: t := by simp
  rw [emptyBracesFrom, emptyBracesFrom, e, List.length_cons, List.range'_succ,
    List.filter_cons_of_neg (by simpa using h), List.length_append, List.length_singleton]

lemma emptyBracesFrom_cons_of_pos (h : EmptyBraceAt (u ++ c :: t) u.length) :
    emptyBracesFrom u (c :: t) = u.length :: emptyBracesFrom (u ++ [c]) t := by
  have e : u ++ [c] ++ t = u ++ c :: t := by simp
  rw [emptyBracesFrom, emptyBracesFrom, e, List.length_cons, List.range'_succ,
    List.filter_cons_of_pos (by simpa using h), List.length_append, List.length_singleton]

lemma emptyBracesFrom_append (hs : '{' ∉ s) (u t : Text) :
    emptyBracesFrom u (s ++ t) = emptyBracesFrom (u ++ s) t := by
  induction s generalizing u with
  | nil => simp
  | cons c s ih =>
    rw [List.mem_cons, not_or] at hs
    have hnot : ¬ EmptyBraceAt (u ++ c :: (s ++ t)) u.length := fun h =>
      hs.1 (emptyBraceAt_append_cons.mp h).1.symm
    rw [List.cons_append, emptyBracesFrom_cons_of_not hnot, ih hs.2, List.append_assoc,
      List.singleton_append]

/-- An empty rule has one opening brace, and its span is that of the brace. -/
lemma Valid.emptyBracesFrom_spell_append (hr : r.Valid) (hnil : selectorBefore u = [])
    (rest : Text) :
    emptyBracesFrom u (r.spell ++ rest) =
        (u ++ r.selector).length :: emptyBracesFrom (u ++ r.spell) rest ∧
      spanAt (u ++ (r.spell ++ rest)) (u ++ r.selector).length =
        (u.length, u.length + r.spell.length) := by
  obtain ⟨d, w, hsel, hd, -⟩ := hr.selector
  have hblank : isBlank d = false := by
    rw [startsSelector, Bool.and_eq_true, Bool.not_eq_true'] at hd
    exact hd.1
  have hbefore : selectorBefore (u ++ r.selector) = r.selector := by
    rw [selectorBefore_append_of_nil hr.inSelector_of_mem hnil, hsel,
      List.dropWhile_cons_of_neg (by simp [hblank])]
  have hnoselector : '{' ∉ r.selector := not_mem_run hr.not_isBoundary rfl
  have hnogap : '{' ∉ r.gap ++ ['}'] := by simpa using not_mem_run hr.gap rfl
  have hcut : r.spell ++ rest = r.selector ++ '{' :: (r.gap ++ '}' :: rest) := by simp [spell]
  have hbrace : EmptyBraceAt (u ++ r.selector ++ '{' :: (r.gap ++ '}' :: rest))
      (u ++ r.selector).length := by
    refine emptyBraceAt_append_cons.mpr ⟨rfl, ?_, by rw [hbefore, hsel]; exact List.cons_ne_nil d w⟩
    rw [dropWhile_run hr.gap rfl]
    rfl
  constructor
  · have hback : r.gap ++ '}' :: rest = (r.gap ++ ['}']) ++ rest := by simp
    have hspell : u ++ r.selector ++ ['{'] ++ (r.gap ++ ['}']) = u ++ r.spell := by simp [spell]
    rw [hcut, emptyBracesFrom_append hnoselector, emptyBracesFrom_cons_of_pos hbrace, hback,
      emptyBracesFrom_append hnogap, hspell]
  · rw [hcut, ← List.append_assoc, spanAt_append_cons, hbefore, takeWhile_run hr.gap rfl]
    simp only [spell, List.length_append, List.length_cons, List.length_nil, Prod.mk.injEq]
    omega

/-! ### All empty rules -/

/-- The scan finds the rules of the braces that are still to come. -/
lemma spansFrom_pieces (h : Settled u t) :
    pattern.spansFrom u.length (pattern.pieces t) =
      (emptyBracesFrom u t).map (spanAt (u ++ t)) := by
  induction t using Pattern.scan_induction (p := pattern) generalizing u with
  | nil => simp [Pattern.spansFrom, emptyBracesFrom]
  | hit t r rest hr ih =>
    obtain ⟨hvalid, rfl⟩ := read_eq_some_iff.mp hr
    obtain ⟨hbraces, hspan⟩ :=
      hvalid.emptyBracesFrom_spell_append (h.selectorBefore_eq_nil hvalid) rest
    have hclosed : selectorBefore (u ++ r.spell) = [] := by
      rw [spell, ← List.append_assoc]
      exact selectorBefore_concat_of_not_inSelector rfl _
    have hrest := ih (settled_of_selectorBefore_eq_nil hclosed rest)
    rw [List.length_append, List.append_assoc] at hrest
    rw [Pattern.spansFrom_of_read hr, hbraces, List.map_cons, hspan, spell_pattern, hrest]
  | plain c t hr ih =>
    have hnot : ¬ EmptyBraceAt (u ++ c :: t) u.length := by
      intro hbrace
      obtain ⟨rfl, hclose, hne⟩ := emptyBraceAt_append_cons.mp hbrace
      exact read_selectorBefore_append hne hclose (h hne)
    have hrest := ih (h.concat hr)
    rw [List.length_append, List.length_singleton, List.append_assoc, List.singleton_append]
      at hrest
    rw [Pattern.spansFrom_cons hr, emptyBracesFrom_cons_of_not hnot, hrest]

/-- **The empty rules that a scan finds** are those of the braces that are seen to belong to one. -/
theorem spans_eq_map_emptyBraces (t : Text) :
    pattern.spans t = (emptyBraces t).map (spanAt t) := by
  have h := spansFrom_pieces (settled_of_selectorBefore_eq_nil (u := []) rfl t)
  rwa [emptyBracesFrom, List.length_nil, List.nil_append, ← List.range_eq_range'] at h

/-! ### Where empty rules start -/

/-- In front of a selector stand blanks, and in front of them what may not stand in one. -/
lemma exists_cut_selectorBefore (u : Text) :
    ∃ w b, u = w ++ b ++ selectorBefore u ∧ (∀ d ∈ b, isBlank d = true) ∧
      (w = [] ∨ ∃ w' d, w = w' ++ [d] ∧ inSelector d = false) := by
  refine ⟨u.rdropWhile inSelector, (stretchBefore u).takeWhile isBlank, ?_,
    fun d hd => List.mem_takeWhile_imp hd, ?_⟩
  · rw [List.append_assoc, selectorBefore, List.takeWhile_append_dropWhile, stretchBefore,
      List.rdropWhile_append_rtakeWhile]
  · rcases List.eq_nil_or_concat (u.rdropWhile inSelector) with hnil | ⟨w, d, hw⟩
    · exact Or.inl hnil
    · have hlast := List.rdropWhile_last_not inSelector u (by simp [hw])
      exact Or.inr ⟨w, d, by rw [hw, List.concat_eq_append], by simpa [hw] using hlast⟩

lemma EmptyBraceAt.exists_cut_take (h : EmptyBraceAt t q) :
    ∃ w b, t.take (spanAt t q).1 = w ++ b ∧ (∀ d ∈ b, isBlank d = true) ∧
      (w = [] ∨ ∃ w' d, w = w' ++ [d] ∧ inSelector d = false) := by
  obtain ⟨w, b, hcut, hb, hw⟩ := exists_cut_selectorBefore (t.take q)
  refine ⟨w, b, ?_, hb, hw⟩
  have hq : q < t.length := (List.getElem?_eq_some_iff.mp h.opens).1
  have hlen : (w ++ b).length + (selectorBefore (t.take q)).length = q := by
    rw [← List.length_append, ← hcut, List.length_take, Nat.min_eq_left hq.le]
  have hstart : (spanAt t q).1 = min (w ++ b).length q := by
    rw [spanAt]
    dsimp only
    omega
  rw [hstart, ← List.take_take, hcut, List.take_left]

end EmptyRule

open EmptyRule

/-- **Taking out empty rules, place by place.** The spans of the braces that belong to empty rules
do not overlap, and the characters outside them are what is left. -/
theorem removeEmptyBlocks_eq_outside (t : Text) :
    (emptyBraces t).Pairwise (fun q q' => (spanAt t q).2 ≤ (spanAt t q').1) ∧
      removeEmptyBlocks t = t.outside ((emptyBraces t).map (spanAt t)) := by
  have hspans := spans_eq_map_emptyBraces t
  constructor
  · have hapart := EmptyRule.pattern.pairwise_spans t
    rwa [hspans, List.pairwise_map] at hapart
  · rw [← hspans, removeEmptyBlocks_eq_erase]
    exact Pattern.erase_eq_outside t

/-- The second brace here is not closed behind blanks, and only a blank stands between the slash and
the last one. -/
example : (emptyBraces "x;a\n b \x7b\n\x7d c\x7b d\x7b\x7d/ \x7b\x7d".toList).map
    (spanAt "x;a\n b \x7b\n\x7d c\x7b d\x7b\x7d/ \x7b\x7d".toList) = [(5, 10), (14, 17)] := by
  decide +kernel

/-- **Empty rules are cut out where they start on their line.** What is taken out of a text are
the spans of the empty rules that are found. The nearest character in front of such a span that is
not a blank is a brace, a semicolon or a slash, if there is one, or a newline stands between it and
the span. -/
theorem newline_or_boundary_before_span (t : Text) :
    removeEmptyBlocks t = t.outside (EmptyRule.pattern.spans t) ∧
      ∀ s ∈ EmptyRule.pattern.spans t,
        '\n' ∈ (t.take s.1).rtakeWhile isBlank ∨
          ∀ c, ((t.take s.1).rdropWhile isBlank).getLast? = some c → isBoundary c = true := by
  refine ⟨(removeEmptyBlocks_eq_erase t).trans (Pattern.erase_eq_outside t), fun s hs => ?_⟩
  rw [spans_eq_map_emptyBraces, List.mem_map] at hs
  obtain ⟨q, hq, rfl⟩ := hs
  have hbrace : EmptyBraceAt t q := by simpa using (List.mem_filter.mp hq).2
  obtain ⟨w, b, hfront, hb, rfl | ⟨w, d, rfl, hd⟩⟩ := hbrace.exists_cut_take
  · -- only blanks stand in front of the span
    refine Or.inr fun c hc => ?_
    rw [hfront, rdropWhile_append_run hb, List.rdropWhile_nil] at hc
    cases hc
  · rw [inSelector, Bool.and_eq_false_iff, Bool.not_eq_false', bne_eq_false_iff_eq] at hd
    rcases hd with hd | rfl
    · have hblank : isBlank d = false := by
        by_contra hblank
        rw [isBoundary_eq_false (Or.inr (by simpa using hblank))] at hd
        cases hd
      refine Or.inr fun c hc => ?_
      rw [hfront, rdropWhile_append_run hb, List.rdropWhile_concat_neg _ _ _ (by simp [hblank]),
        List.getLast?_concat, Option.some.injEq] at hc
      exact hc ▸ hd
    · refine Or.inl ?_
      rw [hfront, rtakeWhile_append_run hb, List.rtakeWhile_concat_pos _ _ _ rfl]
      simp

theorem newline_or_boundary_before_span_behind_comment :
    (8, 12) ∈ EmptyRule.pattern.spans "/* x */ a\x7b \x7d".toList ∧
      ∀ c, (("/* x */ a\x7b \x7d".toList.take 8).rdropWhile isBlank).getLast? = some c →
        isBoundary c = true := by
  have hs : (8, 12) ∈ EmptyRule.pattern.spans "/* x */ a\x7b \x7d".toList := by decide +kernel
  exact ⟨hs, ((newline_or_boundary_before_span _).2 _ hs).resolve_left (by decide +kernel)⟩

/-- Of a selector on two lines, the first line stays where the rule is taken out. -/
theorem exists_span_within_selector :
    ((4, 9) ∈ EmptyRule.pattern.spans ".a,\n.b \x7b\x7d".toList ∧
      ¬ ∀ c, ((".a,\n.b \x7b\x7d".toList.take 4).rdropWhile isBlank).getLast? = some c →
        isBoundary c = true) ∧
      removeEmptyBlocks ".a,\n.b \x7b\x7d".toList = ".a,\n".toList := by
  refine ⟨⟨by decide +kernel, fun h => ?_⟩, by decide +kernel⟩
  exact absurd (h ',' (by decide +kernel)) (by decide)

end DrawStyle
