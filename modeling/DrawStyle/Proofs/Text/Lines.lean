import DrawStyle.Text.Lines
import DrawStyle.Proofs.Text.Runs
import Mathlib.Data.List.DropRight

/-!
Lines as they stand in a text.

Lines without newlines that are put together are cut apart again at the same places, so a text
that ends in a newline is known by its lines. Carriage returns at the end of a line are blanks:
taking away one of them, or all, leaves a line blank exactly if it was.
-/

namespace DrawStyle

/-- Cutting a text into lines is an induction: it is a last line, or it has a first line with a
newline behind it and a text after that. -/
theorem lines_induction {motive : Text → Prop} (last : ∀ s, '\n' ∉ s → motive s)
    (line : ∀ s t, '\n' ∉ s → motive t → motive (s ++ '\n' :: t)) (t : Text) : motive t := by
  induction hn : t.length using Nat.strong_induction_on generalizing t with
  | h n ih =>
    subst hn
    by_cases hmem : '\n' ∈ t
    · obtain ⟨s, u, rfl, hs⟩ := List.eq_append_cons_of_mem hmem
      have hlen : u.length < (s ++ '\n' :: u).length := by
        rw [List.length_append, List.length_cons]
        omega
      exact line s u hs (ih _ hlen u rfl)
    · exact last t hmem

/-- The lines of a text that are ended by a newline, with all that stands before the newline. -/
def endedLines (t : Text) : List Text := (t.splitOn '\n').dropLast

/-- A line without any of the carriage returns at its end. -/
def stripReturns (line : Text) : Text := line.rdropWhile (· == '\r')

section

variable {l s t : Text} {ls ls' : List Text}

/-! ### Cutting and joining -/

lemma newline_not_mem_segment (h : l ∈ t.splitOn '\n') : '\n' ∉ l := by
  induction t using lines_induction with
  | last s hs =>
    rw [List.splitOn_eq_singleton hs] at h
    rwa [List.mem_singleton.mp h]
  | line s t hs ih =>
    rw [List.splitOn_append_cons_self_of_not_mem hs] at h
    rcases List.mem_cons.mp h with rfl | h
    · exact hs
    · exact ih h

lemma newline_not_mem_endedLine (h : l ∈ endedLines t) : '\n' ∉ l :=
  newline_not_mem_segment ((List.dropLast_sublist _).mem h)

@[simp] lemma unlines_append (ls ls' : List Text) :
    unlines (ls ++ ls') = unlines ls ++ unlines ls' := List.flatMap_append

/-- Putting all segments of a text together again ends the last one too. -/
lemma unlines_splitOn (t : Text) : unlines (t.splitOn '\n') = t ++ ['\n'] := by
  induction t using lines_induction with
  | last s hs => simp [List.splitOn_eq_singleton hs]
  | line s t hs ih => simp [List.splitOn_append_cons_self_of_not_mem hs, ih]

lemma splitOn_unlines (h : ∀ l ∈ ls, '\n' ∉ l) : (unlines ls).splitOn '\n' = ls ++ [[]] := by
  induction ls with
  | nil => rfl
  | cons l ls ih =>
    rw [unlines_cons, List.splitOn_append_cons_self_of_not_mem (h l List.mem_cons_self),
      ih fun l' hl' => h l' (List.mem_cons_of_mem _ hl'), List.cons_append]

lemma endedLines_unlines (h : ∀ l ∈ ls, '\n' ∉ l) : endedLines (unlines ls) = ls := by
  rw [endedLines, splitOn_unlines h, List.dropLast_concat]

lemma Terminated.unlines_endedLines (h : Terminated t) : unlines (endedLines t) = t := by
  rcases h with rfl | h
  · rfl
  · obtain ⟨u, rfl⟩ := List.getLast?_eq_some_iff.mp h
    rw [endedLines, List.splitOn_append_cons_self, List.splitOn_nil, List.dropLast_concat,
      unlines_splitOn]

lemma Terminated.splitOn_eq (h : Terminated t) : t.splitOn '\n' = endedLines t ++ [[]] := by
  have hcut : (unlines (endedLines t)).splitOn '\n' = endedLines t ++ [[]] :=
    splitOn_unlines fun _ => newline_not_mem_endedLine
  rwa [h.unlines_endedLines] at hcut

lemma unlines_inj (h : ∀ l ∈ ls, '\n' ∉ l) (h' : ∀ l ∈ ls', '\n' ∉ l) :
    unlines ls = unlines ls' ↔ ls = ls' := by
  constructor
  · intro he
    rw [← endedLines_unlines h, he, endedLines_unlines h']
  · rintro rfl
    rfl

lemma linesOf_singleton (s : Text) : linesOf [s] = if s = [] then [] else [s] := rfl

lemma lines_unlines (h : ∀ l ∈ ls, '\n' ∉ l) : lines (unlines ls) = ls.map chomp := by
  rw [lines, splitOn_unlines h, linesOf_append _ (List.cons_ne_nil _ _), linesOf, if_pos rfl,
    List.append_nil]

/-! ### Carriage returns -/

lemma Text.isBlank_append (s t : Text) : Text.isBlank (s ++ t) = (s.isBlank && t.isBlank) :=
  List.all_append

@[simp] lemma chomp_append_return (l : Text) : chomp (l ++ ['\r']) = l := by simp [chomp]

lemma chomp_eq_self_iff : chomp l = l ↔ l.getLast? ≠ some '\r' := by
  constructor
  · intro h hlast
    obtain ⟨u, rfl⟩ := List.getLast?_eq_some_iff.mp hlast
    rw [chomp_append_return] at h
    simpa using congrArg List.length h
  · intro h
    rw [chomp, if_neg h]

lemma map_chomp_eq_self (h : ∀ l ∈ ls, l.getLast? ≠ some '\r') : ls.map chomp = ls := by
  rw [List.map_congr_left fun l hl => chomp_eq_self_iff.mpr (h l hl), List.map_id']

/-- A line ends in the carriage return that it loses, or it loses none. -/
lemma chomp_cases (l : Text) : chomp l = l ∨ l = chomp l ++ ['\r'] := by
  by_cases h : l.getLast? = some '\r'
  · obtain ⟨u, rfl⟩ := List.getLast?_eq_some_iff.mp h
    exact Or.inr (by rw [chomp_append_return])
  · exact Or.inl (chomp_eq_self_iff.mpr h)

lemma isBlank_chomp (l : Text) : (chomp l).isBlank = l.isBlank := by
  rcases chomp_cases l with h | h
  · rw [h]
  · have hreturn : Text.isBlank ['\r'] = true := rfl
    rw [h, chomp_append_return, Text.isBlank_append, hreturn, Bool.and_true]

lemma newline_not_mem_chomp (h : '\n' ∉ l) : '\n' ∉ chomp l := fun hmem =>
  h ((chomp_sublist l).mem hmem)

@[simp] lemma stripReturns_append_return (l : Text) :
    stripReturns (l ++ ['\r']) = stripReturns l :=
  List.rdropWhile_concat_pos _ _ _ rfl

lemma stripReturns_eq_self_iff : stripReturns l = l ↔ l.getLast? ≠ some '\r' := by
  constructor
  · intro h hlast
    obtain ⟨u, rfl⟩ := List.getLast?_eq_some_iff.mp hlast
    have hlen : (stripReturns u).length ≤ u.length := (List.rdropWhile_prefix _ u).length_le
    rw [← stripReturns_append_return, h, List.length_append, List.length_singleton] at hlen
    omega
  · intro h
    refine List.rdropWhile_eq_self_iff.mpr fun hne => ?_
    rw [List.getLast?_eq_some_getLast hne] at h
    simpa using h

/-- What a line gives, if it does so with or without a carriage return at its end, is given by the
lines as by the segments. -/
lemma flatMap_linesOf {β : Type} {g : Text → List β} (hnil : g [] = [])
    (hchomp : ∀ l, g (chomp l) = g l) (segments : List Text) :
    (linesOf segments).flatMap g = segments.flatMap g := by
  induction segments with
  | nil => rfl
  | cons s ss ih =>
    rcases ss with _ | ⟨s', ss⟩
    · rw [linesOf_singleton]
      split
      · next h => simp [h, hnil]
      · rfl
    · rw [linesOf_cons _ (List.cons_ne_nil _ _), List.flatMap_cons, List.flatMap_cons, hchomp, ih]

/-- So it is with what is kept of the lines, if nothing is kept of an empty one. -/
lemma filter_map_linesOf {β : Type} {f : Text → β} {p : β → Bool} (hnil : p (f []) = false)
    (hchomp : ∀ l, f (chomp l) = f l) (segments : List Text) :
    ((linesOf segments).map f).filter p = (segments.map f).filter p := by
  have hkept : ∀ ls : List Text, (ls.map f).filter p = ls.flatMap fun l => [f l].filter p := by
    intro ls
    induction ls with
    | nil => rfl
    | cons l ls ih => rw [List.map_cons, List.flatMap_cons, ← ih, ← List.filter_append]; rfl
  have hempty : [f []].filter p = [] := by rw [List.filter_singleton, hnil]; rfl
  rw [hkept, hkept]
  exact flatMap_linesOf hempty (fun l => by rw [hchomp]) segments

lemma exists_mem_of_mem_linesOf {segments : List Text} (h : l ∈ linesOf segments) :
    ∃ s ∈ segments, l = s ∨ l = chomp s := by
  induction segments with
  | nil => cases h
  | cons s ss ih =>
    rcases ss with _ | ⟨s', ss⟩
    · rw [linesOf_singleton] at h
      split at h
      · cases h
      · exact ⟨s, List.mem_cons_self, Or.inl (List.mem_singleton.mp h)⟩
    · rw [linesOf_cons _ (List.cons_ne_nil _ _)] at h
      rcases List.mem_cons.mp h with rfl | h
      · exact ⟨s, List.mem_cons_self, Or.inr rfl⟩
      · obtain ⟨u, hu, hl⟩ := ih h
        exact ⟨u, List.mem_cons_of_mem _ hu, hl⟩

lemma newline_not_mem_line (h : l ∈ lines t) : '\n' ∉ l := by
  obtain ⟨s, hs, rfl | rfl⟩ := exists_mem_of_mem_linesOf h
  · exact newline_not_mem_segment hs
  · exact newline_not_mem_chomp (newline_not_mem_segment hs)

lemma isBlank_stripReturns (l : Text) : (stripReturns l).isBlank = l.isBlank := by
  induction l using List.reverseRecOn with
  | nil => rfl
  | append_singleton l c ih =>
    by_cases hc : c = '\r'
    · have hreturn : Text.isBlank ['\r'] = true := rfl
      rw [hc, stripReturns_append_return, ih, Text.isBlank_append, hreturn, Bool.and_true]
    · rw [stripReturns, List.rdropWhile_concat_neg _ _ _ (by simpa using hc)]

end

end DrawStyle
