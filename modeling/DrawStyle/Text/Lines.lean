import DrawStyle.Text

/-!
Lines of a text.

A text is cut at its newlines. Each line that a newline ends loses one carriage return from
its end; an unterminated last line is kept as it is, and there is no empty line behind a
final newline. Putting lines together again ends each of them with a newline, and gives a
subsequence of the text from which they came, up to that final newline.
-/

namespace DrawStyle

/-- A line without the one carriage return that may end it. -/
def chomp (line : Text) : Text := if line.getLast? = some '\r' then line.dropLast else line

theorem chomp_sublist (line : Text) : (chomp line).Sublist line := by
  unfold chomp
  split
  · exact List.dropLast_sublist _
  · exact List.Sublist.refl _

/-- The lines of a text that was cut at its newlines. -/
def linesOf : List Text → List Text
  | [] => []
  | [last] => if last = [] then [] else [last]
  | segment :: segments => chomp segment :: linesOf segments

/-- The lines of a text, without their ends. -/
def lines (t : Text) : List Text := linesOf (t.splitOn '\n')

/-- The text with the given lines, each ended by a newline. -/
def unlines (ls : List Text) : Text := ls.flatMap (· ++ ['\n'])

/-- A text that is empty or ends in a newline. -/
def Terminated (t : Text) : Prop := t = [] ∨ t.getLast? = some '\n'

instance (t : Text) : Decidable (Terminated t) := inferInstanceAs (Decidable (_ ∨ _))

@[simp] theorem unlines_nil : unlines [] = [] := rfl

@[simp] theorem unlines_cons (l : Text) (ls : List Text) :
    unlines (l :: ls) = l ++ '\n' :: unlines ls := by simp [unlines]

@[simp] theorem lines_nil : lines [] = [] := rfl

theorem linesOf_cons (segment : Text) {segments : List Text} (h : segments ≠ []) :
    linesOf (segment :: segments) = chomp segment :: linesOf segments := by
  cases segments with
  | nil => exact absurd rfl h
  | cons s ss => rfl

theorem linesOf_append (front : List Text) {segments : List Text} (h : segments ≠ []) :
    linesOf (front ++ segments) = front.map chomp ++ linesOf segments := by
  induction front with
  | nil => rfl
  | cons s ss ih => rw [List.cons_append, linesOf_cons _ (by simp [h]), ih]; rfl

theorem unlines_sublist {ls ls' : List Text} (h : ls.Sublist ls') :
    (unlines ls).Sublist (unlines ls') := by
  induction h with
  | slnil => exact .slnil
  | cons l _ ih =>
    rw [unlines_cons]
    exact ih.trans ((List.sublist_cons_self _ _).trans (List.sublist_append_right _ _))
  | cons_cons l _ ih =>
    rw [unlines_cons, unlines_cons]
    exact (ih.cons_cons _).append_left _

theorem terminated_unlines (ls : List Text) : Terminated (unlines ls) := by
  induction ls with
  | nil => exact .inl rfl
  | cons l ls ih =>
    right
    rw [unlines_cons, List.getLast?_append]
    rcases ih with h | h <;> simp [List.getLast?_cons, h]

/-- What the segments of a text give as lines is found in the segments, where the newline
that ends an unterminated last line is new. -/
theorem unlines_linesOf_sublist {segments : List Text} (h : segments ≠ []) :
    (unlines (linesOf segments)).Sublist (['\n'].intercalate segments ++ ['\n']) := by
  induction segments with
  | nil => exact absurd rfl h
  | cons s ss ih =>
    cases ss with
    | nil =>
      simp only [linesOf, List.intercalate_singleton]
      split
      · simp
      · simp
    | cons s' ss =>
      rw [linesOf_cons _ (by simp), unlines_cons, List.intercalate_cons_cons]
      simp only [List.append_assoc, List.cons_append, List.nil_append]
      exact (chomp_sublist s).append ((ih (by simp)).cons_cons _)

theorem unlines_linesOf_append_nil_sublist (segments : List Text) :
    (unlines (linesOf (segments ++ [[]]))).Sublist (['\n'].intercalate (segments ++ [[]])) := by
  induction segments with
  | nil => simp [linesOf]
  | cons s ss ih =>
    rw [List.cons_append, linesOf_cons _ (by simp), unlines_cons,
      List.intercalate_cons_of_ne_nil (by simp)]
    simp only [List.append_assoc, List.singleton_append]
    exact (chomp_sublist s).append (ih.cons_cons _)

/-- The lines of a text, put together again, form a subsequence of the text with a newline
added to its end. -/
theorem unlines_lines_sublist (t : Text) : (unlines (lines t)).Sublist (t ++ ['\n']) := by
  have h := unlines_linesOf_sublist (List.splitOn_ne_nil '\n' t)
  rwa [List.intercalate_splitOn] at h

/-- If the text is terminated, no newline has to be added. -/
theorem unlines_lines_sublist_of_terminated {t : Text} (h : Terminated t) :
    (unlines (lines t)).Sublist t := by
  rcases h with rfl | h
  · simp
  · obtain ⟨u, rfl⟩ := List.getLast?_eq_some_iff.1 h
    have h := unlines_linesOf_append_nil_sublist (u.splitOn '\n')
    have hs : (u ++ ['\n']).splitOn '\n' = u.splitOn '\n' ++ [[]] := by
      rw [List.splitOn_append_cons_self, List.splitOn_nil]
    rwa [← hs, List.intercalate_splitOn] at h

end DrawStyle
