import DrawStyle.Pattern
import Mathlib.Data.List.Infix

/-!
What occurrences take up of a text.

Each occurrence takes up a span of places, and what is left when occurrences are taken out are the
characters at all other places. The spans stand one behind the other.
-/

namespace DrawStyle

/-- A place is covered by some spans, each given by its first place and the one behind its last. -/
def covered (spans : List (ℕ × ℕ)) (n : ℕ) : Bool :=
  spans.any fun s => decide (s.1 ≤ n) && decide (n < s.2)

/-- The characters of a text at the places that no span covers. -/
def Text.outside (spans : List (ℕ × ℕ)) (t : Text) : Text :=
  (t.zipIdx.filter fun x => !covered spans x.2).map Prod.fst

section Covered

variable {spans : List (ℕ × ℕ)} {s : ℕ × ℕ} {n : ℕ}

lemma covered_cons :
    covered (s :: spans) n = (decide (s.1 ≤ n) && decide (n < s.2) || covered spans n) := rfl

lemma covered_cons_of_mem (hle : s.1 ≤ n) (hlt : n < s.2) : covered (s :: spans) n = true := by
  rw [covered_cons, decide_eq_true hle, decide_eq_true hlt]
  rfl

lemma covered_cons_of_le (h : s.2 ≤ n) : covered (s :: spans) n = covered spans n := by
  rw [covered_cons, decide_eq_false (Nat.not_lt.mpr h), Bool.and_false, Bool.false_or]

lemma covered_eq_false (h : ∀ s ∈ spans, n < s.1) : covered spans n = false := by
  refine List.any_eq_false.mpr fun s hs => ?_
  have hlt := h s hs
  simp only [Bool.and_eq_true, decide_eq_true_eq]
  omega

end Covered

namespace Pattern

variable {α : Type} {p : Pattern α} {t rest : Text} {n : ℕ} {s : ℕ × ℕ}

/-- The spans of the occurrences among some pieces, where `n` characters stand before the first
piece. -/
def spansFrom (p : Pattern α) (n : ℕ) : List (Piece α) → List (ℕ × ℕ)
  | [] => []
  | .plain _ :: ps => spansFrom p (n + 1) ps
  | .hit a :: ps => (n, n + (p.spell a).length) :: spansFrom p (n + (p.spell a).length) ps

/-- The spans of the occurrences in a text, from left to right. -/
def spans (p : Pattern α) (t : Text) : List (ℕ × ℕ) := p.spansFrom 0 (p.pieces t)

lemma spansFrom_of_read {a : α} (h : p.read t = some (a, rest)) (n : ℕ) :
    p.spansFrom n (p.pieces t) =
      (n, n + (p.spell a).length) :: p.spansFrom (n + (p.spell a).length) (p.pieces rest) := by
  rw [pieces_of_read h, spansFrom]

lemma spansFrom_cons {c : Char} (h : p.read (c :: t) = none) (n : ℕ) :
    p.spansFrom n (p.pieces (c :: t)) = p.spansFrom (n + 1) (p.pieces t) := by
  rw [pieces_cons h, spansFrom]

lemma le_of_mem_spansFrom (h : s ∈ p.spansFrom n (p.pieces t)) : n ≤ s.1 := by
  induction t using scan_induction (p := p) generalizing n with
  | nil => simp [spansFrom] at h
  | hit t a rest hr ih =>
    rw [spansFrom_of_read hr] at h
    rcases List.mem_cons.mp h with rfl | h
    · exact Nat.le_refl _
    · exact Nat.le_trans (Nat.le_add_right _ _) (ih h)
  | plain c t hr ih =>
    rw [spansFrom_cons hr] at h
    exact Nat.le_of_succ_le (ih h)

/-- **Each span stands behind those before it.** -/
theorem pairwise_spans (t : Text) : (p.spans t).Pairwise fun s s' => s.2 ≤ s'.1 := by
  have hfrom : ∀ n, (p.spansFrom n (p.pieces t)).Pairwise fun s s' => s.2 ≤ s'.1 := by
    induction t using scan_induction (p := p) with
    | nil => simp [spansFrom]
    | hit t a rest hr ih =>
      intro n
      rw [spansFrom_of_read hr]
      exact List.pairwise_cons.mpr ⟨fun s hs => le_of_mem_spansFrom hs, ih _⟩
    | plain c t hr ih =>
      intro n
      rw [spansFrom_cons hr]
      exact ih _
  exact hfrom 0

/-- **What is left when occurrences are taken out** are the characters outside their spans. -/
theorem erase_eq_outside (t : Text) : p.erase t = t.outside (p.spans t) := by
  have hfrom : ∀ n, p.erase t =
      ((t.zipIdx n).filter fun x => !covered (p.spansFrom n (p.pieces t)) x.2).map Prod.fst := by
    induction t using scan_induction (p := p) with
    | nil => simp
    | hit t a rest hr ih =>
      intro n
      have hfront : ((p.spell a).zipIdx n).filter (fun x =>
          !covered (p.spansFrom n (p.pieces t)) x.2) = [] := by
        refine List.filter_eq_nil_iff.mpr fun x hx => ?_
        rw [spansFrom_of_read hr, covered_cons_of_mem (List.le_snd_of_mem_zipIdx hx)
          (List.snd_lt_add_of_mem_zipIdx hx)]
        exact Bool.false_ne_true
      have hback : ∀ x ∈ rest.zipIdx (n + (p.spell a).length),
          (!covered (p.spansFrom n (p.pieces t)) x.2) =
            !covered (p.spansFrom (n + (p.spell a).length) (p.pieces rest)) x.2 := by
        intro x hx
        rw [spansFrom_of_read hr, covered_cons_of_le (List.le_snd_of_mem_zipIdx hx)]
      have hcut : t.zipIdx n =
          (p.spell a).zipIdx n ++ rest.zipIdx (n + (p.spell a).length) := by
        rw [← List.zipIdx_append, ← p.eq_of_read hr]
      rw [erase_of_read hr, hcut, List.filter_append, hfront, List.nil_append,
        List.filter_congr hback]
      exact ih _
    | plain c t hr ih =>
      intro n
      have hfirst : covered (p.spansFrom (n + 1) (p.pieces t)) n = false :=
        covered_eq_false fun s hs => le_of_mem_spansFrom hs
      rw [erase_cons hr, spansFrom_cons hr, List.zipIdx_cons,
        List.filter_cons_of_pos (by simp [hfirst]), List.map_cons, ← ih (n + 1)]
  exact hfrom 0

end Pattern

end DrawStyle
