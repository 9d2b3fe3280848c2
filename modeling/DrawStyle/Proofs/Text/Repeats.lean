import Mathlib.Data.List.Basic

/-!
Lists without repeats.

Erasing repeats keeps the first of equal members, which goes well with dropping members and,
if repeats are erased again, with replacing them.
-/

namespace DrawStyle

variable {α β : Type} [BEq α] [LawfulBEq α] [BEq β] [LawfulBEq β]

omit [LawfulBEq α] in
/-- Erasing repeats is an induction: the list is empty, or it has a first member, and a rest
from which the repeats of that member are taken out. -/
theorem repeats_induction {motive : List α → Prop} (nil : motive [])
    (cons : ∀ a as, motive (as.filter fun b => !b == a) → motive (a :: as)) (as : List α) :
    motive as := by
  induction hn : as.length using Nat.strongRecOn generalizing as with
  | ind n ih =>
    subst hn
    rcases as with _ | ⟨a, as⟩
    · exact nil
    · exact cons a as (ih _ (Nat.lt_succ_of_le (List.length_filter_le _ _)) _ rfl)

lemma nodup_eraseDups (as : List α) : as.eraseDups.Nodup := by
  induction as using repeats_induction with
  | nil => simp
  | cons a as ih =>
    rw [List.eraseDups_cons, List.nodup_cons]
    exact ⟨by simp, ih⟩

lemma eraseDups_eq_self_iff {as : List α} : as.eraseDups = as ↔ as.Nodup := by
  constructor
  · intro h
    rw [← h]
    exact nodup_eraseDups as
  · intro h
    induction as with
    | nil => rfl
    | cons a as ih =>
      obtain ⟨hmem, hnodup⟩ := List.nodup_cons.mp h
      have hrest : as.filter (fun b => !b == a) = as := List.filter_eq_self.mpr fun b hb => by
        rw [Bool.not_eq_true', beq_eq_false_iff_ne]
        rintro rfl
        exact hmem hb
      rw [List.eraseDups_cons, hrest, ih hnodup]

lemma eraseDups_filter (p : α → Bool) (as : List α) :
    (as.filter p).eraseDups = as.eraseDups.filter p := by
  induction as using repeats_induction with
  | nil => rfl
  | cons a as ih =>
    have hswap : ((as.filter p).filter fun b => !b == a) =
        (as.filter fun b => !b == a).filter p := by
      rw [List.filter_filter, List.filter_filter]
      exact List.filter_congr fun b _ => Bool.and_comm _ _
    rw [List.eraseDups_cons]
    rcases hp : p a with _ | _
    · -- `a` is dropped, so its repeats are no matter
      have hnone : (as.filter p).filter (fun b => !b == a) = as.filter p :=
        List.filter_eq_self.mpr fun b hb => by
          rw [Bool.not_eq_true', beq_eq_false_iff_ne]
          rintro rfl
          rw [(List.mem_filter.mp hb).2] at hp
          cases hp
      rw [List.filter_cons_of_neg (by simp [hp]), List.filter_cons_of_neg (by simp [hp]), ← ih,
        ← hswap, hnone]
    · rw [List.filter_cons_of_pos hp, List.filter_cons_of_pos hp, List.eraseDups_cons, hswap, ih]

/-- Repeats may be erased before members are replaced, if they are erased behind that too. -/
lemma eraseDups_map_eraseDups (f : α → β) (as : List α) :
    (as.eraseDups.map f).eraseDups = (as.map f).eraseDups := by
  induction as using repeats_induction with
  | nil => rfl
  | cons a as ih =>
    have hrest : (((as.filter fun b => !b == a).map f).filter fun c => !c == f a) =
        (as.map f).filter fun c => !c == f a := by
      rw [List.filter_map, List.filter_map, List.filter_filter]
      refine congrArg (List.map f) (List.filter_congr fun b _ => ?_)
      rcases hb : b == a with _ | _
      · simp
      · rw [eq_of_beq hb]
        simp
    rw [List.eraseDups_cons, List.map_cons, List.map_cons, List.eraseDups_cons,
      List.eraseDups_cons, eraseDups_filter, ih, ← eraseDups_filter, hrest]

/-- Of two members that are kept, the one that is first in what is kept is the first of all. -/
lemma idxOf_lt_of_filter {p : α → Bool} {as : List α} {b c : α} (hb : p b = true)
    (hc : p c = true) (h : (as.filter p).idxOf b < (as.filter p).idxOf c) :
    as.idxOf b < as.idxOf c := by
  induction as with
  | nil => exact absurd h (by simp)
  | cons a as ih =>
    have hdropped : ∀ {d}, p a = false → p d = true → (a == d) = false := by
      intro d ha hd
      rw [beq_eq_false_iff_ne]
      rintro rfl
      rw [ha] at hd
      cases hd
    rcases ha : p a with _ | _
    · rw [List.filter_cons_of_neg (by simp [ha])] at h
      rw [List.idxOf_cons, List.idxOf_cons, hdropped ha hb, hdropped ha hc]
      exact Nat.succ_lt_succ (ih h)
    · rw [List.filter_cons_of_pos ha] at h
      have hac : a ≠ c := by
        rintro rfl
        rw [List.idxOf_cons_self] at h
        exact Nat.not_lt_zero _ h
      rw [List.idxOf_cons_ne _ hac] at h ⊢
      by_cases hab : a = b
      · rw [hab, List.idxOf_cons_self]
        exact Nat.succ_pos _
      · rw [List.idxOf_cons_ne _ hab] at h ⊢
        exact Nat.succ_lt_succ (ih (Nat.lt_of_succ_lt_succ h))

/-- Once repeats are erased, the members stand in the order in which they appeared first. -/
lemma pairwise_idxOf_eraseDups (as : List α) :
    as.eraseDups.Pairwise fun a b => as.idxOf a < as.idxOf b := by
  induction as using repeats_induction with
  | nil => simp
  | cons a as ih =>
    have hne : ∀ b ∈ (as.filter fun b => !b == a).eraseDups, (!b == a) = true := fun b hb =>
      (List.mem_filter.mp (List.mem_eraseDups.mp hb)).2
    have hcons : ∀ b, (!b == a) = true → (a :: as).idxOf b = as.idxOf b + 1 := by
      intro b hb
      rw [Bool.not_eq_true', beq_eq_false_iff_ne] at hb
      rw [List.idxOf_cons_ne as hb.symm]
    rw [List.eraseDups_cons]
    refine List.pairwise_cons.mpr ⟨fun b hb => ?_, ih.imp_of_mem fun {b c} hb hc h => ?_⟩
    · rw [List.idxOf_cons_self, hcons b (hne b hb)]
      exact Nat.succ_pos _
    · rw [hcons b (hne b hb), hcons c (hne c hc)]
      exact Nat.succ_lt_succ (idxOf_lt_of_filter (hne b hb) (hne c hc) h)

end DrawStyle
