import DrawStyle.Pattern
import Mathlib.Data.List.Infix

/-!
What a scan finds on the two sides of a seam.

A scan of `a ++ b` finds what it finds in `a` and then what it finds in `b`, unless an
occurrence starts in `a` and ends in `b`. That rests on one property of a pattern: an
occurrence is known by its own characters, whatever follows it.
-/

namespace DrawStyle

/-- `P` holds at each place in `a`, of all that stands from there on, where `b` follows. -/
def Throughout (P : Text → Prop) (a b : Text) : Prop := ∀ v, v ≠ [] → v <:+ a → P (v ++ b)

section Throughout

variable {P Q : Text → Prop} {a a' b : Text}

lemma throughout_nil : Throughout P [] b := fun _ hv hs => absurd (List.suffix_nil.mp hs) hv

lemma throughout_cons {c : Char} :
    Throughout P (c :: a) b ↔ P (c :: (a ++ b)) ∧ Throughout P a b := by
  constructor
  · intro h
    exact ⟨h (c :: a) (by simp) List.suffix_rfl,
      fun v hv hs => h v hv (hs.trans (List.suffix_cons c a))⟩
  · rintro ⟨hc, ha⟩ v hv hs
    rcases List.suffix_cons_iff.mp hs with rfl | hs
    · exact hc
    · exact ha v hv hs

lemma throughout_append :
    Throughout P (a ++ a') b ↔ Throughout P a (a' ++ b) ∧ Throughout P a' b := by
  induction a with
  | nil => simp [throughout_nil]
  | cons c a ih => simp only [List.cons_append, throughout_cons, ih, List.append_assoc, and_assoc]

lemma Throughout.mono (h : Throughout P a b) (hPQ : ∀ t, P t → Q t) : Throughout Q a b :=
  fun v hv hs => hPQ _ (h v hv hs)

end Throughout

namespace Pattern

variable {α : Type} {p : Pattern α} {a b t : Text}

/-- An occurrence is known by its own characters, whatever follows it. -/
def Exact (p : Pattern α) : Prop :=
  ∀ {t : Text} {x : α} {rest : Text}, p.read t = some (x, rest) →
    ∀ u, p.read (p.spell x ++ u) = some (x, u)

lemma Exact.read_append (hp : p.Exact) {x : α} {rest : Text} (h : p.read t = some (x, rest))
    (u : Text) : p.read (t ++ u) = some (x, rest ++ u) := by
  rw [p.eq_of_read h, List.append_assoc]
  exact hp h _

/-- No occurrence starts in `a` and ends behind it, where `b` follows. -/
def Apart (p : Pattern α) (a b : Text) : Prop :=
  ∀ v, v ≠ [] → v <:+ a → ∀ x rest, p.read (v ++ b) = some (x, rest) → p.spell x <+: v

/-- No occurrence starts in `a`, where `b` follows. -/
def Quiet (p : Pattern α) (a b : Text) : Prop := Throughout (fun t => p.read t = none) a b

lemma Apart.suffix (h : p.Apart a b) {v : Text} (hv : v <:+ a) : p.Apart v b :=
  fun w hw hwv => h w hw (hwv.trans hv)

/-- **Scanning across a seam.** If no occurrence straddles it, the two sides are scanned
one by one. -/
theorem pieces_append (hp : p.Exact) (h : p.Apart a b) :
    p.pieces (a ++ b) = p.pieces a ++ p.pieces b := by
  induction a using scan_induction (p := p) with
  | nil => simp
  | hit t x rest hr ih =>
    have hrest : rest <:+ t := ⟨p.spell x, (p.eq_of_read hr).symm⟩
    rw [pieces_of_read hr, pieces_of_read (hp.read_append hr b), ih (h.suffix hrest),
      List.cons_append]
  | plain c t hr ih =>
    have hnone : p.read (c :: (t ++ b)) = none := by
      rcases hread : p.read (c :: (t ++ b)) with _ | ⟨x, rest⟩
      · rfl
      · -- what is read there would lie within `c :: t` and be read off it
        obtain ⟨w, hw⟩ := h (c :: t) (by simp) List.suffix_rfl x rest hread
        rw [← hw, hp hread] at hr
        cases hr
    rw [pieces_cons hr, List.cons_append, pieces_cons hnone,
      ih (h.suffix (List.suffix_cons c t)), List.cons_append]

lemma replace_append (hp : p.Exact) (h : p.Apart a b) (f : α → Text) :
    p.replace f (a ++ b) = p.replace f a ++ p.replace f b := by
  simp only [replace, pieces_append hp h, List.flatMap_append]

lemma hits_append (hp : p.Exact) (h : p.Apart a b) : p.hits (a ++ b) = p.hits a ++ p.hits b := by
  simp only [hits, pieces_append hp h, List.filterMap_append]

/-- Where no occurrence starts, a scan finds single characters. -/
lemma pieces_append_of_quiet (h : p.Quiet a b) :
    p.pieces (a ++ b) = a.map .plain ++ p.pieces b := by
  induction a with
  | nil => rfl
  | cons c a ih =>
    obtain ⟨hc, ha⟩ := throughout_cons.mp h
    rw [List.cons_append, pieces_cons hc, ih ha, List.map_cons, List.cons_append]

lemma replace_append_of_quiet (h : p.Quiet a b) (f : α → Text) :
    p.replace f (a ++ b) = a ++ p.replace f b := by
  simp [replace, pieces_append_of_quiet h, List.flatMap_map]

lemma erase_append_of_quiet (h : p.Quiet a b) : p.erase (a ++ b) = a ++ p.erase b :=
  replace_append_of_quiet h _

lemma hits_append_of_quiet (h : p.Quiet a b) : p.hits (a ++ b) = p.hits b := by
  have hplain : (a.map .plain).filterMap (Piece.hit? (α := α)) = [] := by
    simp [List.filterMap_map, List.filterMap_eq_nil_iff, Piece.hit?]
  simp only [hits, pieces_append_of_quiet h, List.filterMap_append, hplain, List.nil_append]

lemma hits_of_read {x : α} {rest : Text} (h : p.read t = some (x, rest)) :
    p.hits t = x :: p.hits rest := by
  simp [hits, pieces_of_read h, Piece.hit?]

lemma hits_cons {c : Char} (h : p.read (c :: t) = none) : p.hits (c :: t) = p.hits t := by
  simp [hits, pieces_cons h, List.filterMap_cons, Piece.hit?]

@[simp] lemma hits_nil : p.hits [] = [] := by simp [hits]

lemma replace_of_hits_eq_nil (h : p.hits t = []) (f : α → Text) : p.replace f t = t := by
  induction t using scan_induction (p := p) with
  | nil => simp
  | hit t x rest hr ih => rw [hits_of_read hr] at h; cases h
  | plain c t hr ih => rw [replace_cons _ hr, ih (by rwa [hits_cons hr] at h)]

lemma hits_eq_nil_iff : p.hits t = [] ↔ ∀ v, v <:+ t → p.read v = none := by
  induction t using scan_induction (p := p) with
  | nil =>
    rw [hits_nil]
    refine iff_of_true rfl fun v hv => ?_
    rw [List.suffix_nil.mp hv, read_nil]
  | hit t x rest hr ih =>
    rw [hits_of_read hr]
    refine iff_of_false (List.cons_ne_nil _ _) fun h => ?_
    rw [h t List.suffix_rfl] at hr
    cases hr
  | plain c t hr ih =>
    rw [hits_cons hr, ih]
    constructor
    · intro h v hv
      rcases List.suffix_cons_iff.mp hv with rfl | hv
      · exact hr
      · exact h v hv
    · intro h v hv
      exact h v (hv.trans (List.suffix_cons c t))

/-- Taking occurrences out changes a text exactly if it has one. -/
lemma erase_eq_self_iff : p.erase t = t ↔ p.hits t = [] := by
  refine ⟨fun h => ?_, fun h => replace_of_hits_eq_nil h _⟩
  induction t using scan_induction (p := p) with
  | nil => exact hits_nil
  | hit t x rest hr ih =>
    have hlen := (p.erase_sublist rest).length_le
    have hlt := p.length_lt_of_read hr
    rw [← erase_of_read hr, h] at hlen
    omega
  | plain c t hr ih =>
    rw [erase_cons hr] at h
    rw [hits_cons hr, ih (List.cons.inj h).2]

lemma exists_read_of_mem_hits {a : α} (h : a ∈ p.hits t) :
    ∃ u rest, p.read u = some (a, rest) := by
  induction t using scan_induction (p := p) with
  | nil => simp at h
  | hit t b rest hr ih =>
    rw [hits_of_read hr] at h
    rcases List.mem_cons.mp h with rfl | h
    · exact ⟨t, rest, hr⟩
    · exact ih h
  | plain c t hr ih => exact ih (by rwa [hits_cons hr] at h)

lemma spell_infix_of_mem_hits {a : α} (h : a ∈ p.hits t) : p.spell a <:+: t := by
  induction t using scan_induction (p := p) with
  | nil => simp at h
  | hit t b rest hr ih =>
    rw [p.eq_of_read hr]
    rw [hits_of_read hr] at h
    rcases List.mem_cons.mp h with rfl | h
    · exact (List.prefix_append _ _).isInfix
    · exact (ih h).trans (List.suffix_append _ _).isInfix
  | plain c t hr ih =>
    rw [hits_cons hr] at h
    exact (ih h).trans (List.suffix_cons c t).isInfix

end Pattern

end DrawStyle
