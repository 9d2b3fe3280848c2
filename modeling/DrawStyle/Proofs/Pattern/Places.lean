import DrawStyle.Proofs.Pattern.Seam

/-!
Where the occurrences of a pattern stand.

The occurrences in a text are listed with the bytes in front of them. Each is read where it is
listed, they stand one behind the other, and whatever can be read at some place of the text
starts in one of them.
-/

namespace DrawStyle

namespace Text

variable {s t u v : Text}

lemma byteSize_pos (h : t ≠ []) : 0 < t.byteSize := by
  obtain ⟨c, t, rfl⟩ := List.exists_cons_of_ne_nil h
  have hc := c.utf8Size_pos
  rw [byteSize_cons]
  omega

/-- Of two beginnings of a text, the one with fewer bytes is a beginning of the other. -/
lemma exists_of_byteSize_le (h : s ++ t = u ++ v) (hle : s.byteSize ≤ u.byteSize) :
    ∃ w, u = s ++ w ∧ t = w ++ v := by
  rcases List.append_eq_append_iff.mp h with ⟨w, hu, ht⟩ | ⟨w, rfl, rfl⟩
  · exact ⟨w, hu, ht⟩
  · rcases eq_or_ne w [] with rfl | hw
    · exact ⟨[], by simp, by simp⟩
    · have hpos := byteSize_pos hw
      rw [byteSize_append] at hle
      omega

lemma eq_of_byteSize_eq (h : s ++ t = u ++ v) (heq : s.byteSize = u.byteSize) :
    s = u ∧ t = v := by
  obtain ⟨w, rfl, rfl⟩ := exists_of_byteSize_le h heq.le
  rw [byteSize_append] at heq
  have hw : w = [] := by
    by_contra hne
    have hpos := byteSize_pos hne
    omega
  subst hw
  simp

lemma exists_cut_of_within {x : Text} (h : u ++ (x ++ v) = s ++ t) (hlt : u.byteSize < s.byteSize)
    (hm : s.byteSize < u.byteSize + x.byteSize) :
    ∃ w z, w ≠ [] ∧ z ≠ [] ∧ s = u ++ w ∧ x = w ++ z ∧ t = z ++ v := by
  obtain ⟨w, rfl, hrest⟩ := exists_of_byteSize_le h hlt.le
  rw [byteSize_append] at hlt hm
  obtain ⟨z, rfl, rfl⟩ :=
    exists_of_byteSize_le hrest.symm (Nat.le_of_lt (Nat.lt_of_add_lt_add_left hm))
  refine ⟨w, z, ?_, ?_, rfl, rfl, rfl⟩
  · rintro rfl
    simp at hlt
  · rintro rfl
    simp at hm

end Text

namespace Pattern

variable {α : Type} {p : Pattern α} {t u v rest : Text} {n : ℕ} {a : α} {x : ℕ × α}

lemma byteSize_spell_pos (p : Pattern α) (a : α) : 0 < (p.spell a).byteSize :=
  Text.byteSize_pos (p.spell_ne_nil a)

lemma locate_of_read (h : p.read t = some (a, rest)) (n : ℕ) :
    p.locate n (p.pieces t) =
      (n, a) :: p.locate (n + (p.spell a).byteSize) (p.pieces rest) := by
  rw [pieces_of_read h, locate]

lemma locate_cons {c : Char} (h : p.read (c :: t) = none) (n : ℕ) :
    p.locate n (p.pieces (c :: t)) = p.locate (n + c.utf8Size) (p.pieces t) := by
  rw [pieces_cons h, locate]

lemma exists_of_mem_locate (h : x ∈ p.locate n (p.pieces t)) :
    ∃ u rest, t = u ++ (p.spell x.2 ++ rest) ∧ x.1 = n + u.byteSize ∧
      p.read (p.spell x.2 ++ rest) = some (x.2, rest) := by
  induction t using scan_induction (p := p) generalizing n with
  | nil => simp [locate] at h
  | hit t a rest hr ih =>
    rw [locate_of_read hr] at h
    have ht := p.eq_of_read hr
    rcases List.mem_cons.mp h with rfl | h
    · exact ⟨[], rest, ht, rfl, ht ▸ hr⟩
    · obtain ⟨u, rest', hrest, hn, hread⟩ := ih h
      refine ⟨p.spell a ++ u, rest', ?_, ?_, hread⟩
      · rw [List.append_assoc, ← hrest, ht]
      · rw [hn, Text.byteSize_append, Nat.add_assoc]
  | plain c t hr ih =>
    rw [locate_cons hr] at h
    obtain ⟨u, rest, rfl, hn, hread⟩ := ih h
    exact ⟨c :: u, rest, rfl, by rw [hn, Text.byteSize_cons, Nat.add_assoc], hread⟩

/-- Each occurrence stands behind those that are listed before it. -/
lemma pairwise_locate (t : Text) (n : ℕ) :
    (p.locate n (p.pieces t)).Pairwise fun x y => x.1 + (p.spell x.2).byteSize ≤ y.1 := by
  induction t using scan_induction (p := p) generalizing n with
  | nil => simp [locate]
  | hit t a rest hr ih =>
    rw [locate_of_read hr]
    refine List.pairwise_cons.mpr ⟨fun y hy => ?_, ih _⟩
    obtain ⟨u, -, -, hn, -⟩ := exists_of_mem_locate hy
    rw [hn]
    exact Nat.le_add_right _ _
  | plain c t hr ih =>
    rw [locate_cons hr]
    exact ih _

/-- Whatever is read at some place starts in an occurrence that is listed. -/
lemma exists_mem_locate_of_read (h : p.read v = some (a, rest)) (n : ℕ) :
    ∃ x ∈ p.locate n (p.pieces (u ++ v)), x.1 ≤ n + u.byteSize ∧
      n + u.byteSize < x.1 + (p.spell x.2).byteSize := by
  induction ht : u ++ v using scan_induction (p := p) generalizing u n with
  | nil =>
    obtain ⟨-, rfl⟩ := List.append_eq_nil_iff.mp ht
    rw [read_nil] at h
    cases h
  | hit t b rest' hr ih =>
    rw [locate_of_read hr]
    by_cases hlt : u.byteSize < (p.spell b).byteSize
    · exact ⟨(n, b), List.mem_cons_self, by omega, by dsimp only; omega⟩
    · -- the place stands behind the first occurrence
      rw [p.eq_of_read hr] at ht
      obtain ⟨w, rfl, hw⟩ := Text.exists_of_byteSize_le ht.symm (Nat.le_of_not_lt hlt)
      obtain ⟨x, hx, hle, hlt'⟩ := ih (n + (p.spell b).byteSize) hw.symm
      rw [Text.byteSize_append]
      exact ⟨x, List.mem_cons_of_mem _ hx, by omega, by omega⟩
  | plain c t hr ih =>
    rw [locate_cons hr]
    rcases u with _ | ⟨d, u⟩
    · rw [List.nil_append] at ht
      rw [← ht, h] at hr
      cases hr
    · obtain ⟨rfl, htail⟩ := List.cons.inj ht
      obtain ⟨x, hx, hle, hlt⟩ := ih (n + d.utf8Size) htail
      rw [Text.byteSize_cons]
      exact ⟨x, hx, by omega, by omega⟩

end Pattern

section Stretches

variable {β : Type} {start stop : β → ℕ} {xs ys : List β} {b x : β} {n : ℕ}

/-- What starts no later than some place is no earlier than the first stretch. -/
lemma start_head_le (hx : start x < stop x) (hxs : ∀ b ∈ xs, stop x ≤ start b)
    (h : ∃ b ∈ x :: xs, start b ≤ n ∧ n < stop b) : start x ≤ n := by
  obtain ⟨b, hb, hle, -⟩ := h
  rcases List.mem_cons.mp hb with rfl | hb
  · exact hle
  · have hbehind := hxs b hb
    omega

/-- A place behind the first stretch is covered by another one. -/
lemma exists_covering_tail (hn : stop x ≤ n) (h : ∃ b ∈ x :: xs, start b ≤ n ∧ n < stop b) :
    ∃ b ∈ xs, start b ≤ n ∧ n < stop b := by
  obtain ⟨b, hb, hle, hlt⟩ := h
  rcases List.mem_cons.mp hb with rfl | hb
  · omega
  · exact ⟨b, hb, hle, hlt⟩

/-- **Stretches that cover each other's starts are the same**, if those of each list stand one
behind the other and no two of them start at one place. -/
theorem eq_of_starts_covered (hpos : ∀ b, b ∈ xs ∨ b ∈ ys → start b < stop b)
    (hxs : xs.Pairwise fun b c => stop b ≤ start c) (hys : ys.Pairwise fun b c => stop b ≤ start c)
    (hxy : ∀ x ∈ xs, ∃ y ∈ ys, start y ≤ start x ∧ start x < stop y)
    (hyx : ∀ y ∈ ys, ∃ x ∈ xs, start x ≤ start y ∧ start y < stop x)
    (hstart : ∀ x ∈ xs, ∀ y ∈ ys, start x = start y → x = y) : xs = ys := by
  induction xs generalizing ys with
  | nil =>
    refine (List.eq_nil_iff_forall_not_mem.mpr fun y hy => ?_).symm
    obtain ⟨x, hx, -⟩ := hyx y hy
    cases hx
  | cons x xs ih =>
    rcases ys with _ | ⟨y, ys⟩
    · obtain ⟨y, hy, -⟩ := hxy x List.mem_cons_self
      cases hy
    obtain ⟨hxbehind, hxs'⟩ := List.pairwise_cons.mp hxs
    obtain ⟨hybehind, hys'⟩ := List.pairwise_cons.mp hys
    -- each of the first two starts no later than the other
    have hle : start y ≤ start x :=
      start_head_le (hpos y (by simp)) hybehind (hxy x List.mem_cons_self)
    have hge : start x ≤ start y :=
      start_head_le (hpos x (by simp)) hxbehind (hyx y List.mem_cons_self)
    obtain rfl := hstart x List.mem_cons_self y List.mem_cons_self (le_antisymm hge hle)
    refine congrArg (List.cons x) (ih ?_ hxs' hys' ?_ ?_ ?_)
    · exact fun b hb => hpos b (hb.imp (List.mem_cons_of_mem x) (List.mem_cons_of_mem x))
    · exact fun x' hx' =>
        exists_covering_tail (hxbehind x' hx') (hxy x' (List.mem_cons_of_mem x hx'))
    · exact fun y' hy' =>
        exists_covering_tail (hybehind y' hy') (hyx y' (List.mem_cons_of_mem x hy'))
    · exact fun x' hx' y' hy' =>
        hstart x' (List.mem_cons_of_mem x hx') y' (List.mem_cons_of_mem x hy')

lemma filter_covering_eq (hxs : xs.Pairwise fun b c => stop b ≤ start c) (hx : x ∈ xs)
    (hle : start x ≤ n) (hlt : n < stop x) :
    xs.filter (fun b => decide (start b ≤ n ∧ n < stop b)) = [x] := by
  induction xs with
  | nil => cases hx
  | cons b xs ih =>
    obtain ⟨hbehind, hxs⟩ := List.pairwise_cons.mp hxs
    rcases List.mem_cons.mp hx with rfl | hx
    · have hrest : xs.filter (fun c => decide (start c ≤ n ∧ n < stop c)) = [] := by
        refine List.filter_eq_nil_iff.mpr fun c hc hcovers => ?_
        have hc := hbehind c hc
        have hcovers := (of_decide_eq_true hcovers).1
        omega
      rw [List.filter_cons_of_pos (by simp [hle, hlt]), hrest]
    · have hb := hbehind x hx
      rw [List.filter_cons_of_neg (by simp only [decide_eq_true_eq]; omega), ih hxs hx]

end Stretches

end DrawStyle
