import DrawStyle.Automaton.ExpressionStates
import Mathlib.Algebra.BigOperators.Group.List.Basic
import Mathlib.Algebra.GroupWithZero.Nat

/-!
How much room is enough to make states.

Sharing states only saves room, so the states for a set take no more than a state with one
transition for each byte of each spelling. What is enough for the parts of an expression adds up.
-/

namespace DrawStyle.Automaton

/-- Where there is room for so many bytes more, something is made and takes no more than these. -/
def Extent.Takes (f : Extent → Option Extent) (n : ℕ) : Prop :=
  ∀ x, x.bytes + n ≤ maxBytes → ∃ y, f x = some y ∧ y.bytes ≤ x.bytes + n

section

variable {f g : Extent → Option Extent} {m n : ℕ}

lemma Extent.takes_grow (n : ℕ) : Takes (grow n) n :=
  fun _ hx => ⟨_, if_pos hx, Nat.le_refl _⟩

lemma Extent.takes_add (count : ℕ) : Takes (add count) (count * stateBytes) :=
  fun x => takes_grow _ { x with states := x.states + count }

lemma Extent.Takes.mono (h : Takes f m) (hle : m ≤ n) : Takes f n := by
  intro x hx
  obtain ⟨y, hy, hbytes⟩ := h x (by omega)
  exact ⟨y, hy, by omega⟩

lemma Extent.Takes.bind (hf : Takes f m) (hg : Takes g n) :
    Takes (fun x => (f x).bind g) (m + n) := by
  intro x hx
  obtain ⟨y, hy, hle⟩ := hf x (by omega)
  obtain ⟨z, hz, hle'⟩ := hg y (by omega)
  refine ⟨z, ?_, by omega⟩
  dsimp only
  rw [hy, Option.bind_some, hz]

lemma Extent.takes_addTransitions (count : ℕ) :
    Takes (addTransitions count) (stateBytes + count * transitionBytes) :=
  ((takes_add 1).mono (Nat.le_of_eq (Nat.one_mul _))).bind (takes_grow _)

lemma Extent.takes_addUnion (count : ℕ) :
    Takes (addUnion count) (stateBytes + count * linkBytes) :=
  ((takes_add 1).mono (Nat.le_of_eq (Nat.one_mul _))).bind (takes_grow _)

end

/-! ### Sets -/

/-- What it takes at most to close drafts. -/
def draftBytes (ds : List Draft) : ℕ :=
  (ds.map fun d => stateBytes + transitionBytes + d.transitions.length * transitionBytes).sum

/-- What it takes at most to read a spelling: a state with one transition for each byte. -/
def spellingBytes (rs : List ByteRange) : ℕ := rs.length * (stateBytes + transitionBytes)

section

variable {f : Extent → Option Extent} {n : ℕ}

lemma length_closed_le (d : Draft) (next : ℕ) :
    (d.closed next).length ≤ d.transitions.length + 1 := by
  rw [Draft.closed, List.length_append]
  rcases d.last with _ | range
  · exact Nat.le_succ _
  · exact Nat.le_refl _

@[simp] lemma draftBytes_cons (d : Draft) (ds : List Draft) :
    draftBytes (d :: ds) =
      stateBytes + transitionBytes + d.transitions.length * transitionBytes + draftBytes ds :=
  rfl

lemma draftBytes_map_last (rs : List ByteRange) :
    draftBytes (rs.map fun r => ⟨[], some r⟩) = spellingBytes rs := by
  induction rs with
  | nil => rfl
  | cons r rs ih =>
    rw [List.map_cons, draftBytes_cons, ih, spellingBytes, spellingBytes, List.length_cons,
      Nat.succ_mul]
    simp only [List.length_nil]
    omega

lemma Making.exists_stateFor (hf : Extent.Takes f n) (key : List ℕ) (mk : Making)
    (h : mk.extent.bytes + n ≤ maxBytes) :
    ∃ k mk', mk.stateFor key f = some (k, mk') ∧ mk'.extent.bytes ≤ mk.extent.bytes + n := by
  obtain ⟨extent, memory⟩ := mk
  rw [stateFor]
  dsimp only
  split
  · next k _ => exact ⟨k, _, rfl, Nat.le_add_right _ _⟩
  · obtain ⟨more, hmore, hle⟩ := hf extent h
    exact ⟨_, _, by rw [hmore, Option.map_some], hle⟩

lemma Making.exists_close (target : ℕ) (ds : List Draft) (mk : Making)
    (h : mk.extent.bytes + draftBytes ds ≤ maxBytes) :
    ∃ n mk', mk.close target ds = some (n, mk') ∧
      mk'.extent.bytes ≤ mk.extent.bytes + draftBytes ds := by
  induction ds with
  | nil => exact ⟨target, mk, rfl, Nat.le_refl _⟩
  | cons d ds ih =>
    rw [draftBytes_cons] at h ⊢
    obtain ⟨next, mk₁, hclose, hle⟩ := ih (by omega)
    have hclosed := Nat.mul_le_mul_right transitionBytes (length_closed_le d next)
    rw [Nat.succ_mul] at hclosed
    obtain ⟨n, mk₂, hstate, hle'⟩ :=
      exists_stateFor (Extent.takes_addTransitions (d.closed next).length) (keyOf (d.closed next))
        mk₁ (by omega)
    refine ⟨n, mk₂, ?_, by omega⟩
    rw [close, hclose, Option.bind_some]
    exact hstate

/-- What was made and what it takes to close the drafts grow together by what a spelling takes. -/
lemma Making.exists_add (target : ℕ) (ds : List Draft) (rs : List ByteRange) (mk : Making)
    (h : mk.extent.bytes + draftBytes ds + spellingBytes rs ≤ maxBytes) :
    ∃ ds' mk', mk.add target ds rs = some (ds', mk') ∧
      mk'.extent.bytes + draftBytes ds' ≤
        mk.extent.bytes + draftBytes ds + spellingBytes rs := by
  induction ds generalizing rs with
  | nil => exact ⟨[], mk, by rw [add]; simp, Nat.le_add_right _ _⟩
  | cons d ds ih =>
    rcases rs with _ | ⟨r, rs⟩
    · exact ⟨d :: ds, mk, by rw [add]; simp, Nat.le_add_right _ _⟩
    · have hspelling : spellingBytes (r :: rs) = spellingBytes rs + (stateBytes + transitionBytes) := by
        rw [spellingBytes, List.length_cons, Nat.succ_mul, spellingBytes]
      rw [draftBytes_cons, hspelling] at h
      rw [add, draftBytes_cons, hspelling]
      split
      · -- the spelling goes on like the one before it
        obtain ⟨ds', mk', hadd, hle⟩ := ih rs (by omega)
        refine ⟨d :: ds', mk', by rw [hadd, Option.map_some], ?_⟩
        rw [draftBytes_cons]
        omega
      · obtain ⟨next, mk', hclose, hle⟩ := exists_close target ds mk (by omega)
        have hclosed := Nat.mul_le_mul_right transitionBytes (length_closed_le d next)
        rw [Nat.succ_mul] at hclosed
        refine ⟨_, mk', by rw [hclose, Option.map_some], ?_⟩
        rw [draftBytes_cons, draftBytes_map_last]
        dsimp only
        omega

lemma Making.exists_addAll (target : ℕ) (ss : List (List ByteRange)) (ds : List Draft)
    (mk : Making)
    (h : mk.extent.bytes + draftBytes ds + (ss.map spellingBytes).sum ≤ maxBytes) :
    ∃ ds' mk', mk.addAll target ss ds = some (ds', mk') ∧
      mk'.extent.bytes + draftBytes ds' ≤
        mk.extent.bytes + draftBytes ds + (ss.map spellingBytes).sum := by
  induction ss generalizing ds mk with
  | nil => exact ⟨ds, mk, rfl, Nat.le_refl _⟩
  | cons rs ss ih =>
    rw [List.map_cons, List.sum_cons] at h ⊢
    obtain ⟨ds₁, mk₁, hadd, hle⟩ := exists_add target ds rs mk (by omega)
    obtain ⟨ds₂, mk₂, hall, hle'⟩ := ih ds₁ mk₁ (by omega)
    refine ⟨ds₂, mk₂, ?_, by omega⟩
    rw [addAll, hadd, Option.bind_some]
    exact hall

lemma Making.exists_addBackward (rs : List ByteRange) (next : ℕ) (mk : Making)
    (h : mk.extent.bytes + rs.length * stateBytes ≤ maxBytes) :
    ∃ n mk', mk.addBackward rs next = some (n, mk') ∧
      mk'.extent.bytes ≤ mk.extent.bytes + rs.length * stateBytes := by
  induction rs generalizing next mk with
  | nil => exact ⟨next, mk, rfl, Nat.le_add_right _ _⟩
  | cons r rs ih =>
    rw [List.length_cons, Nat.succ_mul] at h ⊢
    obtain ⟨n, mk₁, hstate, hle⟩ := exists_stateFor (Extent.takes_add 1)
      [next, r.first.toNat, r.last.toNat] mk (by omega)
    obtain ⟨n', mk₂, hadd, hle'⟩ := ih n mk₁ (by omega)
    refine ⟨n', mk₂, ?_, by omega⟩
    rw [addBackward, stateBackward, hstate, Option.bind_some]
    exact hadd

lemma Making.exists_addAllBackward (target : ℕ) (ss : List (List ByteRange)) (mk : Making)
    (hne : [] ∉ ss)
    (h : mk.extent.bytes + (ss.map spellingBytes).sum ≤ maxBytes) :
    ∃ mk', mk.addAllBackward target ss = some mk' ∧
      mk'.extent.bytes ≤ mk.extent.bytes + (ss.map spellingBytes).sum := by
  induction ss generalizing mk with
  | nil => exact ⟨mk, rfl, Nat.le_refl _⟩
  | cons rs ss ih =>
    rw [List.mem_cons, not_or] at hne
    rw [List.map_cons, List.sum_cons] at h ⊢
    have hspelling : rs.length * stateBytes + linkBytes ≤ spellingBytes rs := by
      have hpos : 0 < rs.length := List.length_pos_iff.mpr (Ne.symm hne.1)
      rw [spellingBytes, Nat.mul_add]
      exact Nat.add_le_add_left (Nat.le_trans (by decide) (Nat.le_mul_of_pos_left _ hpos)) _
    obtain ⟨n, mk₁, hadd, hle⟩ := exists_addBackward rs target mk (by omega)
    obtain ⟨more, hmore, hle'⟩ := Extent.takes_grow linkBytes mk₁.extent (by omega)
    obtain ⟨mk₂, hall, hle''⟩ := ih ⟨more, mk₁.memory⟩ hne.2 (by dsimp only; omega)
    refine ⟨mk₂, ?_, by dsimp only at hle''; omega⟩
    rw [addAllBackward, hadd, Option.bind_some]
    dsimp only
    rw [hmore, Option.bind_some]
    exact hall

end

lemma nil_not_mem_spellings (s : CharSet) : [] ∉ s.spellings := by
  have hencode : ∀ c, String.utf8EncodeChar c ≠ [] := fun c h => by
    have hlength := String.length_utf8EncodeChar c
    have hpos := c.utf8Size_pos
    rw [h, List.length_nil] at hlength
    omega
  intro h
  obtain ⟨r, -, h⟩ := List.mem_flatMap.mp h
  obtain ⟨r', -, h⟩ := List.mem_flatMap.mp h
  obtain ⟨r'', -, h⟩ := List.mem_map.mp h
  rcases List.zipWith_eq_nil_iff.mp h with h | h
  · exact hencode _ h
  · exact hencode _ h

/-- What is enough for the states for a set. -/
def setBytes (s : CharSet) : ℕ :=
  2 * stateBytes + transitionBytes + s.ranges.length * transitionBytes +
    (s.spellings.map spellingBytes).sum

lemma takes_makeSet (backward : Bool) (s : CharSet) :
    Extent.Takes (makeSet backward s) (setBytes s) := by
  intro x hx
  have hlink : linkBytes = 4 := rfl
  rw [setBytes] at hx
  rw [setBytes, makeSet]
  by_cases hplain : s.isPlain = true
  · rw [if_pos hplain]
    obtain ⟨y, hy, hle⟩ := (Extent.takes_add 1).bind
      (Extent.takes_addTransitions s.ranges.length) x (by omega)
    exact ⟨y, hy, by omega⟩
  · rw [if_neg hplain]
    rcases backward with _ | _
    · obtain ⟨y, hy, hle⟩ := Extent.takes_add 1 x (by omega)
      have hroot : draftBytes [⟨[], none⟩] = stateBytes + transitionBytes := rfl
      obtain ⟨ds, mk, hall, hle'⟩ := Making.exists_addAll x.states s.spellings [⟨[], none⟩]
        ⟨y, .ofSize forwardPlaces⟩ (by dsimp only; omega)
      dsimp only at hle'
      obtain ⟨n, mk', hclose, hle''⟩ := Making.exists_close x.states ds mk (by omega)
      refine ⟨mk'.extent, ?_, by omega⟩
      simp only [Bool.false_eq_true, if_false, hy, hall, hclose, Option.bind_eq_bind,
        Option.bind_some]
      rfl
    · obtain ⟨y, hy, hle⟩ :=
        ((Extent.takes_addUnion 0).bind (Extent.takes_add 1)) x (by omega)
      obtain ⟨mk, hall, hle'⟩ := Making.exists_addAllBackward (x.states + 1) s.spellings
        ⟨y, .ofSize backwardPlaces⟩ (nil_not_mem_spellings s) (by dsimp only; omega)
      refine ⟨mk.extent, ?_, by dsimp only at hle'; omega⟩
      obtain ⟨y', hy', hy⟩ := Option.bind_eq_some_iff.mp hy
      simp only [if_true, hy', hy, hall, Option.bind_eq_bind, Option.bind_some]
      rfl

/-! ### Expressions -/

/-- Makes the states for an expression, which lead on to what is made next. -/
def makeBefore (backward : Bool) (e : Expression) (x : Extent) : Option Extent :=
  (makeExpression backward e .alone x).bind Made.linked

section

variable {backward : Bool} {a b e : Expression} {m n : ℕ}

@[simp] lemma Standing.finish_alone (m : Made) : alone.finish m = some m := rfl

lemma takes_literal (backward : Bool) (t : Text) :
    Extent.Takes (makeBefore backward (.literal t)) (t.byteSize * stateBytes) := by
  have e : makeBefore backward (.literal t) = fun x => (x.add t.byteSize).bind (Extent.grow 0) := by
    funext x
    simp only [makeBefore, makeExpression, Standing.finish_alone, Option.bind_eq_bind,
      Option.bind_assoc]
    rfl
  rw [e]
  exact (Extent.takes_add t.byteSize).bind (Extent.takes_grow 0)

lemma takes_set (backward plain : Bool) (s : CharSet) :
    Extent.Takes (makeBefore backward (.set plain s)) (setBytes s) := by
  have e : makeBefore backward (.set plain s) =
      fun x => (makeSet backward s x).bind (Extent.grow 0) := by
    funext x
    simp only [makeBefore, makeExpression, Standing.finish_alone, Option.bind_eq_bind,
      Option.bind_assoc]
    rfl
  rw [e]
  exact (takes_makeSet backward s).bind (Extent.takes_grow 0)

lemma takes_sequence (ha : Extent.Takes (makeBefore backward a) m)
    (hb : Extent.Takes (makeBefore backward b) n) :
    Extent.Takes (makeBefore backward (.sequence a b)) (m + n) := by
  rcases backward with _ | _
  · have e : makeBefore false (.sequence a b) =
        fun x => (makeBefore false a x).bind (makeBefore false b) := by
      funext x
      simp only [makeBefore, makeExpression, Bool.false_eq_true, if_false, Standing.finish_alone,
        Option.bind_eq_bind, Option.bind_fun_some, Option.bind_assoc]
      rfl
    rw [e]
    exact ha.bind hb
  · have e : makeBefore true (.sequence a b) =
        fun x => (makeBefore true b x).bind (makeBefore true a) := by
      funext x
      simp only [makeBefore, makeExpression, if_true, Standing.finish_alone, Option.bind_eq_bind,
        Option.bind_fun_some, Option.bind_assoc]
      rfl
    rw [e, Nat.add_comm]
    exact hb.bind ha

lemma takes_repeated (greedy : Bool) (h : Extent.Takes (makeBefore backward e) n)
    (hread : e.minLength?.all (· = 0) = false) :
    Extent.Takes (makeBefore backward (.repeated e 0 none greedy))
      (stateBytes + 2 * linkBytes + n) := by
  have hunion : makeBefore backward (.repeated e 0 none greedy) =
      fun x => ((x.addUnion 1).bind (makeBefore backward e)).bind (Extent.grow linkBytes) := by
    funext x
    simp only [makeBefore, makeExpression, makeRepeated, Nat.lt_irrefl, if_false, hread,
      Bool.false_eq_true, Option.pure_def, Option.bind_eq_bind, Standing.finish_alone,
      Option.bind_fun_some, Option.bind_assoc, Option.bind_some]
    rfl
  rw [hunion]
  exact (((Extent.takes_addUnion 1).bind h).bind (Extent.takes_grow linkBytes)).mono (by omega)

lemma makeForward_eq (e : Expression) :
    makeForward e = (makeFront (e.startsWith .start)).bind fun x =>
      ((x.add 1).bind (makeBefore false e)).bind (Extent.add 2) := by
  simp only [makeForward, makeBefore, Option.bind_eq_bind, Option.bind_assoc]

lemma makeBackward_eq (e : Expression) :
    makeBackward e = (makeFront (e.stopsWith .stop)).bind fun x =>
      (makeBefore true e x).bind (Extent.add 1) := by
  simp only [makeBackward, makeBefore, Option.bind_eq_bind, Option.bind_assoc]

/-- What is enough for the states in front of an expression. -/
def frontBytes : ℕ := 112

lemma exists_makeFront (anchored : Bool) : ∃ x, makeFront anchored = some x ∧ x.bytes ≤ frontBytes := by
  rcases anchored with _ | _
  · exact ⟨_, rfl, by decide⟩
  · exact ⟨_, rfl, by decide⟩

/-- **An expression is not too large** if there is room for it in both directions, next to what
stands in front of it and the three states around it. -/
theorem isTooLarge_eq_false (h : ∀ backward, Extent.Takes (makeBefore backward e) n)
    (hroom : frontBytes + n + 3 * stateBytes ≤ maxBytes) : isTooLarge e = false := by
  have hforward : (makeForward e).isNone = false := by
    obtain ⟨x, hx, hle⟩ := exists_makeFront (e.startsWith .start)
    obtain ⟨y, hy, -⟩ :=
      (((Extent.takes_add 1).bind (h false)).bind (Extent.takes_add 2)) x (by omega)
    dsimp only at hy
    rw [makeForward_eq, hx, Option.bind_some, hy, Option.isNone_some]
  have hbackward : (makeBackward e).isNone = false := by
    obtain ⟨x, hx, hle⟩ := exists_makeFront (e.stopsWith .stop)
    obtain ⟨y, hy, -⟩ := ((h true).bind (Extent.takes_add 1)) x (by omega)
    dsimp only at hy
    rw [makeBackward_eq, hx, Option.bind_some, hy, Option.isNone_some]
  rw [isTooLarge, hforward, hbackward, Bool.or_self, Bool.and_false]

/-- **An expression that begins with a long literal is too large**, unless it stands for words. -/
theorem isTooLarge_sequence_literal {t : Text} (h : maxBytes < t.byteSize * stateBytes)
    (hwords : (Expression.sequence (.literal t) e).standsForWords = false) :
    isTooLarge (.sequence (.literal t) e) = true := by
  have hadd : ∀ x : Extent, x.add t.byteSize = none := fun x => if_neg (by
    dsimp only
    omega)
  have hmake : makeBefore false (.sequence (.literal t) e) = fun _ => none := by
    funext x
    simp only [makeBefore, makeExpression, Bool.false_eq_true, if_false, hadd,
      Option.bind_eq_bind, Option.bind_none]
  have hforward : makeForward (.sequence (.literal t) e) = none := by
    simp only [makeForward_eq, hmake, Option.bind_fun_none, Option.bind_none]
  rw [isTooLarge, hwords, hforward]
  rfl

end

end DrawStyle.Automaton
