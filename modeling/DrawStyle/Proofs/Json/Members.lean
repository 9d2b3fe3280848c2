import DrawStyle.Json.Members
import DrawStyle.Proofs.Json.StringLiteral
import DrawStyle.Proofs.Text.Runs

/-!
How objects of strings are written.

Blanks may stand around names, values and marks. The members are separated by commas, and none
follows the last one.
-/

namespace DrawStyle.Json

/-- A text of nothing but JSON blanks. -/
def Blanks (b : Text) : Prop := ∀ c ∈ b, isJsonBlank c = true

/-- The ways to write a member. -/
inductive MemberSpelling : Text → Text × Text → Prop
  | colon {u v b b' name value : Text} : StringSpelling u name → Blanks b → Blanks b' →
      StringSpelling v value →
      MemberSpelling ('"' :: (u ++ '"' :: (b ++ ':' :: (b' ++ '"' :: (v ++ ['"']))))) (name, value)

/-- The ways to write one or more members. -/
inductive MembersSpelling : Text → List (Text × Text) → Prop
  | last {b b' s : Text} {m : Text × Text} : Blanks b → MemberSpelling s m → Blanks b' →
      MembersSpelling (b ++ s ++ b') [m]
  | comma {b b' s t : Text} {m : Text × Text} {ms : List (Text × Text)} : Blanks b →
      MemberSpelling s m → Blanks b' → MembersSpelling t ms →
      MembersSpelling (b ++ s ++ b' ++ ',' :: t) (m :: ms)

/-- The ways to write what stands between the braces of an object. -/
inductive InnerSpelling : Text → List (Text × Text) → Prop
  | blanks {b : Text} : Blanks b → InnerSpelling b []
  | members {t : Text} {ms : List (Text × Text)} : MembersSpelling t ms → InnerSpelling t ms

/-- The ways to write an object as a whole file. -/
inductive FileSpelling : Text → List (Text × Text) → Prop
  | object {b b' s : Text} {ms : List (Text × Text)} : Blanks b → InnerSpelling s ms → Blanks b' →
      FileSpelling (b ++ '\x7b' :: (s ++ '\x7d' :: b')) ms

section

variable {t u s b rest name value : Text} {c : Char} {m : Text × Text} {ms : List (Text × Text)}

/-! ### Blanks -/

lemma skipBlanks_append (h : Blanks b) (hc : isJsonBlank c = false) (rest : Text) :
    skipBlanks (b ++ c :: rest) = c :: rest :=
  dropWhile_run h hc

lemma skipBlanks_eq_nil_iff : skipBlanks t = [] ↔ Blanks t :=
  List.dropWhile_eq_nil_iff

lemma exists_of_skipBlanks (h : skipBlanks t = c :: rest) :
    ∃ b, Blanks b ∧ t = b ++ c :: rest := by
  refine ⟨t.takeWhile isJsonBlank, fun d hd => List.mem_takeWhile_imp hd, ?_⟩
  rw [← h, skipBlanks, List.takeWhile_append_dropWhile]

/-! ### Members -/

lemma readStringValue_eq_ok_iff : readStringValue t = .ok (s, rest) ↔
    ∃ u, StringSpelling u s ∧ t = '"' :: (u ++ '"' :: rest) := by
  constructor
  · intro h
    rw [readStringValue.eq_def] at h
    split at h
    · obtain ⟨u, hspell, rfl⟩ := readString_eq_ok_iff.mp h
      exact ⟨u, hspell, rfl⟩
    · cases h
  · rintro ⟨u, hspell, rfl⟩
    exact readString_eq_ok_iff.mpr ⟨u, hspell, rfl⟩

/-- **A member is read where it is written**, behind the opening quote of its name. -/
theorem readMember_eq_ok_iff :
    readMember t = .ok (m, rest) ↔ ∃ s, MemberSpelling ('"' :: s) m ∧ t = s ++ rest := by
  constructor
  · intro h
    rw [readMember] at h
    split at h
    · cases h
    · next name t' hname =>
      obtain ⟨u, hu, rfl⟩ := readString_eq_ok_iff.mp hname
      split at h
      · cases h
      · next t'' hcolon =>
        obtain ⟨b, hb, rfl⟩ := exists_of_skipBlanks hcolon
        obtain ⟨⟨value, rest'⟩, hvalue, heq⟩ := map_eq_ok h
        cases heq
        obtain ⟨v, hv, hquote⟩ := readStringValue_eq_ok_iff.mp hvalue
        obtain ⟨b', hb', rfl⟩ := exists_of_skipBlanks hquote
        exact ⟨_, .colon hu hb hb' hv, by simp⟩
      · cases h
  · rintro ⟨s, hspell, rfl⟩
    cases hspell with
    | @colon u v b b' name value hu hb hb' hv =>
      have hname : readString (u ++ '"' :: (b ++ ':' :: (b' ++ '"' :: (v ++ '"' :: rest)))) =
          .ok (name, b ++ ':' :: (b' ++ '"' :: (v ++ '"' :: rest))) :=
        readString_eq_ok_iff.mpr ⟨u, hu, rfl⟩
      have hcolon := skipBlanks_append hb (c := ':') rfl (b' ++ '"' :: (v ++ '"' :: rest))
      have hquote := skipBlanks_append hb' (c := '"') rfl (v ++ '"' :: rest)
      have hvalue : readStringValue ('"' :: (v ++ '"' :: rest)) = .ok (value, rest) :=
        readStringValue_eq_ok_iff.mpr ⟨v, hv, rfl⟩
      simp only [List.append_assoc, List.cons_append, List.nil_append, readMember, hname, hcolon,
        hquote, hvalue]
      rfl

lemma MemberSpelling.exists_read (hs : MemberSpelling s m) (hb : Blanks b) (t : Text) :
    ∃ u, skipBlanks (b ++ s ++ t) = '"' :: u ∧ readMember u = .ok (m, t) := by
  obtain ⟨s', rfl⟩ : ∃ s', s = '"' :: s' := by
    cases hs
    exact ⟨_, rfl⟩
  refine ⟨s' ++ t, ?_, readMember_eq_ok_iff.mpr ⟨s', hs, rfl⟩⟩
  rw [List.append_assoc]
  exact skipBlanks_append hb rfl _

lemma readMembers_brace (hb : Blanks b) : readMembers (b ++ '\x7d' :: rest) = .ok ([], rest) := by
  have hbrace := skipBlanks_append hb (c := '\x7d') rfl rest
  rw [readMembers]
  split
  · next h => rw [hbrace] at h; cases h
  · next h => rw [hbrace] at h; cases h; rfl
  · next h => rw [hbrace] at h; cases h
  · next hne _ => exact absurd hbrace (hne _)

/-- A comma with a member behind it is read if what follows is. -/
lemma readMembers_comma {b' : Text} (hb : Blanks b) (hb' : Blanks b') (hs : MemberSpelling s m)
    (ht : readMembers t = .ok (ms, rest)) :
    readMembers (b ++ ',' :: (b' ++ s ++ t)) = .ok (m :: ms, rest) := by
  have hcomma := skipBlanks_append hb (c := ',') rfl (b' ++ s ++ t)
  obtain ⟨u, hquote, hmember⟩ := hs.exists_read hb' t
  rw [readMembers]
  split
  · next h => rw [hcomma] at h; cases h
  · next h => rw [hcomma] at h; cases h
  · next v h =>
    rw [hcomma] at h
    cases h
    split
    · next u h =>
      rw [hquote] at h
      cases h
      split
      · next h => rw [hmember] at h; cases h
      · next h =>
        rw [hmember] at h
        cases h
        rw [ht]
        rfl
    · next hne => exact absurd hquote (hne _)
  · next hne => exact absurd hcomma (hne _)

/-- What follows a member, behind blanks: the end of the object, or a comma and more members. -/
lemma readMembers_eq_ok_iff : readMembers t = .ok (ms, rest) ↔
    ∃ b, Blanks b ∧ (ms = [] ∧ t = b ++ '\x7d' :: rest ∨
      ∃ s, MembersSpelling s ms ∧ t = b ++ ',' :: (s ++ '\x7d' :: rest)) := by
  constructor
  · intro h
    fun_induction readMembers t generalizing ms rest with
    | case1 => cases h
    | case2 t rest' hbrace =>
      cases h
      obtain ⟨b, hb, rfl⟩ := exists_of_skipBlanks hbrace
      exact ⟨b, hb, .inl ⟨rfl, rfl⟩⟩
    | case3 => cases h
    | case4 t v hcomma u hquote m rest' hmember ih =>
      obtain ⟨⟨ms', rest''⟩, hrest, heq⟩ := map_eq_ok h
      cases heq
      obtain ⟨b, hb, rfl⟩ := exists_of_skipBlanks hcomma
      obtain ⟨b₁, hb₁, rfl⟩ := exists_of_skipBlanks hquote
      obtain ⟨s, hs, rfl⟩ := readMember_eq_ok_iff.mp hmember
      obtain ⟨b₂, hb₂, ⟨rfl, rfl⟩ | ⟨s', hs', rfl⟩⟩ := ih hrest
      · exact ⟨b, hb, .inr ⟨_, .last hb₁ hs hb₂, by simp⟩⟩
      · exact ⟨b, hb, .inr ⟨_, .comma hb₁ hs hb₂ hs', by simp⟩⟩
    | case5 => cases h
    | case6 => cases h
  · rintro ⟨b, hb, ⟨rfl, rfl⟩ | ⟨s, hs, rfl⟩⟩
    · exact readMembers_brace hb
    · induction hs generalizing b with
      | last hb₁ hs hb₂ =>
        rw [List.append_assoc]
        exact readMembers_comma hb hb₁ hs (readMembers_brace hb₂)
      | comma hb₁ hs hb₂ _ ih =>
        simp only [List.append_assoc, List.cons_append]
        simpa using readMembers_comma hb hb₁ hs (ih _ hb₂)

/-- The first member of an object is read if what follows it is. -/
lemma readObject_member (hb : Blanks b) (hs : MemberSpelling s m)
    (ht : readMembers t = .ok (ms, rest)) : readObject (b ++ s ++ t) = .ok (m :: ms, rest) := by
  obtain ⟨u, hquote, hmember⟩ := hs.exists_read hb t
  simp only [readObject, hquote, hmember, ht]
  rfl

/-- **What stands between the braces of an object** is read up to the closing one. -/
theorem readObject_eq_ok_iff :
    readObject t = .ok (ms, rest) ↔ ∃ s, InnerSpelling s ms ∧ t = s ++ '\x7d' :: rest := by
  constructor
  · intro h
    rw [readObject] at h
    split at h
    · cases h
    · next hbrace =>
      cases h
      obtain ⟨b, hb, rfl⟩ := exists_of_skipBlanks hbrace
      exact ⟨b, .blanks hb, rfl⟩
    · next u hquote =>
      split at h
      · cases h
      · next m rest' hmember =>
        obtain ⟨⟨ms', rest''⟩, hrest, heq⟩ := map_eq_ok h
        cases heq
        obtain ⟨b, hb, rfl⟩ := exists_of_skipBlanks hquote
        obtain ⟨s, hs, rfl⟩ := readMember_eq_ok_iff.mp hmember
        obtain ⟨b', hb', ⟨rfl, rfl⟩ | ⟨s', hs', rfl⟩⟩ := readMembers_eq_ok_iff.mp hrest
        · exact ⟨_, .members (.last hb hs hb'), by simp⟩
        · exact ⟨_, .members (.comma hb hs hb' hs'), by simp⟩
    · cases h
  · rintro ⟨s, hspell, rfl⟩
    rcases hspell with hb | hspell
    · simp only [readObject, skipBlanks_append hb (c := '\x7d') rfl rest]
    · cases hspell with
      | last hb hs hb' =>
        rw [List.append_assoc]
        exact readObject_member hb hs (readMembers_brace hb')
      | @comma b b' s t m ms hb hs hb' ht =>
        have hrest : readMembers (b' ++ ',' :: (t ++ '\x7d' :: rest)) = .ok (ms, rest) :=
          readMembers_eq_ok_iff.mpr ⟨b', hb', .inr ⟨t, ht, rfl⟩⟩
        simpa using readObject_member hb hs hrest

end

end DrawStyle.Json
