import DrawStyle.Proofs.Pattern.Sections

/-!
Texts cut at the occurrences of a pattern in one way.

If no occurrence starts within another one, there is one way to cut a text at occurrences so
that none is left in the gaps. So all occurrences, wherever they stand, are found by a scan.
-/

namespace DrawStyle

namespace Sections

variable {α : Type} {s : Sections α}

/-- The text with a text of its own for each occurrence. -/
def replacing (f : α → Text) (s : Sections α) : Text :=
  s.parts.flatMap (fun part => part.1 ++ f part.2) ++ s.tail

@[simp] lemma replacing_nil {f : α → Text} {tail : Text} : replacing f ⟨[], tail⟩ = tail := rfl

@[simp] lemma replacing_cons {f : α → Text} {gap : Text} {a : α} {parts : List (Text × α)}
    {tail : Text} :
    replacing f ⟨(gap, a) :: parts, tail⟩ = gap ++ (f a ++ replacing f ⟨parts, tail⟩) := by
  simp [replacing]

/-- A text cut at an occurrence, and further on both of its sides. -/
lemma replacing_append (f : α → Text) (front back : List (Text × α)) (gap tail : Text) (a : α) :
    replacing f ⟨front ++ (gap, a) :: back, tail⟩ =
      replacing f ⟨front, gap⟩ ++ f a ++ replacing f ⟨back, tail⟩ := by
  simp [replacing]

lemma spell_eq_replacing (p : Pattern α) (s : Sections α) : s.spell p = s.replacing p.spell := by
  simp [spell, keeping, replacing]

/-- The text is cut at occurrences, and no occurrence is left in a gap. -/
structure Cuts (p : Pattern α) (s : Sections α) (t : Text) : Prop where
  spell : s.replacing p.spell = t
  hits : ∀ a ∈ s.hits, p.read (p.spell a) = some (a, [])
  gaps : ∀ gap ∈ s.gaps, p.hits gap = []

end Sections

namespace Pattern

variable {α : Type} {p : Pattern α} {a : α} {gap t u v rest : Text} {d : Sections α}

/-- No occurrence starts behind the first character of another one and within it. -/
def Solitary (p : Pattern α) : Prop :=
  ∀ {t : Text} {a : α} {rest : Text}, p.read t = some (a, rest) → p.Quiet (p.spell a).tail rest

lemma replace_eq_replacing (f : α → Text) (t : Text) :
    p.replace f t = (p.sections t).replacing f := by
  induction t using scan_induction (p := p) with
  | nil => simp [sections, Sections.ofPieces, Sections.replacing]
  | hit t a rest h ih =>
    rw [replace_of_read _ h, ih, sections_of_read h]
    simp
  | plain c t h ih =>
    rw [replace_cons _ h, ih, sections_cons h]
    rcases p.sections t with ⟨_ | ⟨⟨gap, a⟩, parts⟩, tail⟩ <;> simp

/-- A gap in which no occurrence starts stands in front of the first occurrence. -/
lemma sections_append_of_read (h : p.Quiet gap t) (hr : p.read t = some (a, rest)) :
    p.sections (gap ++ t) = ⟨(gap, a) :: (p.sections rest).parts, (p.sections rest).tail⟩ := by
  induction gap with
  | nil => exact sections_of_read hr
  | cons c gap ih =>
    obtain ⟨hc, hgap⟩ := throughout_cons.mp h
    rw [List.cons_append, sections_cons hc, ih hgap]

lemma sections_of_hits_eq_nil (h : p.hits t = []) : p.sections t = ⟨[], t⟩ := by
  induction t using scan_induction (p := p) with
  | nil => simp [sections, Sections.ofPieces]
  | hit t a rest hr _ =>
    rw [hits_of_read hr] at h
    cases h
  | plain c t hr ih =>
    rw [hits_cons hr] at h
    rw [sections_cons hr, ih h]

/-! ### A scan cuts -/

/-- A character in front of a gap makes no occurrence, if it makes none in the text. -/
lemma hits_cons_eq_nil (hp : p.Exact) {c : Char} (h : p.read (c :: (gap ++ t)) = none)
    (hgap : p.hits gap = []) : p.hits (c :: gap) = [] := by
  rcases hr : p.read (c :: gap) with _ | ⟨a, rest⟩
  · rwa [hits_cons hr]
  · have hread := hp.read_append hr t
    rw [List.cons_append, h] at hread
    cases hread

lemma hits_of_mem_gaps (hp : p.Exact) (h : gap ∈ (p.sections t).gaps) : p.hits gap = [] := by
  induction t using scan_induction (p := p) generalizing gap with
  | nil =>
    obtain rfl : gap = [] := by simpa [sections, Sections.ofPieces, Sections.gaps] using h
    exact hits_nil
  | hit t a rest hr ih =>
    rw [sections_of_read hr] at h
    rcases List.mem_cons.mp h with rfl | h
    · exact hits_nil
    · exact ih h
  | plain c t hr ih =>
    have hspell := spell_sections (p := p) t
    rw [sections_cons hr] at h
    rcases hsections : p.sections t with ⟨_ | ⟨⟨gap', a⟩, parts⟩, tail⟩
    · rw [hsections] at h ih hspell
      obtain rfl : gap = c :: tail := by simpa [Sections.gaps] using h
      obtain rfl : tail = t := by simpa [Sections.spell] using hspell
      exact hits_cons_eq_nil (t := []) hp (by simpa using hr) (ih (by simp [Sections.gaps]))
    · rw [hsections] at h ih hspell
      rcases List.mem_cons.mp h with rfl | h
      · rw [← hspell, Sections.spell, Sections.keeping_cons] at hr
        exact hits_cons_eq_nil hp hr (ih List.mem_cons_self)
      · exact ih (List.mem_cons_of_mem _ h)

/-- **The sections of a text** cut it at occurrences. -/
theorem cuts_sections (hp : p.Exact) (t : Text) : (p.sections t).Cuts p t where
  spell := by rw [← Sections.spell_eq_replacing, spell_sections]
  hits a ha := by
    rw [hits_sections] at ha
    obtain ⟨u, rest, hread⟩ := exists_read_of_mem_hits ha
    simpa using hp hread []
  gaps _ h := hits_of_mem_gaps hp h

/-! ### There is one way to cut -/

/-- Where an occurrence stands behind a gap, none starts in the gap: it would lie in the gap, or
the other one would start within it. -/
lemma quiet_of_read (hp : p.Exact) (hs : p.Solitary) (hgap : p.hits gap = [])
    (hr : p.read t = some (a, rest)) : p.Quiet gap t := by
  intro w hw hwgap
  rcases hread : p.read (w ++ t) with _ | ⟨b, rest'⟩
  · rfl
  · have hnone : p.read w = none := hits_eq_nil_iff.mp hgap w hwgap
    have hwithin : ∀ x, w ≠ p.spell b ++ x := by
      rintro x rfl
      rw [hp hread x] at hnone
      cases hnone
    rcases List.append_eq_append_iff.mp (p.eq_of_read hread) with ⟨x, hx, rfl⟩ | ⟨x, hx, -⟩
    · rcases eq_or_ne x [] with rfl | hne
      · exact absurd (by simpa using hx.symm) (hwithin [])
      · have hsuffix : x <:+ (p.spell b).tail := by
          rw [hx, List.tail_append_of_ne_nil hw]
          exact List.suffix_append _ _
        have hquiet : p.read (x ++ rest') = none := hs hread x hne hsuffix
        rw [hr] at hquiet
        cases hquiet
    · exact absurd hx (hwithin x)

/-- **A text is cut in one way**, if no occurrence starts within another one. -/
theorem eq_sections_of_cuts (hp : p.Exact) (hs : p.Solitary) (h : d.Cuts p t) :
    d = p.sections t := by
  obtain ⟨parts, tail⟩ := d
  induction parts generalizing t with
  | nil =>
    obtain rfl : tail = t := h.spell
    exact (sections_of_hits_eq_nil (h.gaps tail (by simp [Sections.gaps]))).symm
  | cons part parts ih =>
    obtain ⟨gap, a⟩ := part
    have hrest : Sections.Cuts p ⟨parts, tail⟩ (Sections.replacing p.spell ⟨parts, tail⟩) :=
      ⟨rfl, fun b hb => h.hits b (List.mem_cons_of_mem a hb),
        fun gap' hgap' => h.gaps gap' (List.mem_cons_of_mem gap hgap')⟩
    have hread := hp.read_append (h.hits a List.mem_cons_self)
      (Sections.replacing p.spell ⟨parts, tail⟩)
    rw [List.nil_append] at hread
    have hquiet := quiet_of_read hp hs (h.gaps gap List.mem_cons_self) hread
    rw [← h.spell, Sections.replacing_cons, sections_append_of_read hquiet hread, ← ih hrest]

/-- **Each occurrence is one of those at which a text is cut**, where it stands. -/
theorem exists_parts_of_cuts (hp : p.Exact) (hs : p.Solitary) (h : d.Cuts p t)
    (ha : p.read (p.spell a) = some (a, [])) (ht : t = u ++ p.spell a ++ v) :
    ∃ front gap back, d.parts = front ++ (gap, a) :: back ∧
      u = Sections.replacing p.spell ⟨front, gap⟩ ∧
      v = Sections.replacing p.spell ⟨back, d.tail⟩ := by
  obtain ⟨hu, huhits, hugaps⟩ := cuts_sections hp u
  obtain ⟨hv, hvhits, hvgaps⟩ := cuts_sections hp v
  -- what is cut on the two sides of the occurrence is cut at it
  have hcuts : Sections.Cuts p
      ⟨(p.sections u).parts ++ ((p.sections u).tail, a) :: (p.sections v).parts,
        (p.sections v).tail⟩ t := by
    refine ⟨?_, fun b hb => ?_, fun gap hgap => ?_⟩
    · rw [Sections.replacing_append, ht]
      exact congrArg₂ (· ++ p.spell a ++ ·) hu hv
    · rw [Sections.hits, List.map_append, List.map_cons, List.mem_append, List.mem_cons] at hb
      rcases hb with hb | rfl | hb
      · exact huhits b hb
      · exact ha
      · exact hvhits b hb
    · rw [Sections.gaps, List.map_append, List.map_cons, List.append_assoc, List.cons_append,
        List.mem_append, List.mem_cons] at hgap
      rcases hgap with hgap | rfl | hgap
      · exact hugaps gap (List.mem_append_left _ hgap)
      · exact hugaps _ (List.mem_append_right _ (List.mem_singleton_self _))
      · exact hvgaps gap hgap
  obtain rfl : d = _ := (eq_sections_of_cuts hp hs h).trans (eq_sections_of_cuts hp hs hcuts).symm
  exact ⟨_, _, _, rfl, hu.symm, hv.symm⟩

end Pattern

end DrawStyle
