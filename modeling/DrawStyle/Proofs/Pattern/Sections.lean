import DrawStyle.Proofs.Pattern.Seam

/-!
Texts cut at the occurrences of a pattern.

The sections of a text are its occurrences, each with the gap in front of it, and the tail
behind the last one. They spell the text, and the occurrences are located where the gaps and
the occurrences before them end.
-/

namespace DrawStyle

/-- The occurrences in a text, each with the gap in front of it, and what stands behind the
last one. -/
structure Sections (α : Type) where
  parts : List (Text × α)
  tail : Text

namespace Sections

variable {α : Type}

/-- The sections of which some pieces are made. -/
def ofPieces : List (Piece α) → Sections α
  | [] => ⟨[], []⟩
  | .plain c :: ps =>
    match ofPieces ps with
    | ⟨[], tail⟩ => ⟨[], c :: tail⟩
    | ⟨(gap, a) :: parts, tail⟩ => ⟨(c :: gap, a) :: parts, tail⟩
  | .hit a :: ps => ⟨([], a) :: (ofPieces ps).parts, (ofPieces ps).tail⟩

/-- The text outside the occurrences, from left to right. -/
def gaps (s : Sections α) : List Text := s.parts.map Prod.fst ++ [s.tail]

/-- The occurrences, from left to right. -/
def hits (s : Sections α) : List α := s.parts.map Prod.snd

/-- The text in which only the occurrences with `keep` are left between the gaps. -/
def keeping (p : Pattern α) (keep : α → Bool) (s : Sections α) : Text :=
  s.parts.flatMap (fun (gap, a) => gap ++ if keep a then p.spell a else []) ++ s.tail

@[simp] lemma keeping_nil {p : Pattern α} {keep : α → Bool} {tail : Text} :
    keeping p keep ⟨[], tail⟩ = tail := rfl

@[simp] lemma keeping_cons {p : Pattern α} {keep : α → Bool} {gap : Text} {a : α}
    {parts : List (Text × α)} {tail : Text} :
    keeping p keep ⟨(gap, a) :: parts, tail⟩ =
      gap ++ ((if keep a then p.spell a else []) ++ keeping p keep ⟨parts, tail⟩) := by
  simp [keeping]

/-- The text with the given sections. -/
def spell (p : Pattern α) (s : Sections α) : Text := s.keeping p fun _ => true

/-- The occurrences with their byte offsets, where `n` bytes stand before the first gap. -/
def locate (p : Pattern α) : ℕ → List (Text × α) → List (ℕ × α)
  | _, [] => []
  | n, (gap, a) :: parts =>
    (n + gap.byteSize, a) :: locate p (n + gap.byteSize + (p.spell a).byteSize) parts

end Sections

namespace Pattern

variable {α : Type} {p : Pattern α} {t : Text}

/-- A text cut at the occurrences of a pattern. -/
def sections (p : Pattern α) (t : Text) : Sections α := .ofPieces (p.pieces t)

lemma sections_of_read {a : α} {rest : Text} (h : p.read t = some (a, rest)) :
    p.sections t = ⟨([], a) :: (p.sections rest).parts, (p.sections rest).tail⟩ := by
  simp only [sections, pieces_of_read h, Sections.ofPieces]

lemma sections_cons {c : Char} (h : p.read (c :: t) = none) :
    p.sections (c :: t) =
      match p.sections t with
      | ⟨[], tail⟩ => ⟨[], c :: tail⟩
      | ⟨(gap, a) :: parts, tail⟩ => ⟨(c :: gap, a) :: parts, tail⟩ := by
  simp only [sections, pieces_cons h, Sections.ofPieces]

/-- **The sections of a text spell it.** -/
theorem spell_sections (t : Text) : (p.sections t).spell p = t := by
  induction t using scan_induction (p := p) with
  | nil => simp [sections, Sections.ofPieces, Sections.spell]
  | hit t a rest h ih =>
    rw [sections_of_read h]
    conv_rhs => rw [p.eq_of_read h, ← ih]
    simp [Sections.spell]
  | plain c t h ih =>
    rw [sections_cons h]
    conv_rhs => rw [← ih]
    rcases p.sections t with ⟨_ | ⟨⟨gap, a⟩, parts⟩, tail⟩ <;>
      simp [Sections.spell]

/-- The occurrences of the sections are those that are found in the text. -/
lemma hits_sections (t : Text) : (p.sections t).hits = p.hits t := by
  induction t using scan_induction (p := p) with
  | nil => simp [sections, Sections.ofPieces, Sections.hits]
  | hit t a rest h ih =>
    rw [sections_of_read h, hits_of_read h, ← ih]
    simp [Sections.hits]
  | plain c t h ih =>
    rw [sections_cons h, hits_cons h, ← ih]
    rcases p.sections t with ⟨_ | ⟨⟨gap, a⟩, parts⟩, tail⟩ <;> simp [Sections.hits]

lemma locate_pieces (t : Text) (n : ℕ) :
    p.locate n (p.pieces t) = Sections.locate p n (p.sections t).parts := by
  induction t using scan_induction (p := p) generalizing n with
  | nil => simp [sections, Sections.ofPieces, locate, Sections.locate]
  | hit t a rest h ih =>
    rw [sections_of_read h, pieces_of_read h]
    simp [locate, Sections.locate, ih]
  | plain c t h ih =>
    rw [sections_cons h, pieces_cons h, locate, ih]
    rcases p.sections t with ⟨_ | ⟨⟨gap, a⟩, parts⟩, tail⟩ <;>
      simp [Sections.locate, Nat.add_assoc]

/-- **The occurrences stand where their sections stand**: behind the gaps and the occurrences
before them. -/
theorem located_eq_locate_sections (t : Text) :
    p.located t = Sections.locate p 0 (p.sections t).parts := locate_pieces t 0

lemma map_snd_locate (n : ℕ) (ps : List (Piece α)) :
    (p.locate n ps).map Prod.snd = ps.filterMap Piece.hit? := by
  induction ps generalizing n with
  | nil => rfl
  | cons q ps ih => cases q <;> simp [locate, ih, List.filterMap_cons, Piece.hit?]

lemma map_snd_located (t : Text) : (p.located t).map Prod.snd = p.hits t := map_snd_locate 0 _

end Pattern

end DrawStyle
