import DrawStyle.Text

/-!
Patterns that are looked for in a text from left to right.

A pattern reads an occurrence off the front of a text. `Pattern.pieces` cuts a text into
occurrences and single characters: at each place an occurrence is taken if there is one, and
the scan goes on behind it. Occurrences never overlap, and nothing is lost. Everything that is done
with a pattern, listing, locating, replacing and erasing, is read off the pieces.
-/

namespace DrawStyle

/-- A pattern that reads at most one occurrence at the front of a text. -/
structure Pattern (α : Type) where
  read : Text → Option (α × Text)
  spell : α → Text
  spell_ne_nil : ∀ a, spell a ≠ []
  eq_of_read : ∀ {t a rest}, read t = some (a, rest) → t = spell a ++ rest

inductive Piece (α : Type) where
  | plain (c : Char)
  | hit (a : α)

def Piece.hit? {α : Type} : Piece α → Option α
  | plain _ => none
  | hit a => some a

namespace Pattern

variable {α : Type} (p : Pattern α)

theorem length_lt_of_read {t : Text} {a : α} {rest : Text} (h : p.read t = some (a, rest)) :
    rest.length < t.length := by
  have hpos := List.length_pos_iff.2 (p.spell_ne_nil a)
  rw [p.eq_of_read h, List.length_append]
  omega

def pieces (t : Text) : List (Piece α) :=
  match _h : p.read t with
  | some (a, rest) => .hit a :: pieces rest
  | none =>
    match t with
    | [] => []
    | c :: t => .plain c :: pieces t
termination_by t.length
decreasing_by
  · exact p.length_lt_of_read _h
  · exact Nat.lt_succ_self _

def replace (f : α → Text) (t : Text) : Text :=
  (p.pieces t).flatMap fun
    | .plain c => [c]
    | .hit a => f a

/-- A text with each occurrence taken out. -/
def erase (t : Text) : Text := p.replace (fun _ => []) t

/-- The occurrences in a text, from left to right. -/
def hits (t : Text) : List α := (p.pieces t).filterMap Piece.hit?

def occursIn (t : Text) : Bool := !(p.hits t).isEmpty

/-- The occurrences among some pieces, each with the number of bytes before it, where `n`
bytes stand before the first piece. -/
def locate (n : Nat) : List (Piece α) → List (Nat × α)
  | [] => []
  | .plain c :: ps => locate (n + c.utf8Size) ps
  | .hit a :: ps => (n, a) :: locate (n + (p.spell a).byteSize) ps

/-- The occurrences in a text, each with the byte offset at which it starts. -/
def located (t : Text) : List (Nat × α) := p.locate 0 (p.pieces t)

variable {p}

theorem pieces_of_read {t : Text} {a : α} {rest : Text} (h : p.read t = some (a, rest)) :
    p.pieces t = .hit a :: p.pieces rest := by
  rw [pieces]
  split
  · next h' => rw [h] at h'; cases h'; rfl
  · next h' => rw [h] at h'; cases h'

theorem read_nil : p.read [] = none := by
  cases h : p.read [] with
  | none => rfl
  | some ar =>
    have := p.eq_of_read h
    simp [p.spell_ne_nil] at this

@[simp] theorem pieces_nil : p.pieces [] = [] := by
  rw [pieces]
  split
  · next h => rw [read_nil] at h; cases h
  · rfl

theorem pieces_cons {c : Char} {t : Text} (h : p.read (c :: t) = none) :
    p.pieces (c :: t) = .plain c :: p.pieces t := by
  rw [pieces]
  split
  · next h' => rw [h] at h'; cases h'
  · rfl

/-- Reading a text from left to right is an induction: it ends, or has an occurrence at its
front, or has none there and a first character to step over. -/
theorem scan_induction {motive : Text → Prop} (nil : motive [])
    (hit : ∀ t a rest, p.read t = some (a, rest) → motive rest → motive t)
    (plain : ∀ c t, p.read (c :: t) = none → motive t → motive (c :: t)) (t : Text) :
    motive t := by
  induction hn : t.length using Nat.strongRecOn generalizing t with
  | ind n ih =>
    subst hn
    cases h : p.read t with
    | some ar => exact hit t ar.1 ar.2 h (ih _ (p.length_lt_of_read h) _ rfl)
    | none =>
      cases t with
      | nil => exact nil
      | cons c t => exact plain c t h (ih _ (by simp) _ rfl)

@[simp] theorem replace_nil (f : α → Text) : p.replace f [] = [] := by simp [replace]

theorem replace_of_read (f : α → Text) {t : Text} {a : α} {rest : Text}
    (h : p.read t = some (a, rest)) : p.replace f t = f a ++ p.replace f rest := by
  simp [replace, pieces_of_read h]

theorem replace_cons (f : α → Text) {c : Char} {t : Text} (h : p.read (c :: t) = none) :
    p.replace f (c :: t) = c :: p.replace f t := by
  simp [replace, pieces_cons h]

@[simp] theorem erase_nil : p.erase [] = [] := replace_nil _

theorem erase_of_read {t : Text} {a : α} {rest : Text} (h : p.read t = some (a, rest)) :
    p.erase t = p.erase rest := by
  simp [erase, replace_of_read _ h]

theorem erase_cons {c : Char} {t : Text} (h : p.read (c :: t) = none) :
    p.erase (c :: t) = c :: p.erase t := replace_cons _ h

theorem erase_sublist (t : Text) : (p.erase t).Sublist t := by
  induction t using scan_induction (p := p) with
  | nil => simp
  | hit t a rest h ih =>
    rw [erase_of_read h, p.eq_of_read h]
    exact ih.trans (List.sublist_append_right _ _)
  | plain c t h ih =>
    rw [erase_cons h]
    exact ih.cons_cons c

end Pattern

end DrawStyle
