import DrawStyle.Text

/-!
Values under names, kept in the order of the names.

Names are compared character by character, which is also the order of their bytes. A name is
held once; putting a value under a name that is held replaces the value there.
-/

namespace DrawStyle

abbrev Entries := List (Text × Text)

namespace Entries

def put (name value : Text) : Entries → Entries
  | [] => [(name, value)]
  | (k, v) :: es =>
    if name < k then (name, value) :: (k, v) :: es
    else if name = k then (name, value) :: es
    else (k, v) :: put name value es

def get? (name : Text) : Entries → Option Text
  | [] => none
  | (k, v) :: es => if name = k then some v else get? name es

def putAll (es : Entries) (members : List (Text × Text)) : Entries :=
  members.foldl (fun es (k, v) => es.put k v) es

/-- Sorts members by name; of members with equal names the last one counts. -/
def ofMembers (members : List (Text × Text)) : Entries := putAll [] members

def Sorted (es : Entries) : Prop := es.Pairwise fun e f => e.1 < f.1

theorem get?_put (name k value : Text) (es : Entries) :
    (es.put name value).get? k = if k = name then some value else es.get? k := by
  induction es with
  | nil => simp [put, get?]
  | cons e es ih =>
    obtain ⟨j, v⟩ := e
    unfold put
    split
    · simp [get?]
    · split
      · next h => subst h; by_cases hk : k = name <;> simp [get?, hk]
      · next h =>
        by_cases hk : k = j
        · subst hk; simp [get?, Ne.symm h]
        · simp [get?, hk, ih]

theorem fst_mem_of_mem_put {name value : Text} {es : Entries} {e : Text × Text}
    (h : e ∈ es.put name value) : e.1 = name ∨ e ∈ es := by
  induction es with
  | nil => simp_all [put]
  | cons f es ih =>
    unfold put at h
    split at h
    · rcases List.mem_cons.1 h with rfl | h
      · exact .inl rfl
      · exact .inr h
    · split at h
      · rcases List.mem_cons.1 h with rfl | h
        · exact .inl rfl
        · exact .inr (List.mem_cons_of_mem _ h)
      · rcases List.mem_cons.1 h with rfl | h
        · exact .inr List.mem_cons_self
        · exact (ih h).imp_right (List.mem_cons_of_mem _)

theorem sorted_nil : Sorted [] := List.Pairwise.nil

theorem Sorted.put {es : Entries} (h : es.Sorted) (name value : Text) :
    (es.put name value).Sorted := by
  induction es with
  | nil => exact List.pairwise_singleton _ _
  | cons e es ih =>
    have hrest : ∀ f ∈ es, e.1 < f.1 := (List.pairwise_cons.1 h).1
    have htail : Sorted es := (List.pairwise_cons.1 h).2
    unfold Entries.put
    split
    · next hlt =>
      refine List.pairwise_cons.2 ⟨fun f hf => ?_, h⟩
      rcases List.mem_cons.1 hf with rfl | hf
      · exact hlt
      · exact List.lt_trans hlt (hrest f hf)
    · next hlt =>
      split
      · next heq =>
        subst heq
        exact List.pairwise_cons.2 ⟨hrest, htail⟩
      · next hne =>
        refine List.pairwise_cons.2 ⟨fun f hf => ?_, ih htail⟩
        rcases fst_mem_of_mem_put hf with hf | hf
        · rw [hf]
          exact (List.le_iff_lt_or_eq.1 hlt).resolve_right (Ne.symm hne)
        · exact hrest f hf

theorem Sorted.putAll {es : Entries} (h : es.Sorted) (members : List (Text × Text)) :
    (es.putAll members).Sorted := by
  induction members generalizing es with
  | nil => exact h
  | cons m members ih => exact ih (h.put m.1 m.2)

theorem sorted_ofMembers (members : List (Text × Text)) : (ofMembers members).Sorted :=
  sorted_nil.putAll members

theorem get?_eq_none {name : Text} {es : Entries} (h : ∀ e ∈ es, name < e.1) :
    es.get? name = none := by
  induction es with
  | nil => rfl
  | cons e es ih =>
    have hne : name ≠ e.1 := fun he => List.lt_irrefl _ (he ▸ h e List.mem_cons_self)
    simp only [get?, if_neg hne]
    exact ih fun f hf => h f (List.mem_cons_of_mem _ hf)

theorem mem_of_get? {name value : Text} {es : Entries} (h : es.get? name = some value) :
    (name, value) ∈ es := by
  induction es with
  | nil => cases h
  | cons e es ih =>
    by_cases hk : name = e.1
    · simp only [get?, if_pos hk, Option.some.injEq] at h
      rw [hk, ← h]
      exact List.mem_cons_self
    · simp only [get?, if_neg hk] at h
      exact List.mem_cons_of_mem _ (ih h)

theorem get?_putAll {members : Entries} (h : members.Sorted) (es : Entries) (k : Text) :
    (es.putAll members).get? k = (members.get? k).or (es.get? k) := by
  induction members generalizing es with
  | nil => rfl
  | cons m members ih =>
    have hrest : (es.putAll (m :: members)).get? k = ((es.put m.1 m.2).putAll members).get? k := rfl
    rw [hrest, ih (List.pairwise_cons.1 h).2, get?_put]
    by_cases hk : k = m.1
    · subst hk
      simp [get?, get?_eq_none (List.pairwise_cons.1 h).1]
    · simp [get?, hk]

end Entries

/-- Inserts a name into a sorted list of names, where it stands once. -/
def insertName (name : Text) : List Text → List Text
  | [] => [name]
  | k :: ks =>
    if name < k then name :: k :: ks
    else if name = k then k :: ks
    else k :: insertName name ks

/-- The names of a list, sorted and without repeats. -/
def sortedNames (names : List Text) : List Text := names.foldl (fun ks name => insertName name ks) []

end DrawStyle
