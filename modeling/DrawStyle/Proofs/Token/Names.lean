import DrawStyle.Proofs.Run.Outcome
import DrawStyle.Proofs.Token.Entries
import DrawStyle.Proofs.Token.Reference

/-!
The names of tokens.

Names come into a table one by one, from token files and from other tables, and are checked
character by character. References are read by a pattern. Both know the same names, those made of
dashes included.
-/

namespace DrawStyle

/-- The names of tokens: two dashes, and at least one ASCII letter, digit or dash behind them. -/
def IsTokenName (name : Text) : Prop :=
  ∃ bare, bare ≠ [] ∧ (∀ c ∈ bare, c.isAlphanum = true ∨ c = '-') ∧ name = '-' :: '-' :: bare

/-- A name with two dashes in front, whether it was given with them or not. -/
def dashed (name : Text) : Text := '-' :: '-' :: bareName name

section

variable {name k t : Text} {c : Char} {table table' layer : TokenTable} {value : Text}

/-! ### One kind of names -/

lemma inTokenName_iff : inTokenName c = true ↔ c.isAlphanum = true ∨ c = '-' := by
  have halphanum : c.isAlphanum = (decide ('A' ≤ c ∧ c ≤ 'Z') || ('a' ≤ c && c ≤ 'z') ||
      ('0' ≤ c && c ≤ '9')) := rfl
  simp only [halphanum, inTokenName, isAlphanumeric, Bool.or_eq_true, Bool.and_eq_true,
    decide_eq_true_eq, beq_iff_eq]
  tauto

lemma isTokenName_iff_valid : IsTokenName name ↔ ∃ r : Reference, r.Valid ∧ r.name = name := by
  constructor
  · rintro ⟨bare, hne, hall, rfl⟩
    exact ⟨⟨bare⟩, ⟨hne, fun c hc => inTokenName_iff.mpr (hall c hc)⟩, rfl⟩
  · rintro ⟨r, hr, rfl⟩
    exact ⟨r.bare, hr.ne_nil, fun c hc => inTokenName_iff.mp (hr.bare c hc), rfl⟩

lemma IsTokenName.dashed_eq (h : IsTokenName name) : dashed name = name := by
  obtain ⟨bare, -, -, rfl⟩ := h
  rfl

/-- **A name is taken if it is the name of a token** with its dashes, and is held with them. -/
theorem normalizeName?_eq_some_iff :
    normalizeName? name = some k ↔ IsTokenName k ∧ k = dashed name := by
  simp only [normalizeName?]
  constructor
  · intro h
    split_ifs at h with hne hall
    obtain rfl := Option.some.inj h
    rw [List.all_eq_true] at hall
    exact ⟨⟨_, hne, fun c hc => inTokenName_iff.mp (hall c hc), rfl⟩, rfl⟩
  · rintro ⟨⟨bare, hne, hall, rfl⟩, hk⟩
    obtain rfl : bare = bareName name := by simpa [dashed] using hk
    have hchars : (bareName name).all inTokenName = true :=
      List.all_eq_true.mpr fun c hc => inTokenName_iff.mpr (hall c hc)
    rw [if_neg hne, if_pos hchars]

lemma IsTokenName.normalizeName? (h : IsTokenName name) : normalizeName? name = some name :=
  normalizeName?_eq_some_iff.mpr ⟨h, h.dashed_eq.symm⟩

/-- A name that is taken with its dashes is taken as it is, and held alike. -/
lemma normalizeName?_dashed (h : IsTokenName (dashed name)) :
    DrawStyle.normalizeName? name = some (dashed name) :=
  normalizeName?_eq_some_iff.mpr ⟨h, rfl⟩

/-! ### References -/

/-- The reference to a name. -/
def referenceTo (name : Text) : Text := ['v', 'a', 'r', '('] ++ name ++ [')']

lemma Reference.spell_eq_referenceTo (r : Reference) : r.spell = referenceTo r.name := rfl

lemma IsTokenName.read_referenceTo (h : IsTokenName name) :
    ∃ r : Reference, r.name = name ∧ Reference.read (referenceTo name) = some (r, []) := by
  obtain ⟨r, hr, rfl⟩ := isTokenName_iff_valid.mp h
  refine ⟨r, rfl, ?_⟩
  rw [← r.spell_eq_referenceTo, ← List.append_nil r.spell]
  exact hr.read_spell_append []

lemma IsTokenName.references_referenceTo (h : IsTokenName name) :
    references (referenceTo name) = [name] := by
  obtain ⟨r, rfl, hread⟩ := h.read_referenceTo
  rw [TokenTable.references_of_read hread, TokenTable.references_nil]

lemma isTokenName_of_mem_references (h : name ∈ references t) : IsTokenName name := by
  rw [references] at h
  obtain ⟨r, hr, rfl⟩ := List.mem_map.mp h
  obtain ⟨u, rest, hread⟩ := Pattern.exists_read_of_mem_hits hr
  exact isTokenName_iff_valid.mpr ⟨r, Reference.valid_of_read hread, rfl⟩

lemma IsTokenName.resolve_referenceTo (h : IsTokenName name) (hget : table.get? name = some value) :
    table.resolve (referenceTo name) = value := by
  obtain ⟨r, rfl, hread⟩ := h.read_referenceTo
  rw [TokenTable.resolve_of_read hread, TokenTable.value_of_get? hget]
  simp [TokenTable.resolve]

/-! ### Tables -/

namespace TokenTable

/-- What inserting does: the value is put under the name with its dashes, if that is the name of a
token. -/
lemma insert_eq_ok_iff : table.insert name value = .ok table' ↔
    IsTokenName (dashed name) ∧ table'.entries = table.entries.put (dashed name) value := by
  rw [insert]
  constructor
  · intro h
    split at h
    · next k hk =>
      obtain ⟨hname, rfl⟩ := normalizeName?_eq_some_iff.mp hk
      obtain rfl := Except.ok.inj h
      exact ⟨hname, rfl⟩
    · cases h
  · rintro ⟨hname, hentries⟩
    rw [normalizeName?_dashed hname]
    obtain ⟨entries, hsorted⟩ := table'
    subst hentries
    rfl

/-- All names of the table are names of tokens. -/
def Named (table : TokenTable) : Prop := ∀ e ∈ table.entries, IsTokenName e.1

lemma named_empty : empty.Named := by
  intro e he
  cases he

lemma named_drawingDefaults : drawingDefaults.Named := by
  have hall : ∀ e ∈ drawingDefaults.entries, normalizeName? e.1 = some e.1 := by
    dsimp only [drawingDefaults]
    exact Entries.forall_mem_ofMembers (by decide)
  intro e he
  exact (normalizeName?_eq_some_iff.mp (hall e he)).1

lemma Named.insert (h : table.Named) (hinsert : table.insert name value = .ok table') :
    table'.Named := by
  obtain ⟨hname, hentries⟩ := insert_eq_ok_iff.mp hinsert
  intro e he
  rw [hentries] at he
  rcases Entries.fst_mem_of_mem_put he with he | he
  · rwa [he]
  · exact h e he

lemma Named.insertAll {members : List (Text × Text)} (h : table.Named)
    (hinsert : table.insertAll members = .ok table') : table'.Named := by
  induction members generalizing table with
  | nil =>
    obtain rfl := Except.ok.inj hinsert
    exact h
  | cons m members ih =>
    rw [TokenTable.insertAll] at hinsert
    split at hinsert
    · next hstep => exact ih (h.insert hstep) hinsert
    · cases hinsert

lemma Named.extend (h : table.Named) (hlayer : layer.Named) : (table.extend layer).Named := by
  intro e he
  rw [← get?_eq_some_iff, get?_extend, Option.or_eq_some_iff] at he
  rcases he with he | ⟨-, he⟩
  · exact hlayer e (get?_eq_some_iff.mp he)
  · exact h e (get?_eq_some_iff.mp he)

lemma named_of_parse {file : Text} (h : parse file = .ok table) : table.Named := by
  rw [parse] at h
  split at h
  · cases h
  · split at h
    · cases h
    · next htable =>
      split at h
      · obtain rfl := Except.ok.inj h
        exact named_empty.insertAll htable
      · cases h

/-- The tables that can be made. A token that is refused leaves its table as it was. -/
inductive Reachable : TokenTable → Prop
  | empty : Reachable empty
  | drawingDefaults : Reachable drawingDefaults
  | insert {table table' : TokenTable} {name value : Text} : Reachable table →
      table.insert name value = .ok table' → Reachable table'
  | extend {table layer : TokenTable} : Reachable table → Reachable layer →
      Reachable (table.extend layer)
  | load {table : TokenTable} {p : Path} {w w' : World} :
      (loadTable (m := StateM World) p).run w = (.ok table, w') → Reachable table

/-- **All names in tables are names of tokens**, wherever they come from. -/
theorem Reachable.named (h : table.Reachable) : table.Named := by
  induction h with
  | empty => exact named_empty
  | drawingDefaults => exact named_drawingDefaults
  | insert _ hinsert ih => exact ih.insert hinsert
  | extend _ _ ih ihlayer => exact ih.extend ihlayer
  | load hload =>
    obtain ⟨file, -, hparse⟩ := loadTable_eq_ok_iff.mp ⟨_, hload⟩
    exact named_of_parse hparse

end TokenTable

end

/-- **The names that tables hold are the names that texts refer to.** In every table, each name is
held once; it is the name of a token, and the reference to it is replaced by its value. Every name
to which a text refers can be inserted into any table, under just that name, and no text has it
left without a value then. Inserting under a name is the same as inserting under the name that is
held for it. -/
theorem names_of_tables_and_references :
    (∀ table : TokenTable, table.Reachable → (table.entries.map Prod.fst).Nodup ∧
      ∀ name value, (name, value) ∈ table.entries → IsTokenName name ∧
        references (referenceTo name) = [name] ∧ table.resolve (referenceTo name) = value) ∧
    (∀ t : Text, ∀ name ∈ references t, ∀ (table : TokenTable) (value : Text),
      ∃ table', table.insert name value = .ok table' ∧
        (∀ k, table'.get? k = if k = name then some value else table.get? k) ∧
        ∀ u, name ∉ (table'.resolution u).unresolved) ∧
    ∀ name k, normalizeName? name = some k → normalizeName? k = some k ∧
      ∀ (table : TokenTable) (value : Text), table.insert name value = table.insert k value := by
  refine ⟨fun table htable => ⟨table.sorted.nodup_names, fun name value hmem => ?_⟩,
    fun t name hname table value => ?_, fun name k hk => ?_⟩
  · have hname := htable.named _ hmem
    have hget : table.get? name = some value := TokenTable.get?_eq_some_iff.mpr hmem
    exact ⟨hname, hname.references_referenceTo, hname.resolve_referenceTo hget⟩
  · have htoken := isTokenName_of_mem_references hname
    let table' : TokenTable := ⟨table.entries.put name value, table.sorted.put name value⟩
    have hget : ∀ k, table'.get? k = if k = name then some value else table.get? k :=
      fun k => Entries.get?_put name k value table.entries
    refine ⟨table', ?_, hget, fun u hu => ?_⟩
    · rw [TokenTable.insert_eq_ok_iff, htoken.dashed_eq]
      exact ⟨htoken, rfl⟩
    · obtain ⟨-, habsent⟩ := TokenTable.mem_unresolved_iff.mp hu
      simp [TokenTable.contains, hget] at habsent
  · have hheld := (normalizeName?_eq_some_iff.mp hk).1.normalizeName?
    refine ⟨hheld, fun table value => ?_⟩
    rw [TokenTable.insert, TokenTable.insert, hk, hheld]

theorem names_of_tables_and_references_dashes :
    (∃ table : TokenTable, table.Reachable ∧ ("---".toList, "1px".toList) ∈ table.entries ∧
        references "var(---)".toList = ["---".toList] ∧
        table.resolve "var(---)".toList = "1px".toList) ∧
      (∃ table, TokenTable.drawingDefaults.insert "----a".toList "2px".toList = .ok table ∧
        table.get? "----a".toList = some "2px".toList) ∧
      normalizeName? "-".toList = some "---".toList ∧
        TokenTable.drawingDefaults.insert "-".toList [] =
          TokenTable.drawingDefaults.insert "---".toList [] := by
  obtain ⟨hheld, hreferred, htaken⟩ := names_of_tables_and_references
  refine ⟨?_, ?_, by decide, (htaken "-".toList "---".toList (by decide)).2 _ _⟩
  · obtain ⟨layer, hinsert⟩ : ∃ layer, TokenTable.empty.insert "-".toList "1px".toList = .ok layer :=
      ⟨_, rfl⟩
    have htable := (TokenTable.Reachable.drawingDefaults).extend (.insert .empty hinsert)
    have hmem : ("---".toList, "1px".toList) ∈
        (TokenTable.drawingDefaults.extend layer).entries := by
      obtain rfl := Except.ok.inj hinsert
      decide
    obtain ⟨-, hreferences, hresolve⟩ := (hheld _ htable).2 _ _ hmem
    exact ⟨_, htable, hmem, hreferences, hresolve⟩
  · obtain ⟨table, hinsert, hget, -⟩ := hreferred "a: var(----a);".toList "----a".toList
      (by decide +kernel) .drawingDefaults "2px".toList
    refine ⟨table, hinsert, ?_⟩
    rw [hget, if_pos rfl]

end DrawStyle
