import DrawStyle.Proofs.Token.File
import Mathlib.Data.Set.Card

/-!
What tables hold after operations.

A token is inserted, a table is layered over another one, or the table of a token file is. Names
come in any spelling, and an operation that fails leaves the table as it is. So each name has the
value that was written last under a name that is held as it.
-/

namespace DrawStyle

/-- Something that is done to a table. -/
inductive TableOp where
  | insert (name value : Text)
  | extend (layer : TokenTable) (made : layer.Reachable)
  /-- A token file is read, and its table is layered over the one at hand. -/
  | load (w : World) (p : Path)

/-- What an operation writes if it does not fail: tokens one after the other, by the names that
are given for them. -/
inductive TableOp.Writes : TableOp → List (Text × Text) → Prop
  | insert {name value : Text} : IsTokenName (dashed name) →
      Writes (.insert name value) [(name, value)]
  | extend {layer : TokenTable} (made : layer.Reachable) : Writes (.extend layer made) layer.entries
  | load {w : World} {p : Path} {file : Text} {members es : List (Text × Text)} :
      w.tree.read p = .ok (Text.encode file) → Json.FileSpelling file members →
      (∀ m ∈ members, IsTokenName (dashed m.1)) → LastMembers members es → Writes (.load w p) es

/-- The value of the last member whose name is held as `k`. -/
def lastNamed (members : List (Text × Text)) (k : Text) : Option Text :=
  members.reverse.findSome? fun m => if normalizeName? m.1 = some k then some m.2 else none

/-- An operation fails or writes no name that is held as `k`. -/
def TableOp.Spares (op : TableOp) (k : Text) : Prop :=
  ∀ es, op.Writes es → ∀ m ∈ es, normalizeName? m.1 ≠ some k

namespace TokenTable

/-- A table after an operation that does not fail. -/
def step? (table : TokenTable) : TableOp → Option TokenTable
  | .insert name value =>
    match table.insert name value with
    | .ok table => some table
    | .error _ => none
  | .extend layer _ => some (table.extend layer)
  | .load w p =>
    match ((loadTable (m := StateM World) p).run w).1 with
    | .ok layer => some (table.extend layer)
    | .error _ => none

/-- A table after operations. One that fails leaves the table as it is. -/
def runOps (table : TokenTable) (ops : List TableOp) : TokenTable :=
  ops.foldl (fun table op => (table.step? op).getD table) table

/-- Those of some operations that do not fail, as they are done one after the other. -/
def succeeding (table : TokenTable) : List TableOp → List TableOp
  | [] => []
  | op :: ops =>
    match table.step? op with
    | some table => op :: table.succeeding ops
    | none => table.succeeding ops

/-- The value of a name is the one that is written last, or the one at the start if the name is
never written. -/
def LastValue (start : TokenTable) (ops : List TableOp) (k value : Text) : Prop :=
  (∃ before op after es, ops = before ++ op :: after ∧ op.Writes es ∧
    lastNamed es k = some value ∧ ∀ later ∈ after, later.Spares k) ∨
  (∀ op ∈ ops, op.Spares k) ∧ start.get? k = some value

/-- A table holds the given values, each once and in the order of the bytes of the names. -/
structure Shows (table : TokenTable) (holds : Text → Text → Prop) : Prop where
  get : ∀ k value, table.get? k = some value ↔ holds k value
  contains : ∀ k, table.contains k = true ↔ ∃ value, holds k value
  entries : ∀ k value, (k, value) ∈ table.entries ↔ holds k value
  ascending : table.entries.Pairwise fun e f => e.1.bytes < f.1.bytes
  size : table.size = {k | ∃ value, holds k value}.ncard

end TokenTable

/-- The value that an operation gives to a name, if it writes the name. -/
def TableOp.value? (op : TableOp) (k : Text) : Option Text :=
  (TokenTable.empty.step? op).bind fun table => table.get? k

namespace TokenTable

section

variable {start table table' layer : TokenTable} {op : TableOp} {ops : List TableOp}
  {members es : List (Text × Text)} {k name value : Text}

/-! ### Inserting members -/

lemma get?_empty (k : Text) : empty.get? k = none := rfl

lemma lastNamed_eq_lookup (h : ∀ m ∈ members, IsTokenName (dashed m.1)) :
    lastNamed members k = (members.map dashedMember).reverse.lookup k := by
  rw [lastNamed, ← List.map_reverse]
  replace h : ∀ m ∈ members.reverse, IsTokenName (dashed m.1) :=
    fun m hm => h m (List.mem_reverse.mp hm)
  generalize members.reverse = ms at h ⊢
  induction ms with
  | nil => rfl
  | cons m ms ih =>
    obtain ⟨hm, hms⟩ := List.forall_mem_cons.mp h
    rw [List.findSome?_cons, List.map_cons, dashedMember, List.lookup_cons, ih hms,
      normalizeName?_dashed hm]
    by_cases hk : k = dashed m.1
    · simp [hk]
    · simp [Ne.symm hk, beq_eq_false_iff_ne.mpr hk]

lemma lastNamed_eq_none_iff :
    lastNamed members k = none ↔ ∀ m ∈ members, normalizeName? m.1 ≠ some k := by
  simp [lastNamed]

lemma get?_of_insertAll (h : table.insertAll members = .ok table') :
    table'.get? k = (lastNamed members k).or (table.get? k) := by
  obtain ⟨hnames, hentries⟩ := insertAll_eq_ok_iff.mp h
  rw [get?, hentries, Entries.get?_putAll_members, lastNamed_eq_lookup hnames, get?]

lemma exists_insertAll (h : ∀ m ∈ members, IsTokenName (dashed m.1)) (table : TokenTable) :
    ∃ table', table.insertAll members = .ok table' :=
  ⟨⟨_, table.sorted.putAll (members.map dashedMember)⟩, insertAll_eq_ok_iff.mpr ⟨h, rfl⟩⟩

lemma insertAll_singleton : table.insertAll [(name, value)] = table.insert name value := by
  rw [insertAll]
  rcases table.insert name value with e | table'
  · rfl
  · rfl

/-- **To layer a table is to insert its tokens**, as they were inserted into it. -/
theorem insertAll_eq_extend (h : empty.insertAll members = .ok layer) (table : TokenTable) :
    table.insertAll members = .ok (table.extend layer) := by
  obtain ⟨table', hinsert⟩ := exists_insertAll (insertAll_eq_ok_iff.mp h).1 table
  have hextend : table' = table.extend layer := ext_get? fun k => by
    rw [get?_of_insertAll hinsert, get?_extend, get?_of_insertAll h, get?_empty, Option.or_none]
  rw [hinsert, hextend]

lemma Named.insertAll_perm (h : layer.Named) (hperm : members.Perm layer.entries) :
    empty.insertAll members = .ok layer := by
  have hdashed : layer.entries.map dashedMember = layer.entries := by
    refine (List.map_congr_left fun m hm => ?_).trans (List.map_id _)
    exact Prod.ext (h m hm).dashed_eq rfl
  have hmembers := hperm.map dashedMember
  rw [hdashed] at hmembers
  exact h.insertAll_eq_ok hmembers

/-! ### One operation -/

lemma loadTable_iff_writes {w : World} {p : Path} :
    ((loadTable (m := StateM World) p).run w).1 = .ok layer ↔
      ∃ es, (TableOp.load w p).Writes es ∧ empty.insertAll es = .ok layer := by
  simp only [fst_run_loadTable_eq_ok_iff, parse_eq_ok_iff]
  constructor
  · rintro ⟨file, hread, members, hspell, hmembers⟩
    obtain ⟨hnames, -⟩ := ofMembers_eq_ok_iff.mp hmembers
    exact ⟨_, .load hread hspell hnames (lastMembers_iff.mpr rfl), hmembers⟩
  · rintro ⟨es, hwrites, hlayer⟩
    cases hwrites with
    | load hread hspell hnames hlast =>
      obtain rfl := lastMembers_iff.mp hlast
      exact ⟨_, hread, _, hspell, hlayer⟩

lemma isTokenName_of_writes (h : op.Writes es) : ∀ m ∈ es, IsTokenName (dashed m.1) := by
  cases h with
  | insert hname => simpa using hname
  | @extend layer made =>
    intro m hm
    have hname := made.named m hm
    rwa [hname.dashed_eq]
  | load hread hspell hnames hlast =>
    obtain rfl := lastMembers_iff.mp hlast
    exact forall_ofMembers_isTokenName.mpr hnames

/-- **An operation inserts what it writes.** If it writes nothing, it fails. -/
theorem step?_eq_some_iff : table.step? op = some table' ↔
    ∃ es, op.Writes es ∧ table.insertAll es = .ok table' := by
  cases op with
  | insert name value =>
    rw [step?]
    constructor
    · intro h
      split at h
      · next hinsert =>
        obtain rfl := Option.some.inj h
        exact ⟨_, .insert (insert_eq_ok_iff.mp hinsert).1, insertAll_singleton.trans hinsert⟩
      · cases h
    · rintro ⟨es, ⟨-⟩, hinsert⟩
      rw [insertAll_singleton] at hinsert
      simp only [hinsert]
  | extend layer made =>
    have hinsert := insertAll_eq_extend (made.named.insertAll_perm (.refl _)) table
    constructor
    · intro h
      obtain rfl := Option.some.inj h
      exact ⟨_, .extend made, hinsert⟩
    · rintro ⟨es, ⟨-⟩, h⟩
      rw [hinsert] at h
      exact congrArg some (Except.ok.inj h)
  | load w p =>
    rw [step?]
    constructor
    · intro h
      split at h
      · next layer hload =>
        obtain rfl := Option.some.inj h
        obtain ⟨es, hwrites, hlayer⟩ := loadTable_iff_writes.mp hload
        exact ⟨es, hwrites, insertAll_eq_extend hlayer table⟩
      · cases h
    · rintro ⟨es, hwrites, h⟩
      obtain ⟨layer, hlayer⟩ := exists_insertAll (isTokenName_of_writes hwrites) empty
      rw [insertAll_eq_extend hlayer] at h
      simp only [loadTable_iff_writes.mpr ⟨es, hwrites, hlayer⟩]
      exact congrArg some (Except.ok.inj h)

lemma exists_step?_of_writes (h : op.Writes es) (table : TokenTable) :
    ∃ table', table.step? op = some table' ∧ table.insertAll es = .ok table' := by
  obtain ⟨table', hinsert⟩ := exists_insertAll (isTokenName_of_writes h) table
  exact ⟨table', step?_eq_some_iff.mpr ⟨es, h, hinsert⟩, hinsert⟩

lemma step?_eq_none_iff : table.step? op = none ↔ ∀ es, ¬ op.Writes es := by
  constructor
  · intro h es hwrites
    obtain ⟨table', hstep, -⟩ := exists_step?_of_writes hwrites table
    rw [h] at hstep
    cases hstep
  · intro h
    rcases hstep : table.step? op with _ | table'
    · rfl
    · obtain ⟨es, hwrites, -⟩ := step?_eq_some_iff.mp hstep
      exact absurd hwrites (h es)

lemma value?_eq_of_writes (h : op.Writes es) : op.value? k = lastNamed es k := by
  obtain ⟨table, hstep, hinsert⟩ := exists_step?_of_writes h empty
  rw [TableOp.value?, hstep, Option.bind_some, get?_of_insertAll hinsert, get?_empty,
    Option.or_none]

lemma value?_eq_some_iff :
    op.value? k = some value ↔ ∃ es, op.Writes es ∧ lastNamed es k = some value := by
  constructor
  · intro h
    obtain ⟨table, hstep, -⟩ := Option.bind_eq_some_iff.mp h
    obtain ⟨es, hwrites, -⟩ := step?_eq_some_iff.mp hstep
    exact ⟨es, hwrites, value?_eq_of_writes hwrites ▸ h⟩
  · rintro ⟨es, hwrites, hlast⟩
    rw [value?_eq_of_writes hwrites, hlast]

lemma value?_eq_none_iff : op.value? k = none ↔ op.Spares k := by
  rw [← Option.not_isSome_iff_eq_none, Option.isSome_iff_exists]
  simp only [value?_eq_some_iff, TableOp.Spares, ← lastNamed_eq_none_iff]
  constructor
  · intro h es hwrites
    by_contra hsome
    obtain ⟨value, hvalue⟩ := Option.ne_none_iff_exists'.mp hsome
    exact h ⟨value, es, hwrites, hvalue⟩
  · rintro h ⟨value, es, hwrites, hvalue⟩
    rw [h es hwrites] at hvalue
    cases hvalue

/-! ### All operations -/

/-- One operation: the value that it gives counts before the one that the table holds. -/
lemma get?_step? (table : TokenTable) (op : TableOp) (k : Text) :
    ((table.step? op).getD table).get? k = (op.value? k).or (table.get? k) := by
  rcases hstep : table.step? op with _ | table'
  · have hspares : op.Spares k := fun es hwrites =>
      absurd hwrites (step?_eq_none_iff.mp hstep es)
    rw [value?_eq_none_iff.mpr hspares]
    rfl
  · obtain ⟨es, hwrites, hinsert⟩ := step?_eq_some_iff.mp hstep
    rw [value?_eq_of_writes hwrites]
    exact get?_of_insertAll hinsert

lemma runOps_cons (table : TokenTable) (op : TableOp) (ops : List TableOp) :
    table.runOps (op :: ops) = ((table.step? op).getD table).runOps ops := rfl

lemma runOps_concat (h : (start.runOps ops).step? op = some table) :
    start.runOps (ops ++ [op]) = table := by
  rw [runOps, List.foldl_append, List.foldl_cons, List.foldl_nil, ← runOps, h, Option.getD_some]

theorem get?_runOps (start : TokenTable) (ops : List TableOp) (k : Text) :
    (start.runOps ops).get? k =
      (ops.reverse.findSome? fun op => op.value? k).or (start.get? k) := by
  induction ops generalizing start with
  | nil => rfl
  | cons op ops ih =>
    rw [runOps_cons, ih, get?_step?, List.reverse_cons, List.findSome?_append, Option.or_assoc]
    simp

lemma get?_runOps_eq_some_iff :
    (start.runOps ops).get? k = some value ↔ start.LastValue ops k value := by
  rw [get?_runOps, Option.or_eq_some_iff, LastValue]
  refine or_congr ?_ (and_congr_left fun _ => ?_)
  · rw [List.findSome?_eq_some_iff]
    simp only [value?_eq_some_iff, value?_eq_none_iff]
    constructor
    · rintro ⟨after, op, before, hops, ⟨es, hwrites, hlast⟩, hafter⟩
      refine ⟨before.reverse, op, after.reverse, es, ?_, hwrites, hlast, fun later hlater => ?_⟩
      · simpa using congrArg List.reverse hops
      · exact hafter later (List.mem_reverse.mp hlater)
    · rintro ⟨before, op, after, es, rfl, hwrites, hlast, hafter⟩
      refine ⟨after.reverse, op, before.reverse, by simp, ⟨es, hwrites, hlast⟩, ?_⟩
      exact fun later hlater => hafter later (List.mem_reverse.mp hlater)
  · simp [value?_eq_none_iff]

theorem runOps_succeeding (start : TokenTable) (ops : List TableOp) :
    start.runOps (start.succeeding ops) = start.runOps ops := by
  induction ops generalizing start with
  | nil => rfl
  | cons op ops ih =>
    rw [runOps_cons, succeeding]
    rcases hstep : start.step? op with _ | table'
    · exact ih start
    · dsimp only
      rw [runOps_cons, hstep]
      exact ih table'

/-! ### What a table holds -/

lemma shows_of_get {holds : Text → Text → Prop}
    (h : ∀ k value, table.get? k = some value ↔ holds k value) : table.Shows holds where
  get := h
  contains k := by simp only [contains, Option.isSome_iff_exists, h]
  entries k value := by rw [← get?_eq_some_iff, h]
  ascending := Entries.sorted_iff_bytes.mp table.sorted
  size := by
    have hnames : {k | ∃ value, holds k value} = ((table.entries.map Prod.fst).toFinset : Set Text) := by
      ext k
      simp [← h, get?_eq_some_iff]
    rw [hnames, Set.ncard_coe_finset, List.toFinset_card_of_nodup table.sorted.nodup_names,
      List.length_map, TokenTable.size]

/-! ### Layers -/

lemma extend_assoc (a b c : TokenTable) : (a.extend b).extend c = a.extend (b.extend c) :=
  ext_get? fun k => by simp only [get?_extend, Option.or_assoc]

lemma extend_empty (a : TokenTable) : a.extend empty = a := rfl

lemma empty_extend (a : TokenTable) : empty.extend a = a :=
  ext_get? fun k => by rw [get?_extend, get?_empty, Option.or_none]

lemma extend_self (a : TokenTable) : a.extend a = a :=
  ext_get? fun k => by rw [get?_extend, Option.or_self]

/-! ### All tables -/

lemma Reachable.insertAll (h : table.Reachable) (hinsert : table.insertAll members = .ok table') :
    table'.Reachable := by
  induction members generalizing table with
  | nil =>
    obtain rfl := Except.ok.inj hinsert
    exact h
  | cons m members ih =>
    rw [TokenTable.insertAll] at hinsert
    split at hinsert
    · next hstep => exact ih (h.insert hstep) hinsert
    · cases hinsert

lemma Reachable.runOps (h : start.Reachable) (ops : List TableOp) :
    (start.runOps ops).Reachable := by
  induction ops generalizing start with
  | nil => exact h
  | cons op ops ih =>
    rw [runOps_cons]
    rcases hstep : start.step? op with _ | table
    · exact ih h
    · obtain ⟨es, -, hinsert⟩ := step?_eq_some_iff.mp hstep
      exact ih (h.insertAll hinsert)

/-- **The tables that can be made are those that operations make** of the table without tokens and
of the defaults. -/
theorem reachable_iff_exists_runOps : table.Reachable ↔
    ∃ start ∈ [empty, drawingDefaults], ∃ ops, start.runOps ops = table := by
  constructor
  · intro h
    induction h with
    | empty => exact ⟨empty, by simp, [], rfl⟩
    | drawingDefaults => exact ⟨drawingDefaults, by simp, [], rfl⟩
    | @insert table table' name value _ hinsert ih =>
      obtain ⟨start, hstart, ops, rfl⟩ := ih
      exact ⟨start, hstart, ops ++ [.insert name value], runOps_concat (by simp only [step?, hinsert])⟩
    | @extend table layer _ hlayer ih _ =>
      obtain ⟨start, hstart, ops, rfl⟩ := ih
      exact ⟨start, hstart, ops ++ [.extend layer hlayer], runOps_concat rfl⟩
    | @load table p w w' hload =>
      refine ⟨empty, by simp, [] ++ [.load w p], runOps_concat ?_⟩
      simp only [TokenTable.runOps, List.foldl_nil, step?, hload, empty_extend]
  · rintro ⟨start, hstart, ops, rfl⟩
    have hmade : start.Reachable := by
      rcases List.mem_pair.mp hstart with rfl | rfl
      · exact .empty
      · exact .drawingDefaults
    exact hmade.runOps ops

end

end TokenTable

/-- **The last operation wins.** Tokens are inserted, tables layered and token files loaded, in any
order and with names in any spelling, and some of that may fail. Then each name has the value of
the last operation that did not fail and wrote the name in some spelling, or the one that it had at
the start if none did; no other names are held, and the names ascend by their bytes. The tables
that can be layered are those that such operations make. What fails does so on each table, and the
table is the same without it. So it does not matter how layers are put together, a table without
tokens adds nothing and neither does a table that was layered before, and to layer a table is to
insert its entries in any order. -/
theorem last_operation_wins (start : TokenTable) (ops : List TableOp) :
    (start.runOps ops).Shows (start.LastValue ops) ∧
      start.runOps (start.succeeding ops) = start.runOps ops ∧
      (∀ (table : TokenTable) (op : TableOp), table.step? op = none ↔ ∀ es, ¬ op.Writes es) ∧
      (∀ table : TokenTable, table.Reachable ↔
        ∃ first ∈ [TokenTable.empty, .drawingDefaults], ∃ ops, first.runOps ops = table) ∧
      (∀ a b c : TokenTable, (a.extend b).extend c = a.extend (b.extend c) ∧
        a.extend .empty = a ∧ TokenTable.empty.extend a = a ∧ a.extend a = a) ∧
      ∀ (table layer : TokenTable) (members : List (Text × Text)), layer.Reachable →
        members.Perm layer.entries → table.insertAll members = .ok (table.extend layer) :=
  ⟨TokenTable.shows_of_get fun _ _ => TokenTable.get?_runOps_eq_some_iff,
    TokenTable.runOps_succeeding start ops, fun _ _ => TokenTable.step?_eq_none_iff,
    fun _ => TokenTable.reachable_iff_exists_runOps,
    fun a b c => ⟨a.extend_assoc b c, a.extend_empty, a.empty_extend, a.extend_self⟩,
    fun table _ _ hlayer hperm =>
      TokenTable.insertAll_eq_extend (hlayer.named.insertAll_perm hperm) table⟩

/-- A table of two tokens. -/
def smallLayer : TokenTable :=
  ⟨.ofMembers [("--a".toList, "6px".toList), ("--t1".toList, "5px".toList)],
    Entries.sorted_ofMembers _⟩

lemma reachable_smallLayer : smallLayer.Reachable := by
  have hinsert : TokenTable.empty.insertAll
      [("t1".toList, "5px".toList), ("--a".toList, "6px".toList)] = .ok smallLayer := rfl
  exact TokenTable.Reachable.empty.insertAll hinsert

/-- Operations with names in several spellings, of which the third and the fifth fail. -/
def mixedOps : List TableOp :=
  let w := tokenWorld "\x7b\"-t1\":\"4px\"\x7d".toList
  [.insert "---t1".toList "1px".toList, .insert "t1".toList "2px".toList,
    .insert "t 1".toList "3px".toList, .load w "t.json".toList, .load w "u.json".toList,
    .extend smallLayer reachable_smallLayer]

theorem last_operation_wins_spellings :
    TokenTable.drawingDefaults.LastValue mixedOps "--t1".toList "5px".toList ∧
      TokenTable.drawingDefaults.LastValue mixedOps "---t1".toList "4px".toList ∧
      (TokenTable.drawingDefaults.runOps mixedOps).size = 23 ∧
      (TokenTable.drawingDefaults.succeeding mixedOps).length = 4 ∧
      TokenTable.drawingDefaults.runOps (TokenTable.drawingDefaults.succeeding mixedOps) =
        TokenTable.drawingDefaults.runOps mixedOps ∧
      TokenTable.drawingDefaults.insertAll
          [("--t1".toList, "5px".toList), ("--a".toList, "6px".toList)] =
        .ok (TokenTable.drawingDefaults.extend smallLayer) := by
  obtain ⟨hshows, hkept, -, -, -, hinsert⟩ := last_operation_wins .drawingDefaults mixedOps
  refine ⟨(hshows.get _ _).mp (by decide +kernel), (hshows.get _ _).mp (by decide +kernel),
    by decide +kernel, by decide +kernel, hkept, ?_⟩
  exact hinsert _ smallLayer _ reachable_smallLayer (List.Perm.swap _ _ _)

end DrawStyle
