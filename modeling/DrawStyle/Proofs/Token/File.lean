import DrawStyle.Proofs.Json.Members
import DrawStyle.Proofs.Token.Names

/-!
What token files say.

A file is taken exactly if it is written as an object of strings whose names are names of
tokens. Its table is that of the last value of each name as written, inserted in the order of the
bytes of the names; so every way to write a table gives the table back.
-/

namespace DrawStyle

open Json

/-- A member with the name under which a table holds it. -/
def dashedMember (m : Text × Text) : Text × Text := (dashed m.1, m.2)

/-- The members that count: of each name the last one, in the order of the bytes of the names. -/
structure LastMembers (members es : List (Text × Text)) : Prop where
  ascending : es.Pairwise fun e f => e.1.bytes < f.1.bytes
  last : ∀ name value, (name, value) ∈ es ↔ members.reverse.lookup name = some value

section

variable {file rest t : Text} {members es : List (Text × Text)} {table table' : TokenTable}

lemma lastMembers_iff : LastMembers members es ↔ es = Entries.ofMembers members := by
  constructor
  · rintro ⟨hascending, hlast⟩
    refine Entries.Sorted.ext (Entries.sorted_iff_bytes.mpr hascending)
      (Entries.sorted_ofMembers members) fun e => ?_
    rw [hlast, Entries.mem_ofMembers_iff]
  · rintro rfl
    exact ⟨Entries.sorted_iff_bytes.mp (Entries.sorted_ofMembers members),
      fun name value => Entries.mem_ofMembers_iff⟩

/-! ### Inserting members -/

namespace TokenTable

lemma insertAll_eq_ok_iff : table.insertAll members = .ok table' ↔
    (∀ m ∈ members, IsTokenName (dashed m.1)) ∧
      table'.entries = table.entries.putAll (members.map dashedMember) := by
  induction members generalizing table with
  | nil =>
    obtain ⟨entries, hsorted⟩ := table
    obtain ⟨entries', hsorted'⟩ := table'
    simp [insertAll, Entries.putAll, eq_comm]
  | cons m members ih =>
    have hput : table.entries.putAll ((m :: members).map dashedMember) =
        (table.entries.put (dashed m.1) m.2).putAll (members.map dashedMember) := rfl
    rw [insertAll, List.forall_mem_cons, hput]
    constructor
    · intro h
      split at h
      · next step hstep =>
        obtain ⟨hname, hentries⟩ := insert_eq_ok_iff.mp hstep
        obtain ⟨hnames, hrest⟩ := ih.mp h
        exact ⟨⟨hname, hnames⟩, hentries ▸ hrest⟩
      · cases h
    · rintro ⟨⟨hname, hnames⟩, hrest⟩
      have hstep : table.insert m.1 m.2 = .ok ⟨table.entries.put (dashed m.1) m.2,
          table.sorted.put (dashed m.1) m.2⟩ := insert_eq_ok_iff.mpr ⟨hname, rfl⟩
      rw [hstep]
      exact ih.mpr ⟨hnames, hrest⟩

lemma forall_ofMembers_isTokenName :
    (∀ m ∈ Entries.ofMembers members, IsTokenName (dashed m.1)) ↔
      ∀ m ∈ members, IsTokenName (dashed m.1) := by
  rw [← List.forall_mem_map (f := Prod.fst) (P := fun name => IsTokenName (dashed name)),
    ← List.forall_mem_map (f := Prod.fst) (P := fun name => IsTokenName (dashed name))]
  simp only [Entries.name_mem_ofMembers_iff]

lemma ofMembers_eq_ok_iff : ofMembers members = .ok table ↔
    (∀ m ∈ members, IsTokenName (dashed m.1)) ∧
      table.entries = Entries.ofMembers ((Entries.ofMembers members).map dashedMember) := by
  rw [ofMembers, insertAll_eq_ok_iff, forall_ofMembers_isTokenName]
  rfl

/-! ### Files -/

lemma readMemberList_eq_ok_iff : readMemberList file = .ok (members, rest) ↔
    ∃ b s, Blanks b ∧ InnerSpelling s members ∧ file = b ++ '\x7b' :: (s ++ '\x7d' :: rest) := by
  rw [readMemberList]
  constructor
  · intro h
    split at h
    · next hbrace =>
      obtain ⟨b, hb, rfl⟩ := exists_of_skipBlanks hbrace
      obtain ⟨s, hs, rfl⟩ := readObject_eq_ok_iff.mp h
      exact ⟨b, s, hb, hs, rfl⟩
    · cases h
  · rintro ⟨b, s, hb, hs, rfl⟩
    rw [skipBlanks_append hb rfl]
    exact readObject_eq_ok_iff.mpr ⟨s, hs, rfl⟩

/-- **A file is taken where members are written.** -/
theorem parse_eq_ok_iff : parse file = .ok table ↔
    ∃ members, FileSpelling file members ∧ ofMembers members = .ok table := by
  rw [parse]
  constructor
  · intro h
    split at h
    · cases h
    · next members rest hread =>
      obtain ⟨b, s, hb, hs, rfl⟩ := readMemberList_eq_ok_iff.mp hread
      split at h
      · cases h
      · next htable =>
        split at h
        · next hrest =>
          obtain rfl := Except.ok.inj h
          exact ⟨members, .object hb hs (skipBlanks_eq_nil_iff.mp hrest), htable⟩
        · cases h
  · rintro ⟨members, ⟨hb, hs, hb'⟩, htable⟩
    next b b' s =>
    have hread : readMemberList (b ++ '\x7b' :: (s ++ '\x7d' :: b')) = .ok (members, b') :=
      readMemberList_eq_ok_iff.mpr ⟨b, s, hb, hs, rfl⟩
    have hrest := skipBlanks_eq_nil_iff.mpr hb'
    simp only [hread, htable, hrest]

/-- Entries that are inserted in any order, with the dashes or without them, make their table. -/
lemma Named.insertAll_eq_ok (h : table.Named)
    (hperm : (members.map dashedMember).Perm table.entries) :
    empty.insertAll members = .ok table := by
  have hnames : ((members.map dashedMember).map Prod.fst).Nodup :=
    (hperm.map Prod.fst).nodup_iff.mpr table.sorted.nodup_names
  refine insertAll_eq_ok_iff.mpr ⟨fun m hm => ?_, ?_⟩
  · exact h _ (hperm.mem_iff.mp (List.mem_map_of_mem hm))
  · exact (Entries.sorted_ofMembers _).eq_of_perm table.sorted
      ((Entries.perm_ofMembers hnames).trans hperm) |>.symm

/-- **Each list of the entries of a table gives the table**, with the dashes or without them. -/
theorem Named.ofMembers_eq_ok (h : table.Named)
    (hperm : (members.map dashedMember).Perm table.entries) : ofMembers members = .ok table := by
  have hdashed : ((members.map dashedMember).map Prod.fst).Nodup :=
    (hperm.map Prod.fst).nodup_iff.mpr table.sorted.nodup_names
  have hnames : (members.map Prod.fst).Nodup := by
    have hcomp : (members.map dashedMember).map Prod.fst = (members.map Prod.fst).map dashed := by
      simp [dashedMember]
    exact .of_map dashed (hcomp ▸ hdashed)
  exact h.insertAll_eq_ok (((Entries.perm_ofMembers hnames).map dashedMember).trans hperm)

end TokenTable

end

/-- **Which token files are taken, and what they give.** A token file is read exactly if its bytes
are those of an object of strings, however written, whose names are names of tokens; its table is
that of the members that count, inserted in order. Each file in which the entries of a table are
written, in whatever order and manner and with the dashes or without them, gives the table. -/
theorem loadTable_eq_ok_iff_spelled (w : World) (p : Path) :
    (∀ table, (∃ w', (loadTable (m := StateM World) p).run w = (.ok table, w')) ↔
      ∃ file members es, w.tree.read p = .ok (Text.encode file) ∧ FileSpelling file members ∧
        (∀ m ∈ members, IsTokenName (dashed m.1)) ∧ LastMembers members es ∧
          table.entries = Entries.ofMembers (es.map dashedMember)) ∧
    ∀ table : TokenTable, table.Reachable → ∀ file members, FileSpelling file members →
      (members.map dashedMember).Perm table.entries → w.tree.read p = .ok (Text.encode file) →
        ∃ w', (loadTable (m := StateM World) p).run w = (.ok table, w') := by
  constructor
  · intro table
    simp only [loadTable_eq_ok_iff, TokenTable.parse_eq_ok_iff, TokenTable.ofMembers_eq_ok_iff,
      lastMembers_iff]
    constructor
    · rintro ⟨file, hread, members, hspell, hnames, hentries⟩
      exact ⟨file, members, _, hread, hspell, hnames, rfl, hentries⟩
    · rintro ⟨file, members, es, hread, hspell, hnames, rfl, hentries⟩
      exact ⟨file, hread, members, hspell, hnames, hentries⟩
  · intro table htable file members hspell hperm hread
    rw [loadTable_eq_ok_iff]
    refine ⟨file, hread, TokenTable.parse_eq_ok_iff.mpr ⟨members, hspell, ?_⟩⟩
    exact htable.named.ofMembers_eq_ok hperm

/-- A directory with one token file. -/
def tokenWorld (file : Text) : World where
  tree := { nodes := [(["t.json".toList], .file (Text.encode file) 0o644)], home := [] }
  log := []

theorem loadTable_eq_ok_iff_spelled_escapes :
    ∃ table w', TokenTable.empty.insert "--a".toList ['😀'] = .ok table ∧
      (loadTable (m := StateM World) "t.json".toList).run
        (tokenWorld " \x7b\"\\u0061\":\t\"\\ud83D\\uDe00\"\x7d\n".toList) = (.ok table, w') := by
  obtain ⟨table, hinsert⟩ : ∃ table, TokenTable.empty.insert "--a".toList ['😀'] = .ok table :=
    ⟨_, rfl⟩
  have hletter : HexSpelling ['0', '0', '6', '1'] 'a'.toNat :=
    .digits (i := 0) (j := 0) (k := 6) (l := 1) rfl rfl rfl rfl
  have hleading : HexSpelling ['d', '8', '3', 'D'] 0xD83D :=
    .digits (i := 13) (j := 8) (k := 3) (l := 13) rfl rfl rfl rfl
  have htrailing : HexSpelling ['D', 'e', '0', '0'] 0xDE00 :=
    .digits (i := 13) (j := 14) (k := 0) (l := 0) rfl rfl rfl rfl
  have hface : CharSpelling _ '😀' :=
    .pair hleading htrailing (by decide) (by decide) (by decide) (by decide) rfl
  have hblank : ∀ c, isJsonBlank c = true → Blanks [c] := by
    intro c hc
    simpa [Blanks] using hc
  have hnone : Blanks [] := by simp [Blanks]
  have hspell : FileSpelling " \x7b\"\\u0061\":\t\"\\ud83D\\uDe00\"\x7d\n".toList
      [(['a'], ['😀'])] :=
    .object (hblank ' ' rfl)
      (.members (.last hnone
        (.colon (.cons (.unit hletter) .nil) hnone (hblank '\t' rfl) (.cons hface .nil)) hnone))
      (hblank '\n' rfl)
  obtain ⟨w', hrun⟩ := (loadTable_eq_ok_iff_spelled (tokenWorld _) "t.json".toList).2 table
    (.insert .empty hinsert) _ _ hspell
    (by obtain rfl := Except.ok.inj hinsert; exact List.Perm.refl _) rfl
  exact ⟨table, w', hinsert, hrun⟩

end DrawStyle
