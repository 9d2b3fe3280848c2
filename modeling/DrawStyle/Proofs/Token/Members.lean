import DrawStyle.Proofs.Token.File

/-!
What the members of a token file mean.

A token may be written with its dashes or without them. What counts are the last values of the
two spellings, and which spelling comes before the other; the order of the members, and how the
file is laid out, are no matter.
-/

namespace DrawStyle

open Json

/-- The names as which the token `--bare` can be written, the one that counts first. The bare name
is sorted behind the one with the dashes, but for a single dash. Without the dashes, no name
begins with two of them. -/
def writtenNames (bare : Text) : List Text :=
  if bare = ['-'] then ['-' :: '-' :: bare, bare]
  else if ['-', '-'] <+: bare then ['-' :: '-' :: bare]
  else [bare, '-' :: '-' :: bare]

/-- The first invalid name of some members, in the order of the bytes. -/
structure LeastInvalid (members : List (Text × Text)) (name : Text) : Prop where
  mem : name ∈ members.map Prod.fst
  invalid : ¬ IsTokenName (dashed name)
  least : ∀ m ∈ members, ¬ IsTokenName (dashed m.1) → name.bytes ≤ m.1.bytes

/-- The members in another order, but those with equal names as before. -/
structure Reordered (members members' : List (Text × Text)) : Prop where
  perm : members.Perm members'
  order : ∀ name, (members.filter fun m => m.1 == name) = members'.filter fun m => m.1 == name

section

variable {bare raw name : Text} {c : Char} {members members' : List (Text × Text)}
  {table : TokenTable} {e : InvalidName} {file b s rest : Text}

/-! ### The order of the spellings -/

lemma dash_lt_of_inTokenName (h : inTokenName c = true) (hc : c ≠ '-') : '-' < c := by
  have hne : c.toNat ≠ 0x2D := fun he => hc (Char.toNat_inj.mp he)
  have hsel : Rule.inSelector c = true := by
    rw [inTokenName, Bool.or_eq_true] at h
    rcases h with h | h
    · simp [Rule.inSelector, h]
    · simp [Rule.inSelector, h]
  have hle := (toNat_of_inSelector hsel).1
  rw [Char.lt_def, UInt32.lt_iff_toNat_lt]
  exact Nat.lt_of_le_of_ne hle hne.symm

lemma mem_writtenNames : raw ∈ writtenNames bare ↔
    raw = '-' :: '-' :: bare ∨ raw = bare ∧ ¬ ['-', '-'] <+: bare := by
  rw [writtenNames]
  split
  · next hdash =>
    subst hdash
    simp
  · split
    · next hdashes => simp [hdashes]
    · next hdashes => simp [hdashes, or_comm]

lemma isTokenName_dashed_iff : IsTokenName (dashed name) ↔ (normalizeName? name).isSome = true := by
  rw [Option.isSome_iff_exists]
  constructor
  · exact fun h => ⟨_, normalizeName?_dashed h⟩
  · rintro ⟨k, hk⟩
    obtain ⟨htoken, rfl⟩ := normalizeName?_eq_some_iff.mp hk
    exact htoken

lemma bareName_of_no_dashes (h : ¬ ['-', '-'] <+: name) : bareName name = name := by
  rw [bareName]
  · rintro bare rfl
    exact h ⟨bare, rfl⟩

/-- The names as which a token can be written are those that are held as its name. -/
lemma mem_writtenNames_iff : raw ∈ writtenNames bare ↔ dashed raw = '-' :: '-' :: bare := by
  have hbare : dashed raw = '-' :: '-' :: bare ↔ bareName raw = bare := by simp [dashed]
  rw [hbare, mem_writtenNames]
  by_cases hraw : ['-', '-'] <+: raw
  · obtain ⟨u, rfl⟩ := hraw
    have hu : bareName (['-', '-'] ++ u) = u := rfl
    rw [hu]
    constructor
    · rintro (he | ⟨rfl, hnot⟩)
      · simpa using he
      · exact absurd (List.prefix_append _ u) hnot
    · rintro rfl
      exact Or.inl rfl
  · rw [bareName_of_no_dashes hraw]
    constructor
    · rintro (rfl | ⟨rfl, -⟩)
      · exact absurd ⟨bare, rfl⟩ hraw
      · rfl
    · rintro rfl
      exact Or.inr ⟨rfl, hraw⟩

lemma pairwise_writtenNames (h : IsTokenName ('-' :: '-' :: bare)) :
    (writtenNames bare).Pairwise fun name name' => name' < name := by
  obtain ⟨bare', hne, hall, he⟩ := h
  obtain rfl : bare = bare' := by simpa using he
  have hdash : ∀ c ∈ bare, c ≠ '-' → '-' < c := fun c hc =>
    dash_lt_of_inTokenName (inTokenName_iff.mpr (hall c hc))
  rw [writtenNames]
  split
  · next heq =>
    rw [heq]
    decide
  · next hsingle =>
    split
    · exact List.pairwise_singleton _ _
    · next hdashes =>
      refine List.pairwise_pair.mpr ?_
      -- the first character that is no dash decides, and there is one among the first two
      rcases bare with _ | ⟨c, bare⟩
      · exact absurd rfl hne
      · by_cases hc : c = '-'
        · subst hc
          rcases bare with _ | ⟨d, bare⟩
          · exact absurd rfl hsingle
          · have hd : d ≠ '-' := by
              rintro rfl
              exact hdashes ⟨bare, rfl⟩
            exact List.cons_lt_cons_iff.mpr
              (Or.inr ⟨rfl, List.cons_lt_cons_iff.mpr (Or.inl (hdash d (by simp) hd))⟩)
        · exact List.cons_lt_cons_iff.mpr (Or.inl (hdash c (by simp) hc))

/-! ### What the members give -/

lemma Reordered.ofMembers_eq (h : Reordered members members') :
    Entries.ofMembers members = Entries.ofMembers members' := by
  have hlookup : ∀ (ms : List (Text × Text)) (name : Text),
      ms.reverse.lookup name = (ms.filter fun m => m.1 == name).reverse.lookup name := by
    intro ms name
    rw [← List.filter_reverse, Entries.lookup_filter_name]
  refine (Entries.sorted_ofMembers _).ext (Entries.sorted_ofMembers _) fun e => ?_
  rw [Entries.mem_ofMembers_iff, Entries.mem_ofMembers_iff, hlookup members, hlookup members',
    h.order]

namespace TokenTable

lemma Named.of_ofMembers (h : ofMembers members = .ok table) : table.Named :=
  named_empty.insertAll h

/-- **What a table of members holds** under the name of a token is the last value of the spelling
that counts. -/
theorem get?_ofMembers (h : ofMembers members = .ok table) (bare : Text) :
    table.get? ('-' :: '-' :: bare) =
      (writtenNames bare).findSome? fun raw => members.reverse.lookup raw := by
  obtain ⟨hnames, hentries⟩ := ofMembers_eq_ok_iff.mp h
  simp only [← Entries.get?_ofMembers]
  by_cases hbare : IsTokenName ('-' :: '-' :: bare)
  · rw [get?, hentries, Entries.get?_ofMembers]
    exact (Entries.sorted_ofMembers members).lookup_reverse_map (pairwise_writtenNames hbare)
      fun raw => mem_writtenNames_iff
  · -- neither the table nor the members know the name
    have htable : table.get? ('-' :: '-' :: bare) = none := by
      refine Option.eq_none_iff_forall_ne_some.mpr fun value hvalue => hbare ?_
      exact (Named.of_ofMembers h) _ (get?_eq_some_iff.mp hvalue)
    have hmembers : ∀ raw ∈ writtenNames bare, (Entries.ofMembers members).get? raw = none := by
      intro raw hraw
      refine Option.eq_none_iff_forall_ne_some.mpr fun value hvalue => hbare ?_
      have hmem : raw ∈ members.map Prod.fst :=
        Entries.name_mem_ofMembers_iff.mp (List.mem_map_of_mem (Entries.mem_of_get? hvalue))
      obtain ⟨m, hm, rfl⟩ := List.mem_map.mp hmem
      exact mem_writtenNames_iff.mp hraw ▸ hnames m hm
    rw [htable, List.findSome?_eq_none_iff.mpr hmembers]

/-- **The names that a table of members holds** are those that the members spell. -/
theorem contains_ofMembers_iff (h : ofMembers members = .ok table) :
    table.contains name = true ↔ ∃ bare, name = '-' :: '-' :: bare ∧
      (bare ∈ members.map Prod.fst ∧ ¬ ['-', '-'] <+: bare ∨
        '-' :: '-' :: bare ∈ members.map Prod.fst) := by
  have hspelled : ∀ bare, table.contains ('-' :: '-' :: bare) = true ↔
      ∃ raw ∈ writtenNames bare, raw ∈ members.map Prod.fst := by
    intro bare
    rw [contains, get?_ofMembers h, List.findSome?_isSome_iff]
    simp [List.lookup_isSome_iff]
  constructor
  · intro hname
    obtain ⟨value, hvalue⟩ := Option.isSome_iff_exists.mp hname
    obtain ⟨bare, -, -, rfl⟩ := (Named.of_ofMembers h) _ (get?_eq_some_iff.mp hvalue)
    obtain ⟨raw, hraw, hmem⟩ := (hspelled bare).mp hname
    rcases mem_writtenNames.mp hraw with rfl | ⟨rfl, hnot⟩
    · exact ⟨bare, rfl, Or.inr hmem⟩
    · exact ⟨raw, rfl, Or.inl ⟨hmem, hnot⟩⟩
  · rintro ⟨bare, rfl, hmem⟩
    rw [hspelled]
    rcases hmem with ⟨hmem, hnot⟩ | hmem
    · exact ⟨bare, mem_writtenNames.mpr (Or.inr ⟨rfl, hnot⟩), hmem⟩
    · exact ⟨_, mem_writtenNames.mpr (Or.inl rfl), hmem⟩

/-! ### Invalid names -/

/-- Inserting stops at the first member whose name is invalid. -/
lemma exists_insertAll_eq_error (table : TokenTable)
    (h : ∃ m ∈ members, ¬ IsTokenName (dashed m.1)) :
    ∃ front m back, members = front ++ m :: back ∧ (∀ f ∈ front, IsTokenName (dashed f.1)) ∧
      ¬ IsTokenName (dashed m.1) ∧ table.insertAll members = .error ⟨m.1⟩ := by
  induction members generalizing table with
  | nil =>
    obtain ⟨m, hm, -⟩ := h
    cases hm
  | cons m members ih =>
    rw [insertAll]
    by_cases hname : IsTokenName (dashed m.1)
    · have hrest : ∃ m ∈ members, ¬ IsTokenName (dashed m.1) := by
        obtain ⟨m', hm', hinvalid⟩ := h
        rcases List.mem_cons.mp hm' with rfl | hm'
        · exact absurd hname hinvalid
        · exact ⟨m', hm', hinvalid⟩
      rw [insert, normalizeName?_dashed hname]
      obtain ⟨front, m', back, rfl, hfront, hinvalid, herror⟩ := ih _ hrest
      exact ⟨m :: front, m', back, rfl, List.forall_mem_cons.mpr ⟨hname, hfront⟩, hinvalid, herror⟩
    · have hnone : normalizeName? m.1 = none := by
        rwa [isTokenName_dashed_iff, Bool.not_eq_true, Option.isSome_eq_false_iff,
          Option.isNone_iff_eq_none] at hname
      rw [insert, hnone]
      exact ⟨[], m, members, rfl, by simp, hname, rfl⟩

/-- **The least invalid name** is the one that is reported. -/
theorem exists_ofMembers_eq_error (h : ∃ m ∈ members, ¬ IsTokenName (dashed m.1)) :
    ∃ name, LeastInvalid members name ∧ ofMembers members = .error ⟨name⟩ := by
  have hsorted : ∃ e ∈ Entries.ofMembers members, ¬ IsTokenName (dashed e.1) := by
    obtain ⟨m, hm, hinvalid⟩ := h
    obtain ⟨e, he, heq⟩ :=
      List.mem_map.mp (Entries.name_mem_ofMembers_iff.mpr (List.mem_map_of_mem hm))
    exact ⟨e, he, heq ▸ hinvalid⟩
  obtain ⟨front, e, back, hsplit, hfront, hinvalid, herror⟩ :=
    exists_insertAll_eq_error empty hsorted
  have horder := Entries.sorted_ofMembers members
  rw [hsplit] at horder
  have hback := (List.pairwise_cons.mp (List.pairwise_append.mp horder).2.1).1
  refine ⟨e.1, ⟨?_, hinvalid, fun m hm hm' => ?_⟩, herror⟩
  · refine Entries.name_mem_ofMembers_iff.mp (List.mem_map_of_mem ?_)
    rw [hsplit]
    simp
  · obtain ⟨f, hf, heq⟩ :=
      List.mem_map.mp (Entries.name_mem_ofMembers_iff.mpr (List.mem_map_of_mem hm))
    rw [hsplit] at hf
    rw [← heq] at hm' ⊢
    rcases List.mem_append.mp hf with hf | hf
    · exact absurd (hfront f hf) hm'
    · rcases List.mem_cons.mp hf with rfl | hf
      · exact List.le_refl _
      · exact List.le_of_lt (Text.bytes_lt (hback f hf))

/-! ### Files -/

/-- A file that is an object of strings means what its members mean. -/
lemma parse_of_fileSpelling (h : FileSpelling file members) :
    parse file = (ofMembers members).mapError .invalidName := by
  obtain ⟨hb, hs, hb'⟩ := h
  next b b' s =>
  have hread : readMemberList (b ++ '\x7b' :: (s ++ '\x7d' :: b')) = .ok (members, b') :=
    readMemberList_eq_ok_iff.mpr ⟨b, s, hb, hs, rfl⟩
  simp only [parse, hread, skipBlanks_eq_nil_iff.mpr hb']
  rcases ofMembers members with e | table
  · rfl
  · rfl

lemma innerSpelling_of_read (h : (readMemberList file).toOption = some (members, rest)) :
    ∃ b s, Blanks b ∧ InnerSpelling s members ∧ file = b ++ '\x7b' :: (s ++ '\x7d' :: rest) := by
  rcases hread : readMemberList file with fault | ⟨members', rest'⟩
  · rw [hread] at h
    cases h
  · rw [hread] at h
    cases h
    exact readMemberList_eq_ok_iff.mp hread

lemma fileSpelling_of_read (h : (readMemberList file).toOption = some (members, rest))
    (hrest : Blanks rest) : FileSpelling file members := by
  obtain ⟨b, s, hb, hs, rfl⟩ := innerSpelling_of_read h
  exact .object hb hs hrest

lemma parse_of_ofMembers_eq_error (hb : Blanks b) (hs : InnerSpelling s members)
    (h : ofMembers members = .error e) (rest : Text) :
    parse (b ++ '\x7b' :: (s ++ '\x7d' :: rest)) = .error (.invalidName e) := by
  have hread : readMemberList (b ++ '\x7b' :: (s ++ '\x7d' :: rest)) = .ok (members, rest) :=
    readMemberList_eq_ok_iff.mpr ⟨b, s, hb, hs, rfl⟩
  simp only [parse, hread, h]

end TokenTable

lemma fst_run_loadTable {w : World} {p : Path} (h : w.tree.read p = .ok (Text.encode file)) :
    ((loadTable (m := StateM World) p).run w).1 =
      (TokenTable.parse file).mapError (.tokenFile p) := by
  rw [(hasOutcome_loadTable p w.tree).run_fst, FileTree.loadOutcome,
    FileTree.readText_eq_ok_iff.mpr h]

end

/-- **What the members of a token file mean.** If all names are valid, the table holds the names
that the members spell, with the dashes or without them, and under each the last value given to
the spelling that counts: the bare one if there is one, but for a single dash. If some name is
invalid, the first one in the order of the bytes is reported, as it is written and without a
place, whatever follows the object. Members that are reordered, those with equal names apart, give
the same result, however the files are laid out. -/
theorem loadTable_of_members (p : Path) (members : List (Text × Text)) :
    ((∀ m ∈ members, IsTokenName (dashed m.1)) → ∀ (w : World) (file : Text),
      FileSpelling file members → w.tree.read p = .ok (Text.encode file) →
        ∃ table, ((loadTable (m := StateM World) p).run w).1 = .ok table ∧
          (∀ name, table.contains name = true ↔ ∃ bare, name = '-' :: '-' :: bare ∧
            (bare ∈ members.map Prod.fst ∧ ¬ ['-', '-'] <+: bare ∨
              '-' :: '-' :: bare ∈ members.map Prod.fst)) ∧
          ∀ bare, table.get? ('-' :: '-' :: bare) =
            (writtenNames bare).findSome? fun raw => members.reverse.lookup raw) ∧
    ((∃ m ∈ members, ¬ IsTokenName (dashed m.1)) → ∃ name, LeastInvalid members name ∧
      (TokenFileFault.invalidName ⟨name⟩).position = ⟨0, 0⟩ ∧
      ∀ (w : World) (b s rest : Text), Blanks b → InnerSpelling s members →
        w.tree.read p = .ok (Text.encode (b ++ '\x7b' :: (s ++ '\x7d' :: rest))) →
          ((loadTable (m := StateM World) p).run w).1 =
            .error (.tokenFile p (.invalidName ⟨name⟩))) ∧
    ∀ members', Reordered members members' → ∀ (w w' : World) (file file' : Text),
      FileSpelling file members → FileSpelling file' members' →
        w.tree.read p = .ok (Text.encode file) → w'.tree.read p = .ok (Text.encode file') →
          ((loadTable (m := StateM World) p).run w).1 =
            ((loadTable (m := StateM World) p).run w').1 := by
  refine ⟨fun hnames w file hfile hread => ?_, fun hinvalid => ?_,
    fun members' hreordered w w' file file' hfile hfile' hread hread' => ?_⟩
  · obtain ⟨table, htable⟩ : ∃ table, TokenTable.ofMembers members = .ok table :=
      ⟨⟨_, Entries.sorted_ofMembers _⟩, TokenTable.ofMembers_eq_ok_iff.mpr ⟨hnames, rfl⟩⟩
    refine ⟨table, ?_, fun name => TokenTable.contains_ofMembers_iff htable,
      TokenTable.get?_ofMembers htable⟩
    rw [fst_run_loadTable hread, TokenTable.parse_of_fileSpelling hfile, htable]
    rfl
  · obtain ⟨name, hleast, herror⟩ := TokenTable.exists_ofMembers_eq_error hinvalid
    refine ⟨name, hleast, rfl, fun w b s rest hb hs hread => ?_⟩
    rw [fst_run_loadTable hread, TokenTable.parse_of_ofMembers_eq_error hb hs herror]
    rfl
  · rw [fst_run_loadTable hread, fst_run_loadTable hread', TokenTable.parse_of_fileSpelling hfile,
      TokenTable.parse_of_fileSpelling hfile', TokenTable.ofMembers, TokenTable.ofMembers,
      hreordered.ofMembers_eq]

theorem loadTable_of_members_dashes :
    (∃ table, ((loadTable (m := StateM World) "t.json".toList).run (tokenWorld
        "\x7b\"a\":\"1\",\"---\":\"2\",\"--a\":\"3\",\"-\":\"4\",\"a\":\"5\"\x7d".toList)).1 =
          .ok table ∧
        table.get? "--a".toList = some ['5'] ∧ table.get? "---".toList = some ['2']) ∧
      ((loadTable (m := StateM World) "t.json".toList).run (tokenWorld
        "\x7b\"b c\":\"\",\"-é\":\"\",\"a\":\"\"\x7d]".toList)).1 =
          .error (.tokenFile "t.json".toList (.invalidName ⟨"-é".toList⟩)) ∧
      ((loadTable (m := StateM World) "t.json".toList).run (tokenWorld
        "\x7b\"a\":\"1\",\"--a\":\"2\",\"a\":\"3\"\x7d".toList)).1 =
        ((loadTable (m := StateM World) "t.json".toList).run (tokenWorld
          "\x7b \"--a\" : \"2\", \"a\":\"1\", \"a\":\"\\u0033\"\x7d ".toList)).1 := by
  have hnone : Blanks [] := by simp [Blanks]
  have hblank : Blanks [' '] := List.forall_mem_singleton.mpr (by decide)
  refine ⟨?_, ?_, ?_⟩
  · have hfile : FileSpelling
        "\x7b\"a\":\"1\",\"---\":\"2\",\"--a\":\"3\",\"-\":\"4\",\"a\":\"5\"\x7d".toList
        [(['a'], ['1']), ("---".toList, ['2']), ("--a".toList, ['3']), (['-'], ['4']),
          (['a'], ['5'])] :=
      TokenTable.fileSpelling_of_read (by decide +kernel) hnone
    obtain ⟨table, hrun, -, hget⟩ := (loadTable_of_members "t.json".toList _).1
      (by simp only [isTokenName_dashed_iff]; decide) (tokenWorld _) _ hfile rfl
    exact ⟨table, hrun, (hget ['a']).trans (by decide), (hget ['-']).trans (by decide)⟩
  · have hread : (readMemberList "\x7b\"b c\":\"\",\"-é\":\"\",\"a\":\"\"\x7d]".toList).toOption =
        some ([("b c".toList, []), ("-é".toList, []), (['a'], [])], [']']) := by decide +kernel
    obtain ⟨b, s, hb, hs, hfile⟩ := TokenTable.innerSpelling_of_read hread
    obtain ⟨name, hleast, -, hrun⟩ := (loadTable_of_members "t.json".toList
      [("b c".toList, []), ("-é".toList, []), (['a'], [])]).2.1
        ⟨("b c".toList, []), by simp, by rw [isTokenName_dashed_iff]; decide⟩
    have hname : name = "-é".toList := by
      have hle := hleast.least ("-é".toList, []) (by simp)
        (by rw [isTokenName_dashed_iff]; decide)
      have hinvalid := hleast.invalid
      have hmem : name = "b c".toList ∨ name = "-é".toList ∨ name = ['a'] := by
        simpa using hleast.mem
      rcases hmem with rfl | rfl | rfl
      · exact absurd hle (by decide)
      · rfl
      · exact absurd (isTokenName_dashed_iff.mpr (by decide)) hinvalid
    subst hname
    rw [hfile]
    exact hrun (tokenWorld _) b s [']'] hb hs rfl
  · have hfile : FileSpelling "\x7b\"a\":\"1\",\"--a\":\"2\",\"a\":\"3\"\x7d".toList
        [(['a'], ['1']), ("--a".toList, ['2']), (['a'], ['3'])] :=
      TokenTable.fileSpelling_of_read (by decide +kernel) hnone
    have hfile' : FileSpelling
        "\x7b \"--a\" : \"2\", \"a\":\"1\", \"a\":\"\\u0033\"\x7d ".toList
        [("--a".toList, ['2']), (['a'], ['1']), (['a'], ['3'])] :=
      TokenTable.fileSpelling_of_read (by decide +kernel) hblank
    refine (loadTable_of_members "t.json".toList _).2.2 _ ⟨List.Perm.swap _ _ _, fun name => ?_⟩
      (tokenWorld _) (tokenWorld _) _ _ hfile hfile' rfl rfl
    by_cases hname : name = ['a']
    · subst hname
      rfl
    · have hne : (['a'] == name) = false := beq_eq_false_iff_ne.mpr (Ne.symm hname)
      simp only [List.filter_cons, hne]
      rfl

end DrawStyle
