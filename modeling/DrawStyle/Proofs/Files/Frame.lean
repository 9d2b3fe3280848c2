import DrawStyle.Proofs.Files.Replace

/-!
What a replacement leaves as it was.

The name under which a new file is staged is longer than all names of the tree and of the path,
so nothing stands there and the path does not lead there. A staged file that is taken away leaves
the tree from which it came, and one that is renamed leaves a tree that differs at one location.
So a replacement either fails and changes nothing, or the location to which its path leads holds
the new file, with the mode of the old one, and all others hold what they held.
-/

namespace DrawStyle

namespace FileTree

/-- The access mode of a file that is put at a location: that of the file before it, if there
is one. -/
def modeAt (tree : FileTree) (place : Location) : ℕ :=
  match tree.node? place with
  | some node => node.mode
  | none => tree.newFileMode

/-- One file, which may be new, has other bytes, and all else is as it was. -/
structure Overwritten (tree tree' : FileTree) (place : Location) (bytes : ByteArray) : Prop where
  home : tree'.home = tree.home
  privileged : tree'.privileged = tree.privileged
  umask : tree'.umask = tree.umask
  not_directory : ∀ mode, tree.node? place ≠ some (.directory mode)
  file : tree'.node? place = some (.file bytes (tree.modeAt place))
  others : ∀ l, l ≠ place → tree'.node? l = tree.node? l

section

variable {tree tree' : FileTree} {place l : Location} {node : Node} {mode : ℕ}
  {bytes : ByteArray} {p : Path} {name : Text} {result : Except FileFault Unit}

/-! ### The name of a staged file -/

lemma le_foldl_max (ns : List ℕ) (n : ℕ) : n ≤ ns.foldl max n ∧ ∀ k ∈ ns, k ≤ ns.foldl max n := by
  induction ns generalizing n with
  | nil => exact ⟨Nat.le_refl n, by simp⟩
  | cons k ns ih =>
    obtain ⟨hstart, hall⟩ := ih (max n k)
    rw [List.foldl_cons]
    refine ⟨by omega, fun j hj => ?_⟩
    rcases List.mem_cons.mp hj with rfl | hj
    · omega
    · exact hall j hj

lemma length_unusedName (tree : FileTree) (p : Path) :
    p.length < (tree.unusedName p).length ∧
      ∀ e ∈ tree.nodes, ∀ name ∈ e.1, name.length < (tree.unusedName p).length := by
  obtain ⟨hpath, hnames⟩ := le_foldl_max
    (tree.nodes.flatMap fun e : Location × Node => e.1.map List.length) p.length
  have hlen : (tree.unusedName p).length =
      4 + (tree.nodes.flatMap fun e : Location × Node => e.1.map List.length).foldl max p.length := by
    rw [unusedName, List.length_append, List.length_replicate]
    rfl
  refine ⟨by omega, fun e he name hname => ?_⟩
  have hle := hnames name.length
    (List.mem_flatMap.mpr ⟨e, he, List.mem_map_of_mem hname⟩)
  omega

lemma unused_of_unusedName (tree : FileTree) (p : Path) (dir : Location) :
    ∀ e ∈ tree.nodes, e.1 ≠ dir ++ [tree.unusedName p] := by
  intro e he h
  have hlt := (length_unusedName tree p).2 e he (tree.unusedName p) (by rw [h]; simp)
  omega

lemma sublist_intercalate {names : List Text} (h : name ∈ names) :
    name.Sublist (['/'].intercalate names) := by
  induction names with
  | nil => cases h
  | cons first names ih =>
    by_cases hnil : names = []
    · subst hnil
      rw [List.intercalate_singleton, List.mem_singleton.mp h]
    · rw [List.intercalate_cons_of_ne_nil hnil]
      rcases List.mem_cons.mp h with rfl | h
      · exact (List.sublist_append_left _ _).trans (List.sublist_append_left _ _)
      · exact (ih h).trans (List.sublist_append_right _ _)

/-- No part of a path is as long as the name of a staged file. -/
lemma length_lt_unusedName_of_mem_parts (h : name ∈ p.parts) :
    name.length < (tree.unusedName p).length := by
  have hle := (sublist_intercalate h).length_le
  rw [Path.parts, List.intercalate_splitOn] at hle
  have hlt := (length_unusedName tree p).1
  omega

lemma ne_staged_of_mem_parts (h : name ∈ p.parts) {dir dir' : Location} :
    dir ++ [name] ≠ dir' ++ [tree.unusedName p] := by
  intro heq
  have hlt : name.length < (tree.unusedName p).length := length_lt_unusedName_of_mem_parts h
  rw [List.singleton_inj.mp (List.append_inj_right' heq rfl)] at hlt
  exact Nat.lt_irrefl _ hlt

/-! ### Staging a file -/

lemma node?_of_unused (h : ∀ e ∈ tree.nodes, e.1 ≠ place) (hne : place ≠ []) :
    tree.node? place = none := by
  rw [node?_of_ne_nil hne, List.find?_eq_none.mpr, Option.map_none]
  intro e he
  simpa using h e he

lemma set_of_unused (h : ∀ e ∈ tree.nodes, e.1 ≠ place) (node : Node) :
    tree.set place node = { tree with nodes := tree.nodes ++ [(place, node)] } := by
  rw [set, if_neg]
  rw [List.any_eq_true]
  rintro ⟨e, he, heq⟩
  exact h e he (by simpa using heq)

/-- What was put at an unused location can be taken away again. -/
lemma erase_set_of_unused (h : ∀ e ∈ tree.nodes, e.1 ≠ place) (node : Node) :
    (tree.set place node).erase place = tree := by
  have hkept : tree.nodes.filter (fun e => e.1 != place) = tree.nodes :=
    List.filter_eq_self.mpr fun e he => by simpa using h e he
  rw [set_of_unused h, erase, List.filter_append, hkept]
  simp

lemma set_set_of_unused (h : ∀ e ∈ tree.nodes, e.1 ≠ place) (node node' : Node) :
    (tree.set place node).set place node' = tree.set place node' := by
  have hany : (tree.nodes ++ [(place, node)]).any (fun e => e.1 == place) = true := by simp
  have hkept : tree.nodes.map (fun e : Location × Node =>
      if e.1 = place then (e.1, node') else (e.1, e.2)) = tree.nodes := by
    conv_rhs => rw [← List.map_id tree.nodes]
    exact List.map_congr_left fun e he => if_neg (h e he)
  rw [set_of_unused h, set_of_unused h, set, if_pos hany, List.map_append, hkept]
  simp

/-- A staged file neither adds directories to a tree nor takes any out of it. -/
lemma keepsDirectories_of_set (hne : place ≠ []) :
    (tree.set place (.file bytes mode)).KeepsDirectories tree where
  home := (home_set tree place _).symm
  privileged := (privileged_set tree place _).symm
  directory l m hl := by
    rw [node?_set hne] at hl
    split at hl
    · cases hl
    · exact hl

/-- The mode at a location is that which is found by a path to it. -/
lemma modeAt_eq_of_locate (h : tree.locate p = .ok l) :
    tree.modeAt l = (tree.mode p).toOption.getD tree.newFileMode := by
  rw [FileTree.mode, lookup, h, modeAt]
  dsimp only
  rcases tree.node? l with _ | node
  · rfl
  · rfl

/-- A staged file is no matter to a path that leads elsewhere. -/
lemma mode_set_of_unused (hnone : tree.node? place = none) (hne : place ≠ []) (hl : l ≠ place)
    (hlocate : tree.locate p = .ok l) (node : Node) :
    (tree.set place node).mode p = tree.mode p := by
  have hkeeps : tree.KeepsDirectories (tree.set place node) :=
    keepsDirectories_set (by simp [hnone]) node
  rw [FileTree.mode, FileTree.mode, lookup, lookup, hkeeps.locate hlocate, hlocate]
  dsimp only
  rw [node?_set hne, if_neg hl]

/-- A file is staged with the mode that it is to have where the path leads. -/
lemma exists_stage_eq (h : ∀ e ∈ tree.nodes, e.1 ≠ place) (hne : place ≠ []) (p : Path)
    (bytes : ByteArray) :
    ∃ mode, tree.stage place p bytes = tree.set place (.file bytes mode) ∧
      ∀ l, l ≠ place → tree.locate p = .ok l → mode = tree.modeAt l := by
  have hmode : ∀ l, l ≠ place → tree.locate p = .ok l →
      (tree.set place (.file bytes tree.newFileMode)).mode p = tree.mode p := fun l hl hlocate =>
    mode_set_of_unused (node?_of_unused h hne) hne hl hlocate _
  rw [stage]
  split
  · next hstaged =>
    refine ⟨tree.newFileMode, rfl, fun l hl hlocate => ?_⟩
    rw [hmode l hl hlocate] at hstaged
    rw [modeAt_eq_of_locate hlocate, hstaged]
    rfl
  · next mode hstaged =>
    refine ⟨mode, ?_, fun l hl hlocate => ?_⟩
    · rw [setMode, node?_set hne, if_pos rfl]
      exact set_set_of_unused h _ _
    · rw [hmode l hl hlocate] at hstaged
      rw [modeAt_eq_of_locate hlocate, hstaged]
      rfl

/-! ### Renaming a staged file -/

/-- The location to which a file is renamed ends in a part of the path. -/
lemma exists_part_of_renameTarget (h : tree.renameTarget p = .ok l) :
    ∃ dir, ∃ name ∈ p.parts, l = dir ++ [name] := by
  obtain ⟨dir, name, -, -, hlast, -, -, -, -, rfl, -⟩ := renameTarget_eq_ok h
  have hprefix : p.target <+: p.parts := List.rdropWhile_prefix _ _
  exact ⟨dir, name, hprefix.mem (List.mem_of_getLast? hlast), rfl⟩

/-- A staged file that is renamed is found where the path leads, and nothing else is new. -/
lemma overwritten_of_rename (hunused : ∀ e ∈ tree.nodes, e.1 ≠ place) (hne : place ≠ [])
    (hlong : ∀ dir, ∀ name ∈ p.parts, dir ++ [name] ≠ place)
    (h : (tree.stage place p bytes).rename place p = .ok tree') :
    ∃ l, tree.locate p = .ok l ∧ tree.Overwritten tree' l bytes := by
  have hnone := node?_of_unused hunused hne
  obtain ⟨mode, hstage, hmode⟩ := exists_stage_eq hunused hne p bytes
  have hback : (tree.set place (.file bytes mode)).KeepsDirectories tree :=
    keepsDirectories_of_set hne
  rw [hstage, rename] at h
  rcases htarget : (tree.set place (.file bytes mode)).renameTarget p with fault | l
  · rw [htarget] at h
    cases h
  · rw [htarget, node?_set hne, if_pos rfl] at h
    obtain rfl := Except.ok.inj h
    have hlocate := hback.locate (locate_of_renameTarget htarget)
    obtain ⟨dir, name, hname, rfl⟩ := exists_part_of_renameTarget htarget
    have hl : dir ++ [name] ≠ place := hlong dir name hname
    have hlne : dir ++ [name] ≠ [] := by simp
    have herase := erase_set_of_unused hunused (.file bytes mode)
    refine ⟨_, hlocate, ?_⟩
    rw [herase]
    exact
      { home := home_set _ _ _
        privileged := privileged_set _ _ _
        umask := umask_set _ _ _
        not_directory := fun m hm => by
          refine not_directory_of_renameTarget htarget m ?_
          rw [node?_set hne, if_neg hl, hm]
        file := by rw [node?_set hlne, if_pos rfl, hmode _ hl hlocate]
        others := fun l hl => by rw [node?_set hlne, if_neg hl] }

/-! ### Replacing a file -/

/-- **A replacement is all or nothing**: it fails and leaves the tree as it was, or it gives the
file to which the path leads its new bytes, and leaves all else as it was. -/
theorem replace_cases (h : tree.replace p bytes = (tree', result)) :
    (∃ fault, result = .error fault ∧ tree' = tree) ∨
      result = .ok () ∧ ∃ l, tree.locate p = .ok l ∧ tree.Overwritten tree' l bytes := by
  rw [replace] at h
  rcases hdir : tree.parent p with fault | dir
  · rw [hdir] at h
    obtain ⟨rfl, rfl⟩ := Prod.mk.inj h
    exact Or.inl ⟨fault, rfl, rfl⟩
  · rw [hdir] at h
    dsimp only at h
    have hunused := unused_of_unusedName tree p dir
    have hne : dir ++ [tree.unusedName p] ≠ [] := by simp
    split at h
    · next fault _ =>
      obtain ⟨rfl, rfl⟩ := Prod.mk.inj h
      obtain ⟨mode, hstage, -⟩ := exists_stage_eq hunused hne p bytes
      exact Or.inl ⟨fault, rfl, by rw [hstage, erase_set_of_unused hunused]⟩
    · next hrename =>
      obtain ⟨rfl, rfl⟩ := Prod.mk.inj h
      exact Or.inr ⟨rfl, overwritten_of_rename hunused hne
        (fun _ _ hname => ne_staged_of_mem_parts hname) hrename⟩

lemma Overwritten.keepsDirectories (h : tree.Overwritten tree' l bytes) :
    tree.KeepsDirectories tree' where
  home := h.home
  privileged := h.privileged
  directory l' m hl' := by
    rw [h.others l' ?_, hl']
    rintro rfl
    exact h.not_directory m hl'

lemma Overwritten.keepsDirectories_back (h : tree.Overwritten tree' l bytes) :
    tree'.KeepsDirectories tree where
  home := h.home.symm
  privileged := h.privileged.symm
  directory l' m hl' := by
    rw [← h.others l' ?_, hl']
    rintro rfl
    rw [h.file] at hl'
    cases hl'

/-- **Paths lead where they led**, and nowhere else. -/
theorem Overwritten.locate_iff (h : tree.Overwritten tree' place bytes) :
    tree'.locate p = .ok l ↔ tree.locate p = .ok l :=
  ⟨h.keepsDirectories_back.locate, h.keepsDirectories.locate⟩

/-- The mode of an old file is kept, and a file that is new has the mode of new files. -/
lemma Overwritten.modeAt (h : tree.Overwritten tree' place bytes) (l : Location) :
    tree'.modeAt l = tree.modeAt l := by
  by_cases hl : l = place
  · subst hl
    rw [FileTree.modeAt, h.file]
    rfl
  · rw [FileTree.modeAt, h.others l hl, FileTree.modeAt, newFileMode, h.umask, newFileMode]

lemma Overwritten.lookup (h : tree.Overwritten tree' l bytes) (hlocate : tree.locate p = .ok l) :
    tree'.lookup p = .ok (l, .file bytes (tree.modeAt l)) := by
  rw [FileTree.lookup, h.keepsDirectories.locate hlocate]
  dsimp only
  rw [h.file]

/-- An old file keeps its mode, and a new one has that of new files. -/
lemma Overwritten.mode_eq_ok (h : tree.Overwritten tree' l bytes) (hlocate : tree.locate p = .ok l) :
    tree'.mode p = .ok ((tree.mode p).toOption.getD tree.newFileMode) := by
  rw [FileTree.mode, h.lookup hlocate, ← modeAt_eq_of_locate hlocate]
  rfl

end

end FileTree

end DrawStyle
