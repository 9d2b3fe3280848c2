import DrawStyle.Proofs.Files.Frame

/-!
When a file can be replaced.

A replacement makes a new file in the directory of a path and renames it to the path. What it takes
is read off the path and its directory, so a replacement is refused exactly if something of that is
missing.
-/

namespace DrawStyle

namespace FileTree

/-- A path can be written, and names the given location: its last part is a name, the parts before
it lead to a directory in which files may be made, and no directory has the name there. -/
def Writable (tree : FileTree) (p : Path) (place : Location) : Prop :=
  ∃ names name dir, p.parts = names ++ [name] ∧ name ∉ [[], ['.'], ['.', '.']] ∧
    tree.follow (tree.start p) names = .ok dir ∧ tree.enter dir .change = .ok () ∧
      place = dir ++ [name] ∧ ∀ mode, tree.node? place ≠ some (.directory mode)

section

variable {tree tree' : FileTree} {place : Location} {bytes : ByteArray} {p : Path}
  {names : List Text} {name : Text}

/-! ### The parts of a path -/

lemma parent_eq_of_parts (h : p.parts = names ++ [name]) (hname : name ≠ [])
    (hdot : name ≠ ['.']) : p.parent = names := by
  have hskip : ¬ (name == [] || name == ['.']) = true := by simp [hname, hdot]
  have hkept : Path.dropEnd (fun n => n == [] || n == ['.']) p.parts = names ++ [name] := by
    rw [h]
    exact List.rdropWhile_concat_neg _ _ _ hskip
  rw [Path.parent, hkept, List.dropLast_concat]

lemma start_of_parts_singleton (h : p.parts = [name]) : tree.start p = tree.home := by
  rw [start, if_neg]
  intro habsolute
  rw [Path.isAbsolute, beq_iff_eq, List.head?_eq_some_iff] at habsolute
  obtain ⟨rest, rfl⟩ := habsolute
  have hcut : Path.parts ([] ++ '/' :: rest) = [] :: rest.splitOn '/' :=
    List.splitOn_append_cons_self_of_not_mem List.not_mem_nil rest
  rw [List.nil_append, h] at hcut
  exact List.splitOn_ne_nil _ _ (List.cons.inj hcut).2.symm

/-- The directory of a path is where the parts before its name lead. -/
lemma follow_before_name (h : p.parts = names ++ [name]) :
    tree.follow (if names = [] then tree.home else tree.start p) names =
      tree.follow (tree.start p) names := by
  split
  · next hnil =>
    subst hnil
    rw [start_of_parts_singleton h]
  · rfl

lemma endsInSlash_eq_false (h : p.parts = names ++ [name]) (hname : name ≠ []) :
    p.endsInSlash = false := by
  rw [Path.endsInSlash, beq_eq_false_iff_ne]
  intro hlast
  obtain ⟨q, rfl⟩ := List.getLast?_eq_some_iff.mp hlast
  have hcut : Path.parts (q ++ ['/']) = q.splitOn '/' ++ [[]] := List.splitOn_append_cons_self q []
  exact hname (List.append_inj_right' (h.symm.trans hcut) rfl |> List.singleton_inj.mp)

lemma enter_search_of_change (h : tree.enter place .change = .ok ()) :
    tree.enter place .search = .ok () := by
  obtain ⟨mode, hnode, hallows⟩ := enter_eq_ok_iff.mp h
  refine enter_eq_ok_iff.mpr ⟨mode, hnode, ?_⟩
  rw [allows, Node.grants, Bool.or_eq_true, beq_iff_eq] at hallows ⊢
  refine hallows.imp_right fun hchange => ?_
  calc mode &&& Access.search = mode &&& (Access.change &&& Access.search) := rfl
    _ = mode &&& Access.change &&& Access.search := (Nat.and_assoc _ _ _).symm
    _ = Access.change &&& Access.search := by rw [show mode &&& Access.change = _ from hchange]
    _ = Access.search := rfl

/-! ### What can be written is written -/

/-- A path that can be written can be written beside a staged file. -/
lemma Writable.of_keepsDirectories (h : tree.Writable p place)
    (hkeeps : tree.KeepsDirectories tree')
    (hplace : ∀ mode, tree'.node? place ≠ some (.directory mode)) : tree'.Writable p place := by
  obtain ⟨names, name, dir, hparts, hname, hfollow, henter, rfl, -⟩ := h
  have hstart : tree'.start p = tree.start p := by rw [start, start, hkeeps.home]
  exact ⟨names, name, dir, hparts, hname, hstart ▸ hkeeps.follow hfollow, hkeeps.enter henter, rfl,
    hplace⟩

lemma Writable.parent (h : tree.Writable p place) : ∃ dir, tree.parent p = .ok dir := by
  obtain ⟨names, name, dir, hparts, hname, hfollow, henter, rfl, -⟩ := h
  simp only [List.mem_cons, List.not_mem_nil, or_false, not_or] at hname
  refine ⟨dir, ?_⟩
  simp only [FileTree.parent, parent_eq_of_parts hparts hname.1 hname.2.1,
    follow_before_name hparts, hfollow, henter]

lemma Writable.renameTarget (h : tree.Writable p place) : tree.renameTarget p = .ok place := by
  obtain ⟨names, name, dir, hparts, hname, hfollow, henter, rfl, hfree⟩ := h
  simp only [List.mem_cons, List.not_mem_nil, or_false, not_or] at hname
  have hp : p ≠ [] := by
    rintro rfl
    have hnone : [] ++ [([] : Text)] = names ++ [name] := hparts
    exact hname.1 (List.singleton_inj.mp (List.append_inj_right' hnone rfl)).symm
  have htarget := target_eq_of_parts hparts hname.1
  rw [FileTree.renameTarget, if_neg hp, htarget, List.getLast?_concat, List.dropLast_concat]
  -- `hfree` leaves the last arm only, in which no directory stands at the location
  simp only [hfollow, enter_search_of_change henter, hname.2.1, hname.2.2, or_self, if_false,
    endsInSlash_eq_false hparts hname.1, Bool.false_eq_true]

/-- What can be renamed to a path whose directory can be changed can be written there. -/
lemma writable_of_renameTarget {dir : Location} (hdir : tree.parent p = .ok dir)
    (h : tree.renameTarget p = .ok place) : tree.Writable p place := by
  obtain ⟨dir', name, hp, hend, hlast, hdot, hdots, hfollow, -, rfl, hfree⟩ := renameTarget_eq_ok h
  obtain ⟨names, last, hparts, hne⟩ := exists_parts_eq_concat hp hend
  have htarget := target_eq_of_parts hparts hne
  rw [htarget, List.dropLast_concat] at hfollow
  rw [htarget, List.getLast?_concat] at hlast
  obtain rfl := Option.some.inj hlast
  rw [FileTree.parent] at hdir
  simp only [parent_eq_of_parts hparts hne hdot, follow_before_name hparts, hfollow] at hdir
  rcases henter : tree.enter dir' .change with fault | _
  · rw [henter] at hdir
    cases hdir
  · exact ⟨names, last, dir', hparts, by simp [hne, hdot, hdots], hfollow, henter, rfl, hfree⟩

/-! ### Beside a staged file -/

lemma KeepsDirectories.parent (h : tree.KeepsDirectories tree') {dir : Location}
    (hdir : tree.parent p = .ok dir) : tree'.parent p = .ok dir := by
  have hstart : tree'.start p = tree.start p := by rw [start, start, h.home]
  rw [FileTree.parent] at hdir ⊢
  rw [h.home, hstart]
  rcases hfollow : tree.follow (if p.parent = [] then tree.home else tree.start p) p.parent with
    fault | l
  · rw [hfollow] at hdir
    cases hdir
  · rw [hfollow] at hdir
    rcases henter : tree.enter l .change with fault | ⟨⟩
    · simp only [henter] at hdir
      cases hdir
    · simp only [henter] at hdir
      obtain rfl := Except.ok.inj hdir
      simp only [h.follow hfollow, h.enter henter]

lemma Writable.free (h : tree.Writable p place) :
    ∀ mode, tree.node? place ≠ some (.directory mode) := by
  obtain ⟨_, _, _, _, _, _, _, _, hfree⟩ := h
  exact hfree

lemma Writable.ne_staged (h : tree.Writable p place) (tree' : FileTree) (dir : Location) :
    place ≠ dir ++ [tree'.unusedName p] := by
  obtain ⟨names, name, dir', hparts, -, -, -, rfl, -⟩ := h
  exact ne_staged_of_mem_parts (by simp [hparts])

lemma writable_set_iff {dir : Location} {mode : ℕ}
    (hunused : ∀ e ∈ tree.nodes, e.1 ≠ dir ++ [tree.unusedName p]) :
    (tree.set (dir ++ [tree.unusedName p]) (.file bytes mode)).Writable p place ↔
      tree.Writable p place := by
  have hne : dir ++ [tree.unusedName p] ≠ [] := by simp
  constructor
  · intro h
    refine h.of_keepsDirectories (keepsDirectories_of_set hne) fun m hm => h.free m ?_
    rw [node?_set hne, if_neg (h.ne_staged tree dir), hm]
  · intro h
    have hnone := node?_of_unused hunused hne
    refine h.of_keepsDirectories (keepsDirectories_set (by simp [hnone]) _) fun m hm => h.free m ?_
    rwa [node?_set hne, if_neg (h.ne_staged tree dir)] at hm

/-! ### Replacing a file -/

lemma exists_renameTarget_of_rename {source : Location} (h : tree.rename source p = .ok tree') :
    ∃ target, tree.renameTarget p = .ok target := by
  rw [rename] at h
  rcases htarget : tree.renameTarget p with fault | target
  · rw [htarget] at h
    cases h
  · exact ⟨target, rfl⟩

lemma exists_writable_of_replace (h : tree.replace p bytes = (tree', .ok ())) :
    ∃ place, tree.Writable p place := by
  rw [replace] at h
  rcases hdir : tree.parent p with fault | dir
  · rw [hdir] at h
    cases h
  · rw [hdir] at h
    dsimp only at h
    have hunused := unused_of_unusedName tree p dir
    have hne : dir ++ [tree.unusedName p] ≠ [] := by simp
    obtain ⟨mode, hstage, -⟩ := exists_stage_eq hunused hne p bytes
    have hkeeps : tree.KeepsDirectories (tree.set (dir ++ [tree.unusedName p]) (.file bytes mode)) :=
      keepsDirectories_set (by simp [node?_of_unused hunused hne]) _
    split at h
    · cases h
    · next hrename =>
      rw [hstage] at hrename
      obtain ⟨place, htarget⟩ := exists_renameTarget_of_rename hrename
      exact ⟨place, (writable_set_iff hunused).mp
        (writable_of_renameTarget (hkeeps.parent hdir) htarget)⟩

/-- **What can be written is replaced.** -/
theorem Writable.exists_replace (h : tree.Writable p place) (bytes : ByteArray) :
    ∃ tree', tree.replace p bytes = (tree', .ok ()) := by
  obtain ⟨dir, hdir⟩ := h.parent
  have hunused := unused_of_unusedName tree p dir
  have hne : dir ++ [tree.unusedName p] ≠ [] := by simp
  obtain ⟨mode, hstage, -⟩ := exists_stage_eq hunused hne p bytes
  have hstaged : (tree.set (dir ++ [tree.unusedName p]) (.file bytes mode)).Writable p place :=
    (writable_set_iff hunused).mpr h
  simp only [replace, hdir, hstage, rename, hstaged.renameTarget, node?_set hne, if_true]
  exact ⟨_, rfl⟩

/-- **A replacement is refused exactly if the path cannot be written.** -/
theorem replace_eq_ok_iff : (∃ tree', tree.replace p bytes = (tree', .ok ())) ↔
    ∃ place, tree.Writable p place :=
  ⟨fun ⟨_, h⟩ => exists_writable_of_replace h, fun ⟨_, h⟩ => h.exists_replace bytes⟩

end

end FileTree

end DrawStyle
