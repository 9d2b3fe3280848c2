import DrawStyle.Files.Tree
import Mathlib.Data.List.DropRight

/-!
What stands in a tree after a file was replaced.

A change to a tree is known by what stands at each location. What is new in a tree when a file is
renamed is no directory, and no directory is taken out, so a path that could be followed before
is followed to the same location. So the path of a file that was replaced leads to the new file.
-/

namespace DrawStyle

namespace FileTree

/-- A path leads to a file with the given bytes. -/
def Holds (tree : FileTree) (p : Path) (bytes : ByteArray) : Prop :=
  ∃ place mode, tree.lookup p = .ok (place, .file bytes mode)

section

variable {tree tree' : FileTree} {place l here : Location} {node : Node} {mode : Nat}
  {bytes : ByteArray} {p : Path}

/-! ### What stands at a location -/

lemma node?_of_ne_nil (h : l ≠ []) :
    tree.node? l = (tree.nodes.find? fun e => e.1 == l).map Prod.snd := if_neg h

/-- Only what is put at a location is changed. -/
theorem node?_set (h : place ≠ []) (node : Node) (l : Location) :
    (tree.set place node).node? l = if l = place then some node else tree.node? l := by
  by_cases hl : l = []
  · rw [if_neg (by rw [hl]; exact h.symm), node?, node?, if_pos hl, if_pos hl]
  rw [node?_of_ne_nil hl, node?_of_ne_nil hl, set]
  split
  · next hany =>
    -- the entries stay under their locations
    have hkeys : ((fun e : Location × Node => e.1 == l) ∘ fun (l', n) =>
        if l' = place then (l', node) else (l', n)) = fun e => e.1 == l := by
      funext e
      dsimp only [Function.comp_apply]
      split
      · rfl
      · rfl
    rw [List.find?_map, hkeys, Option.map_map]
    rcases hfind : tree.nodes.find? (fun e => e.1 == l) with _ | ⟨l', n⟩
    · obtain ⟨e, he, hplace⟩ := List.any_eq_true.mp hany
      have hne : l ≠ place := by
        rintro rfl
        exact List.find?_eq_none.mp hfind e he hplace
      rw [hfind, if_neg hne]
      rfl
    · obtain rfl : l' = l := by simpa using List.find?_some hfind
      rw [hfind, Option.map_some, Option.map_some, Function.comp_apply]
      dsimp only
      split
      · rfl
      · rfl
  · next hany =>
    rw [List.find?_append, Option.map_or]
    by_cases hlp : l = place
    · have hnone : tree.nodes.find? (fun e => e.1 == l) = none := by
        rw [List.find?_eq_none]
        intro e he hel
        exact hany (List.any_eq_true.mpr ⟨e, he, hlp ▸ hel⟩)
      rw [hnone, if_pos hlp]
      simp [hlp]
    · simp [hlp, Ne.symm hlp]

/-- Only what is taken out of a location is changed. -/
theorem node?_erase (h : place ≠ []) (l : Location) :
    (tree.erase place).node? l = if l = place then none else tree.node? l := by
  by_cases hl : l = []
  · rw [if_neg (by rw [hl]; exact h.symm), node?, node?, if_pos hl, if_pos hl]
  rw [node?_of_ne_nil hl, node?_of_ne_nil hl, erase, List.find?_filter]
  by_cases hlp : l = place
  · rw [if_pos hlp, hlp]
    simp
  · rw [if_neg hlp]
    congr 2
    funext e
    by_cases hel : e.1 = l
    · simp [hel, hlp]
    · simp [hel]

/-- A mode is changed at one location, and nothing else is. -/
theorem node?_setMode (h : place ≠ []) (mode : Nat) (l : Location) :
    (tree.setMode place mode).node? l =
      if l = place then (tree.node? place).map (Node.withMode mode) else tree.node? l := by
  rw [setMode]
  split
  · next hnone =>
    by_cases hlp : l = place
    · rw [if_pos hlp, hlp, hnone, Option.map_none]
    · rw [if_neg hlp]
  · next node hnode => rw [node?_set h, hnode, Option.map_some]

@[simp] lemma home_set (tree : FileTree) (place : Location) (node : Node) :
    (tree.set place node).home = tree.home := by
  rw [set]
  split
  · rfl
  · rfl

@[simp] lemma privileged_set (tree : FileTree) (place : Location) (node : Node) :
    (tree.set place node).privileged = tree.privileged := by
  rw [set]
  split
  · rfl
  · rfl

@[simp] lemma umask_set (tree : FileTree) (place : Location) (node : Node) :
    (tree.set place node).umask = tree.umask := by
  rw [set]
  split
  · rfl
  · rfl

/-! ### Following a path in a changed tree -/

/-- No directory is taken out, and paths start where they did. -/
structure KeepsDirectories (tree tree' : FileTree) : Prop where
  home : tree'.home = tree.home
  privileged : tree'.privileged = tree.privileged
  directory : ∀ l mode, tree.node? l = some (.directory mode) →
    tree'.node? l = some (.directory mode)

lemma KeepsDirectories.trans {tree'' : FileTree} (h : tree.KeepsDirectories tree')
    (h' : tree'.KeepsDirectories tree'') : tree.KeepsDirectories tree'' where
  home := h'.home.trans h.home
  privileged := h'.privileged.trans h.privileged
  directory l mode hl := h'.directory l mode (h.directory l mode hl)

lemma ne_nil_of_not_directory (h : ∀ mode, tree.node? place ≠ some (.directory mode)) :
    place ≠ [] := by
  rintro rfl
  exact h _ rfl

lemma keepsDirectories_set (h : ∀ mode, tree.node? place ≠ some (.directory mode))
    (node : Node) : tree.KeepsDirectories (tree.set place node) where
  home := home_set tree place node
  privileged := privileged_set tree place node
  directory l mode hl := by
    rw [node?_set (ne_nil_of_not_directory h), if_neg, hl]
    rintro rfl
    exact h mode hl

lemma keepsDirectories_erase (h : ∀ mode, tree.node? place ≠ some (.directory mode)) :
    tree.KeepsDirectories (tree.erase place) where
  home := rfl
  privileged := rfl
  directory l mode hl := by
    rw [node?_erase (ne_nil_of_not_directory h), if_neg, hl]
    rintro rfl
    exact h mode hl

lemma enter_eq_ok_iff {access : Access} :
    tree.enter place access = .ok () ↔ ∃ mode, tree.node? place = some (.directory mode) ∧
      tree.allows (.directory mode) access = true := by
  rw [enter]
  rcases tree.node? place with _ | ⟨bytes, mode⟩ | mode
  · simp
  · simp
  · simp

lemma follow_append (here : Location) (parts parts' : List Text) :
    tree.follow here (parts ++ parts') =
      (tree.follow here parts).bind fun l => tree.follow l parts' := by
  induction parts generalizing here with
  | nil => rfl
  | cons part parts ih =>
    rw [List.cons_append, follow, follow]
    rcases tree.enter here (stepAccess part) with fault | _
    · rfl
    · exact ih _

lemma follow_concat {names : List Text} {name : Text} (hf : tree.follow here names = .ok l)
    (he : tree.enter l (stepAccess name) = .ok ()) :
    tree.follow here (names ++ [name]) = .ok (step l name) := by
  rw [follow_append, hf]
  dsimp only [Except.bind]
  rw [follow, he]
  rfl

namespace KeepsDirectories

lemma enter (h : tree.KeepsDirectories tree') {access : Access}
    (he : tree.enter place access = .ok ()) : tree'.enter place access = .ok () := by
  obtain ⟨mode, hnode, hallows⟩ := enter_eq_ok_iff.mp he
  refine enter_eq_ok_iff.mpr ⟨mode, h.directory place mode hnode, ?_⟩
  rwa [allows, h.privileged]

lemma follow (h : tree.KeepsDirectories tree') {parts : List Text}
    (hf : tree.follow here parts = .ok l) : tree'.follow here parts = .ok l := by
  induction parts generalizing here with
  | nil => exact hf
  | cons part parts ih =>
    rw [FileTree.follow] at hf ⊢
    rcases he : tree.enter here (stepAccess part) with fault | _
    · rw [he] at hf
      cases hf
    · rw [he] at hf
      rw [h.enter he]
      exact ih hf

/-- **Paths lead where they led** as long as no directory is taken out. -/
theorem locate (h : tree.KeepsDirectories tree') (hl : tree.locate p = .ok l) :
    tree'.locate p = .ok l := by
  have hstart : tree'.start p = tree.start p := by rw [start, start, h.home]
  rw [FileTree.locate] at hl ⊢
  split at hl
  · cases hl
  · next hp => rw [if_neg hp, hstart, h.follow hl]

end KeepsDirectories

/-! ### Renaming a file -/

lemma intercalate_concat_nil (names : List Text) :
    ['/'].intercalate (names ++ [[]]) = names.flatMap (· ++ ['/']) := by
  induction names with
  | nil => rfl
  | cons name names ih =>
    rw [List.cons_append, List.intercalate_cons_of_ne_nil (by simp), ih, List.flatMap_cons]

lemma exists_parts_eq_concat (hp : p ≠ []) (hend : p.endsInSlash = false) :
    ∃ names name, p.parts = names ++ [name] ∧ name ≠ [] := by
  obtain ⟨names, name, hparts⟩ :=
    (List.eq_nil_or_concat p.parts).resolve_left (List.splitOn_ne_nil _ _)
  rw [List.concat_eq_append] at hparts
  refine ⟨names, name, hparts, ?_⟩
  rintro rfl
  -- the path would be empty or end in a slash
  have hspelled : p = names.flatMap (· ++ ['/']) := by
    rw [← intercalate_concat_nil, ← hparts, Path.parts, List.intercalate_splitOn]
  rcases List.eq_nil_or_concat names with rfl | ⟨names, name, rfl⟩
  · exact hp hspelled
  · rw [hspelled, Path.endsInSlash] at hend
    simp at hend

lemma target_eq_of_parts {names : List Text} {name : Text} (h : p.parts = names ++ [name])
    (hname : name ≠ []) : p.target = names ++ [name] := by
  rw [Path.target, h]
  exact List.rdropWhile_concat_neg _ _ _ (by simpa using hname)

/-- What it takes for a file to get a location when it is renamed to a path. -/
lemma renameTarget_eq_ok (h : tree.renameTarget p = .ok l) :
    ∃ dir name, p ≠ [] ∧ p.endsInSlash = false ∧ p.target.getLast? = some name ∧
      name ≠ ['.'] ∧ name ≠ ['.', '.'] ∧ tree.follow (tree.start p) p.target.dropLast = .ok dir ∧
      tree.enter dir .search = .ok () ∧ l = dir ++ [name] ∧
      ∀ mode, tree.node? l ≠ some (.directory mode) := by
  rw [renameTarget] at h
  split at h
  · cases h
  next hp =>
  split at h
  · cases h
  next name hlast =>
  rcases hfollow : tree.follow (tree.start p) p.target.dropLast with fault | dir
  · rw [hfollow] at h
    cases h
  rw [hfollow] at h
  rcases henter : tree.enter dir .search with fault | _
  · simp [henter] at h
  simp only [henter] at h
  split at h
  · cases h
  next hname =>
  split at h
  · cases h
  next hend =>
  split at h
  · cases h
  next hnot =>
  obtain rfl := Except.ok.inj h
  rw [not_or] at hname
  exact ⟨dir, name, hp, by simpa using hend, hlast, hname.1, hname.2, rfl, henter, rfl, hnot⟩

/-- A file that is renamed to a path gets the location that the path names. -/
lemma locate_of_renameTarget (h : tree.renameTarget p = .ok l) : tree.locate p = .ok l := by
  obtain ⟨dir, name, hp, hend, hlast, hdot, hdots, hfollow, henter, rfl, -⟩ := renameTarget_eq_ok h
  obtain ⟨names, last, hparts, hne⟩ := exists_parts_eq_concat hp hend
  have htarget := target_eq_of_parts hparts hne
  rw [htarget] at hlast hfollow
  obtain rfl : last = name := by simpa using hlast
  rw [List.dropLast_concat] at hfollow
  have haccess : stepAccess last = .search := if_neg hne
  have hstep : step dir last = dir ++ [last] := by
    rw [step, if_neg (by tauto), if_neg hdots]
  rw [locate, if_neg hp, hparts, follow_concat hfollow (haccess ▸ henter), hstep]

lemma not_directory_of_renameTarget (h : tree.renameTarget p = .ok l) :
    ∀ mode, tree.node? l ≠ some (.directory mode) := by
  obtain ⟨_, _, _, _, _, _, _, _, _, _, hnot⟩ := renameTarget_eq_ok h
  exact hnot

/-- **A file that is renamed** is found at its new path. -/
theorem holds_rename (hnode : tree.node? place = some (.file bytes mode))
    (h : tree.rename place p = .ok tree') : tree'.Holds p bytes := by
  rw [rename] at h
  rcases htarget : tree.renameTarget p with fault | target
  · rw [htarget] at h
    cases h
  · rw [htarget, hnode] at h
    obtain rfl : (tree.erase place).set target (.file bytes mode) = tree' := by simpa using h
    have hplace : ∀ m, tree.node? place ≠ some (.directory m) := by simp [hnode]
    have hfree : ∀ m, (tree.erase place).node? target ≠ some (.directory m) := by
      intro m
      rw [node?_erase (ne_nil_of_not_directory hplace)]
      split
      · exact fun h => nomatch h
      · exact not_directory_of_renameTarget htarget m
    have hkeeps := (keepsDirectories_erase hplace).trans
      (keepsDirectories_set hfree (.file bytes mode))
    refine ⟨target, mode, ?_⟩
    rw [lookup, hkeeps.locate (locate_of_renameTarget htarget)]
    dsimp only
    rw [node?_set (ne_nil_of_not_directory hfree), if_pos rfl]

/-! ### Replacing a file -/

lemma exists_node?_stage (h : place ≠ []) (tree : FileTree) (p : Path) (bytes : ByteArray) :
    ∃ mode, (tree.stage place p bytes).node? place = some (.file bytes mode) := by
  have hset : (tree.set place (.file bytes tree.newFileMode)).node? place =
      some (.file bytes tree.newFileMode) := by rw [node?_set h, if_pos rfl]
  rw [stage]
  split
  · exact ⟨_, hset⟩
  · next mode _ => exact ⟨mode, by rw [node?_setMode h, if_pos rfl, hset]; rfl⟩

/-- **The path of a file that was replaced leads to the new bytes.** -/
theorem holds_replace (h : tree.replace p bytes = (tree', .ok ())) : tree'.Holds p bytes := by
  rw [replace] at h
  rcases hdir : tree.parent p with fault | dir
  · rw [hdir] at h
    cases h
  · rw [hdir] at h
    dsimp only at h
    obtain ⟨mode, hstaged⟩ :=
      exists_node?_stage (List.concat_ne_nil (tree.unusedName p) dir) tree p bytes
    split at h
    · cases h
    · next renamed hrename =>
      obtain ⟨rfl, -⟩ := Prod.mk.inj h
      exact holds_rename hstaged hrename

end

end FileTree

end DrawStyle
