import DrawStyle.Proofs.Files.Writable
import DrawStyle.Proofs.Run.Outcome

/-!
Writing stylesheets one after the other.

A write that is refused changes nothing, and one that is not gives one file its text, so after any
number of writes each file holds the text of the last one that was not refused. Paths lead to the
same locations at all times, so a file is read by any path that leads to it.
-/

namespace DrawStyle

/-- A stylesheet that was to be written, and what came of it. -/
structure Attempt where
  path : Path
  text : Text
  result : Except RunError Unit

/-- The text that an attempt has written to the file at a location. -/
def Attempt.wrote? (tree : FileTree) (place : Location) (a : Attempt) : Option Text :=
  match a.result with
  | .ok () => if tree.locate a.path = .ok place then some a.text else none
  | .error _ => none

/-- The text that was last written to the file at a location. -/
def lastWritten (tree : FileTree) (place : Location) (attempts : List Attempt) : Option Text :=
  attempts.reverse.findSome? (Attempt.wrote? tree place)

/-- Tries to write stylesheets one after the other, whatever comes of each. -/
def World.writeAll (w : World) : List (Path × Text) → List Attempt × World
  | [] => ([], w)
  | (p, t) :: sheets =>
    let written := (writeStylesheet (m := StateM World) p t).run w
    let rest := writeAll written.2 sheets
    (⟨p, t, written.1⟩ :: rest.1, rest.2)

/-- Each file that was written holds the last text written to it and has the mode that it had, or
that of new files. All else is as it was, and paths lead where they led. -/
structure FileTree.LastWriteWins (tree tree' : FileTree) (attempts : List Attempt) : Prop where
  locate : ∀ q place, tree'.locate q = .ok place ↔ tree.locate q = .ok place
  privileged : tree'.privileged = tree.privileged
  written : ∀ place t, lastWritten tree place attempts = some t →
    tree'.node? place = some (.file (Text.encode t) (tree.modeAt place))
  others : ∀ place, lastWritten tree place attempts = none → tree'.node? place = tree.node? place

section

variable {tree tree₁ tree' : FileTree} {place : Location} {a : Attempt} {attempts : List Attempt}
  {p q : Path} {t : Text} {w w' : World} {sheets : List (Path × Text)} {e : RunError}

lemma lastWritten_cons : lastWritten tree place (a :: attempts) =
    (lastWritten tree place attempts).or (a.wrote? tree place) := by
  simp [lastWritten, List.findSome?_append]

lemma lastWritten_congr (h : ∀ q l, tree₁.locate q = .ok l ↔ tree.locate q = .ok l)
    (place : Location) (attempts : List Attempt) :
    lastWritten tree₁ place attempts = lastWritten tree place attempts := by
  have hwrote : Attempt.wrote? tree₁ place = Attempt.wrote? tree place := by
    funext ⟨p, t, result⟩
    rcases result with e | ⟨⟩
    · rfl
    · simp only [Attempt.wrote?, h]
  rw [lastWritten, hwrote, lastWritten]

namespace FileTree

/-! ### One write -/

lemma LastWriteWins.refl (tree : FileTree) : tree.LastWriteWins tree [] where
  locate _ _ := Iff.rfl
  privileged := rfl
  written _ _ h := by cases h
  others _ _ := rfl

lemma LastWriteWins.cons_error (h : tree.LastWriteWins tree' attempts) :
    tree.LastWriteWins tree' (⟨p, t, .error e⟩ :: attempts) where
  locate := h.locate
  privileged := h.privileged
  written place u hu := by
    rw [lastWritten_cons, Attempt.wrote?, Option.or_none] at hu
    exact h.written place u hu
  others place hnone := by
    rw [lastWritten_cons, Attempt.wrote?, Option.or_none] at hnone
    exact h.others place hnone

/-- A write that is not refused counts where nothing is written later. -/
lemma LastWriteWins.cons_ok (hlocate : tree.locate p = .ok place)
    (hover : tree.Overwritten tree₁ place (Text.encode t))
    (h : tree₁.LastWriteWins tree' attempts) :
    tree.LastWriteWins tree' (⟨p, t, .ok ()⟩ :: attempts) where
  locate q l := (h.locate q l).trans hover.locate_iff
  privileged := h.privileged.trans hover.privileged
  written l u hu := by
    rw [lastWritten_cons, Option.or_eq_some_iff, ← lastWritten_congr fun _ _ => hover.locate_iff]
      at hu
    rcases hu with hlater | ⟨hnone, hu⟩
    · rw [h.written l u hlater, hover.modeAt]
    · -- nothing is written later, so what is found is what was written first
      simp only [Attempt.wrote?, hlocate] at hu
      split at hu
      · next hl =>
        obtain rfl := Except.ok.inj hl
        obtain rfl := Option.some.inj hu
        rw [h.others place hnone, hover.file]
      · cases hu
  others l hnone := by
    rw [lastWritten_cons, Option.or_eq_none_iff, ← lastWritten_congr fun _ _ => hover.locate_iff]
      at hnone
    obtain ⟨hlater, hfirst⟩ := hnone
    rw [h.others l hlater, hover.others l]
    rintro rfl
    simp only [Attempt.wrote?, if_pos hlocate] at hfirst
    cases hfirst

end FileTree

/-! ### All writes -/

/-- A write fails and changes nothing, or gives the file to which its path leads its text. -/
theorem writeStylesheet_cases (w : World) (p : Path) (t : Text) :
    (∃ fault, ((writeStylesheet (m := StateM World) p t).run w).1 = .error (.write p fault) ∧
        ((writeStylesheet (m := StateM World) p t).run w).2.tree = w.tree) ∨
      ((writeStylesheet (m := StateM World) p t).run w).1 = .ok () ∧
        ∃ place, w.tree.locate p = .ok place ∧ w.tree.Overwritten
          ((writeStylesheet (m := StateM World) p t).run w).2.tree place (Text.encode t) := by
  have houtcome := hasOutcome_writeStylesheet p t w.tree
  rw [houtcome.run_fst, houtcome.run_snd]
  rcases hreplace : w.tree.replace p (Text.encode t) with ⟨tree', result⟩
  rcases FileTree.replace_cases hreplace with ⟨fault, rfl, rfl⟩ | ⟨rfl, hdone⟩
  · exact Or.inl ⟨fault, rfl, rfl⟩
  · exact Or.inr ⟨rfl, hdone⟩

lemma writeStylesheet_eq_ok_iff (w : World) (p : Path) (t : Text) :
    ((writeStylesheet (m := StateM World) p t).run w).1 = .ok () ↔
      ∃ place, w.tree.Writable p place := by
  rw [(hasOutcome_writeStylesheet p t w.tree).run_fst, mapError_eq_ok_iff,
    ← FileTree.replace_eq_ok_iff]
  exact ⟨fun h => ⟨_, Prod.ext rfl h⟩, fun ⟨_, h⟩ => congrArg Prod.snd h⟩

lemma tree_eq_of_writeStylesheet_error
    (h : (writeStylesheet (m := StateM World) p t).run w = (.error e, w')) : w'.tree = w.tree := by
  rcases writeStylesheet_cases w p t with ⟨fault, -, htree⟩ | ⟨hresult, -⟩
  · rwa [h] at htree
  · rw [h] at hresult
    cases hresult

theorem lastWriteWins_writeAll (w : World) (sheets : List (Path × Text)) :
    w.tree.LastWriteWins (w.writeAll sheets).2.tree (w.writeAll sheets).1 := by
  induction sheets generalizing w with
  | nil => exact .refl w.tree
  | cons sheet sheets ih =>
    obtain ⟨p, t⟩ := sheet
    have hrest := ih ((writeStylesheet (m := StateM World) p t).run w).2
    rw [World.writeAll]
    dsimp only
    rcases writeStylesheet_cases w p t with ⟨fault, hresult, htree⟩ | ⟨hresult, place, hlocate, hover⟩
    · rw [htree] at hrest
      rw [hresult]
      exact hrest.cons_error
    · rw [hresult]
      exact hrest.cons_ok hlocate hover

lemma map_writeAll (w : World) (sheets : List (Path × Text)) :
    (w.writeAll sheets).1.map (fun a => (a.path, a.text)) = sheets := by
  induction sheets generalizing w with
  | nil => rfl
  | cons sheet sheets ih => rw [World.writeAll, List.map_cons, ih]

/-! ### Reading -/

namespace FileTree

lemma readText_of_file {mode : ℕ} (hlocate : tree.locate p = .ok place)
    (hnode : tree.node? place = some (.file (Text.encode t) mode)) :
    tree.readText p =
      if tree.allows (.file (Text.encode t) mode) .read then .ok t else .error .denied := by
  rw [readText, read, lookup, hlocate]
  dsimp only
  rw [hnode]
  dsimp only
  rcases tree.allows (.file (Text.encode t) mode) .read with _ | _
  · rfl
  · simp [Text.decode?_encode]

lemma allows_congr (h : tree'.privileged = tree.privileged) (node : Node) (access : Access) :
    tree'.allows node access = tree.allows node access := by
  rw [allows, allows, h]

/-- What is read is known by what stands where the path leads. -/
lemma readText_congr (h : tree'.privileged = tree.privileged) (hlocate : tree.locate p = .ok place)
    (hlocate' : tree'.locate p = .ok place) (hnode : tree'.node? place = tree.node? place) :
    tree'.readText p = tree.readText p := by
  simp only [readText, read, lookup, hlocate, hlocate', hnode, allows_congr h]

end FileTree

lemma run_readStylesheet (w : World) (q : Path) :
    ((readStylesheet (m := StateM World) q).run w).1 = (w.tree.readText q).mapError (.read q) :=
  (hasOutcome_readStylesheet q w.tree).run_fst

end

/-- **The last write wins.** However many stylesheets are written in turn, by whatever paths, each
file that was written holds the text of the last write to it that was not refused; it keeps its
mode, and a new file has the mode of new files. All other files and directories are as they were,
and nothing else is new. Each path that leads to a file at the start leads to it in the end, and
reading by it gives the last text that was written there, if the mode of the file lets it be read,
and what it gave at the start if nothing was written there. A write is refused exactly if its path
cannot be written, and then it changes nothing. -/
theorem last_write_wins (w w' : World) (sheets : List (Path × Text)) (attempts : List Attempt)
    (h : w.writeAll sheets = (attempts, w')) :
    attempts.map (fun a => (a.path, a.text)) = sheets ∧
      w.tree.LastWriteWins w'.tree attempts ∧
      (∀ q place, w.tree.locate q = .ok place →
        (∀ t, lastWritten w.tree place attempts = some t →
          ((readStylesheet (m := StateM World) q).run w').1 =
            if w.tree.allows (.file (Text.encode t) (w.tree.modeAt place)) .read then .ok t
            else .error (.read q .denied)) ∧
        (lastWritten w.tree place attempts = none →
          ((readStylesheet (m := StateM World) q).run w').1 =
            ((readStylesheet (m := StateM World) q).run w).1)) ∧
      ∀ (v : World) (p : Path) (t : Text),
        (((writeStylesheet (m := StateM World) p t).run v).1 = .ok () ↔
          ∃ place, v.tree.Writable p place) ∧
        ∀ e v', (writeStylesheet (m := StateM World) p t).run v = (.error e, v') →
          v'.tree = v.tree := by
  have hwins := lastWriteWins_writeAll w sheets
  have hmap := map_writeAll w sheets
  rw [h] at hwins hmap
  refine ⟨hmap, hwins, fun q place hlocate => ⟨fun t ht => ?_, fun hnone => ?_⟩,
    fun v p t => ⟨writeStylesheet_eq_ok_iff v p t, fun e v' => tree_eq_of_writeStylesheet_error⟩⟩
  · rw [run_readStylesheet, FileTree.readText_of_file ((hwins.locate q place).mpr hlocate)
      (hwins.written place t ht), FileTree.allows_congr hwins.privileged]
    split
    · rfl
    · rfl
  · rw [run_readStylesheet, run_readStylesheet, FileTree.readText_congr hwins.privileged hlocate
      ((hwins.locate q place).mpr hlocate) (hwins.others place hnone)]

/-- A directory with a stylesheet that only its owner may read, and with a directory. -/
def draftWorld : World where
  tree := { nodes := [(["sub".toList], .directory 0o755),
    (["a.css".toList], .file (Text.encode "old".toList) 0o600)], home := [] }
  log := []

/-- Stylesheets for both spellings of a file, for a directory and for a new file. -/
def draftSheets : List (Path × Text) :=
  [("a.css", "first"), ("sub/../a.css", "second"), ("sub", "third"), ("./b.css", "fourth")].map
    fun (p, t) => (p.toList, t.toList)

theorem last_write_wins_spellings : ∃ attempts w',
    draftWorld.writeAll draftSheets = (attempts, w') ∧
      attempts.map (fun a => a.result.toOption) = [some (), some (), none, some ()] ∧
      ((readStylesheet (m := StateM World) "sub/./../a.css".toList).run w').1 =
        .ok "second".toList ∧
      w'.tree.node? ["a.css".toList] = some (.file (Text.encode "second".toList) 0o600) ∧
      w'.tree.node? ["b.css".toList] = some (.file (Text.encode "fourth".toList) 0o644) ∧
      w'.tree.node? ["sub".toList] = draftWorld.tree.node? ["sub".toList] := by
  obtain ⟨-, hwins, hread, -⟩ := last_write_wins draftWorld _ draftSheets _ rfl
  have hsecond : lastWritten draftWorld.tree ["a.css".toList] (draftWorld.writeAll draftSheets).1 =
      some "second".toList := by decide
  have hfourth : lastWritten draftWorld.tree ["b.css".toList] (draftWorld.writeAll draftSheets).1 =
      some "fourth".toList := by decide
  refine ⟨_, _, rfl, by decide, ?_, ?_, ?_, ?_⟩
  · exact (hread _ ["a.css".toList] rfl).1 _ hsecond
  · exact hwins.written _ _ hsecond
  · exact hwins.written _ _ hfourth
  · exact hwins.others _ (by decide)

/-- A directory with a stylesheet that may be replaced and not read. -/
def sealedWorld : World where
  tree :=
    { nodes := [(["a.css".toList], .file (Text.encode "old".toList) 0o200)], home := []
      privileged := false }
  log := []

/-- What was written last is not read where the mode of the file does not let it be read. -/
theorem lastWritten_unread : ∃ attempts w',
    sealedWorld.writeAll [("a.css".toList, "new".toList)] = (attempts, w') ∧
      lastWritten sealedWorld.tree ["a.css".toList] attempts = some "new".toList ∧
      ((readStylesheet (m := StateM World) "a.css".toList).run w').1.toOption = none :=
  ⟨_, _, rfl, by decide, by decide⟩

end DrawStyle
