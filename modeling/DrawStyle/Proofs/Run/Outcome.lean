import DrawStyle.Run
import DrawStyle.Proofs.Files.Replace
import DrawStyle.Proofs.Text.Encoding

/-!
What runs give, and what they leave of a tree of files.

Nothing that is done depends on the messages so far. So a run in a tree of files has an outcome,
its result with the tree that it leaves, and the outcome of a run is found by that of its steps.
-/

namespace DrawStyle

/-- A result, and the tree in which it is given. -/
abbrev RunOutcome (α : Type) := Except RunError α × FileTree

/-- What is done in a tree has the given outcome, whatever the messages so far. -/
def HasOutcome {α : Type} (x : ExceptT RunError (StateM World) α) (tree : FileTree)
    (outcome : RunOutcome α) : Prop :=
  ∀ log, ∃ log', x.run ⟨tree, log⟩ = (outcome.1, ⟨outcome.2, log'⟩)

namespace FileTree

/-- The text of the file to which a path leads. -/
def readText (tree : FileTree) (p : Path) : Except FileFault Text :=
  match tree.read p with
  | .error fault => .error fault
  | .ok bytes =>
    match Text.decode? bytes with
    | none => .error .notText
    | some t => .ok t

lemma readText_eq_ok_iff {tree : FileTree} {p : Path} {t : Text} :
    tree.readText p = .ok t ↔ tree.read p = .ok (Text.encode t) := by
  rw [readText]
  rcases tree.read p with fault | bytes
  · simp
  · dsimp only
    rw [Except.ok.injEq, ← Text.decode?_eq_some_iff]
    rcases Text.decode? bytes with _ | u
    · simp
    · simp

/-- What reading a token file comes to. -/
def loadOutcome (tree : FileTree) (p : Path) : RunOutcome TokenTable :=
  match tree.readText p with
  | .error fault => (.error (.read p fault), tree)
  | .ok t => ((TokenTable.parse t).mapError (.tokenFile p), tree)

/-- Replaces the output of a report, and gives the report if that can be done. -/
def emit (tree : FileTree) (t : Text) (report : Report) : RunOutcome Report :=
  match tree.replace report.output (Text.encode t) with
  | (tree, .error fault) => (.error (.write report.output fault), tree)
  | (tree, .ok ()) => (.ok report, tree)

/-- What a single run comes to. -/
def singleOutcome (tree : FileTree) (layout : Layout) (table : TokenTable) : RunOutcome Report :=
  match tree.readText layout.singleInputPath with
  | .error fault => (.error (.read layout.singleInputPath fault), tree)
  | .ok source =>
    let resolution := table.resolution source
    tree.emit resolution.text
      { output := layout.outputPath
        bytes := resolution.text.byteSize
        substitutions := resolution.replaced
        unresolved := resolution.unresolved
        overridden := [] }

/-- What a merge run comes to. -/
def mergeOutcome (tree : FileTree) (layout : Layout) (table : TokenTable) (cleaner : Cleaner) :
    RunOutcome Report :=
  match tree.readText layout.mergeBasePath with
  | .error fault => (.error (.read layout.mergeBasePath fault), tree)
  | .ok base =>
    match tree.readText layout.mergeOverridePath with
    | .error fault => (.error (.read layout.mergeOverridePath fault), tree)
    | .ok override =>
      let merged := merge base override
      let resolution := table.resolution merged.text
      let cleaned := cleaner.clean resolution.text
      tree.emit cleaned
        { output := layout.outputPath
          bytes := cleaned.byteSize
          substitutions := resolution.replaced
          unresolved := resolution.unresolved
          overridden := merged.replaced }

lemma mergeOutcome_of_readText {tree : FileTree} {layout : Layout} {base override : Text}
    {table : TokenTable} {cleaner : Cleaner}
    (hbase : tree.readText layout.mergeBasePath = .ok base)
    (hoverride : tree.readText layout.mergeOverridePath = .ok override) :
    tree.mergeOutcome layout table cleaner =
      tree.emit (cleaner.clean (table.resolve (merge base override).text))
        { output := layout.outputPath
          bytes := (cleaner.clean (table.resolve (merge base override).text)).byteSize
          substitutions := (table.resolution (merge base override).text).replaced
          unresolved := (table.resolution (merge base override).text).unresolved
          overridden := (merge base override).replaced } := by
  rw [mergeOutcome, hbase, hoverride]
  rfl

end FileTree

section

variable {α β : Type} {x : ExceptT RunError (StateM World) α}
  {f : α → ExceptT RunError (StateM World) β} {tree tree' : FileTree}

lemma HasOutcome.eq_of_run {outcome : RunOutcome α} {r : Except RunError α} {w w' : World}
    (h : HasOutcome x w.tree outcome) (hrun : x.run w = (r, w')) : outcome = (r, w'.tree) := by
  obtain ⟨log', h⟩ := h w.log
  obtain ⟨rfl, rfl⟩ := Prod.mk.inj (h.symm.trans hrun)
  rfl

lemma HasOutcome.run_fst {outcome : RunOutcome α} {w : World} (h : HasOutcome x w.tree outcome) :
    (x.run w).1 = outcome.1 :=
  (congrArg Prod.fst (h.eq_of_run rfl)).symm

lemma HasOutcome.run_snd {outcome : RunOutcome α} {w : World} (h : HasOutcome x w.tree outcome) :
    (x.run w).2.tree = outcome.2 :=
  (congrArg Prod.snd (h.eq_of_run rfl)).symm

lemma mapError_eq_ok_iff {ε ε' : Type} {result : Except ε α} {g : ε → ε'} {a : α} :
    result.mapError g = .ok a ↔ result = .ok a := by
  rcases result with e | b
  · simp [Except.mapError]
  · simp [Except.mapError]

lemma exists_run_iff {result : Except RunError α} {w : World} :
    (∃ w', x.run w = (result, w')) ↔ (x.run w).1 = result :=
  ⟨fun ⟨_, h⟩ => congrArg Prod.fst h, fun h => ⟨_, Prod.ext h rfl⟩⟩

/-- A run in a world with the tree ends well if the outcome is good. -/
lemma HasOutcome.exists_run {outcome : RunOutcome α} {w : World} {g : α → β} {b : β}
    (h : HasOutcome x w.tree outcome) (hgood : outcome.1.toOption.map g = some b) :
    ∃ a w', x.run w = (.ok a, w') ∧ g a = b := by
  obtain ⟨result, after⟩ := outcome
  obtain ⟨log', h⟩ := h w.log
  rcases result with e | a
  · cases hgood
  · exact ⟨a, ⟨after, log'⟩, h, Option.some.inj hgood⟩

/-! ### One step after the other -/

lemma hasOutcome_pure (a : α) (tree : FileTree) : HasOutcome (pure a) tree (.ok a, tree) :=
  fun log => ⟨log, rfl⟩

lemma hasOutcome_throw (e : RunError) (tree : FileTree) :
    HasOutcome (throw e : ExceptT RunError (StateM World) α) tree (.error e, tree) :=
  fun log => ⟨log, rfl⟩

lemma run_bind {ε : Type} (x : ExceptT ε (StateM World) α)
    (f : α → ExceptT ε (StateM World) β) (w : World) :
    (x >>= f).run w = match x.run w with
      | (.ok a, w') => (f a).run w'
      | (.error e, w') => (.error e, w') := by
  have hstep : (x >>= f).run w = ExceptT.bindCont f (x.run w).1 (x.run w).2 := rfl
  rw [hstep]
  rcases x.run w with ⟨e | a, w'⟩
  · rfl
  · rfl

lemma HasOutcome.bind {a : α} {outcome : RunOutcome β} (hx : HasOutcome x tree (.ok a, tree'))
    (hf : HasOutcome (f a) tree' outcome) : HasOutcome (x >>= f) tree outcome := by
  intro log
  obtain ⟨log', hx⟩ := hx log
  rw [run_bind, hx]
  exact hf log'

lemma HasOutcome.bind_error {e : RunError} (hx : HasOutcome x tree (.error e, tree')) :
    HasOutcome (x >>= f) tree (.error e, tree') := by
  intro log
  obtain ⟨log', hx⟩ := hx log
  rw [run_bind, hx]
  exact ⟨log', rfl⟩

lemma hasOutcome_forM {step : β → ExceptT RunError (StateM World) Unit}
    (h : ∀ b, HasOutcome (step b) tree (.ok (), tree)) (bs : List β) :
    HasOutcome (bs.forM step) tree (.ok (), tree) := by
  induction bs with
  | nil => exact hasOutcome_pure () tree
  | cons b bs ih => exact (h b).bind ih

/-! ### Messages and files -/

lemma hasOutcome_note (level : Level) (topic : Topic) (message : Text) (tree : FileTree) :
    HasOutcome (note level topic message) tree (.ok (), tree) :=
  fun log => ⟨log ++ [⟨level, topic, message⟩], rfl⟩

lemma hasOutcome_resolveNoting (table : TokenTable) (t : Text) (tree : FileTree) :
    HasOutcome (resolveNoting table t) tree (.ok (table.resolution t), tree) :=
  (hasOutcome_forM (fun _ => hasOutcome_note _ _ _ tree) _).bind (hasOutcome_pure _ tree)

lemma hasOutcome_mergeNoting (base override : Text) (tree : FileTree) :
    HasOutcome (mergeNoting base override) tree (.ok (merge base override), tree) := by
  have hnotes := fun level topic (message : Text → Text) =>
    hasOutcome_forM fun name => hasOutcome_note level topic (message name) tree
  exact (hnotes _ _ _ _).bind ((hnotes _ _ _ _).bind (hasOutcome_pure _ tree))

lemma hasOutcome_read (p : Path) (tree : FileTree) :
    HasOutcome (ExceptT.lift (Host.read p)) tree (.ok (tree.read p), tree) :=
  fun log => ⟨log, rfl⟩

lemma hasOutcome_replace (p : Path) (bytes : ByteArray) (tree : FileTree) :
    HasOutcome (ExceptT.lift (Host.replace p bytes)) tree
      (.ok (tree.replace p bytes).2, (tree.replace p bytes).1) :=
  fun log => ⟨log, rfl⟩

lemma hasOutcome_readText (p : Path) (tree : FileTree) :
    HasOutcome (readText p) tree ((tree.readText p).mapError (.read p), tree) := by
  refine (hasOutcome_read p tree).bind ?_
  rw [FileTree.readText]
  rcases tree.read p with fault | bytes
  · exact hasOutcome_throw _ tree
  · dsimp only
    rcases Text.decode? bytes with _ | t
    · exact hasOutcome_throw _ tree
    · exact hasOutcome_pure t tree

lemma hasOutcome_readStylesheet (p : Path) (tree : FileTree) :
    HasOutcome (readStylesheet p) tree ((tree.readText p).mapError (.read p), tree) := by
  have htext := hasOutcome_readText p tree
  rcases hread : tree.readText p with fault | t
  · rw [hread] at htext
    exact htext.bind_error
  · rw [hread] at htext
    exact htext.bind ((hasOutcome_note _ _ _ tree).bind (hasOutcome_pure t tree))

/-- **What reading a token file comes to** is found by reading its text. -/
theorem hasOutcome_loadTable (p : Path) (tree : FileTree) :
    HasOutcome (loadTable p) tree (tree.loadOutcome p) := by
  have htext := hasOutcome_readText p tree
  rw [FileTree.loadOutcome]
  rcases hread : tree.readText p with fault | t
  · rw [hread] at htext
    exact htext.bind_error
  · rw [hread] at htext
    refine htext.bind ?_
    dsimp only
    rcases TokenTable.parse t with fault | table
    · exact hasOutcome_throw _ tree
    · exact hasOutcome_pure table tree

/-- A token file is read if its bytes are those of a text that can be parsed. -/
lemma fst_run_loadTable_eq_ok_iff {p : Path} {table : TokenTable} {w : World} :
    ((loadTable (m := StateM World) p).run w).1 = .ok table ↔
      ∃ file, w.tree.read p = .ok (Text.encode file) ∧ TokenTable.parse file = .ok table := by
  rw [(hasOutcome_loadTable p w.tree).run_fst]
  simp only [FileTree.loadOutcome, ← FileTree.readText_eq_ok_iff]
  rcases w.tree.readText p with fault | t
  · simp
  · simp [mapError_eq_ok_iff]

lemma loadTable_eq_ok_iff {p : Path} {table : TokenTable} {w : World} :
    (∃ w', (loadTable (m := StateM World) p).run w = (.ok table, w')) ↔
      ∃ file, w.tree.read p = .ok (Text.encode file) ∧ TokenTable.parse file = .ok table :=
  exists_run_iff.trans fst_run_loadTable_eq_ok_iff

/-- **What writing a stylesheet comes to** is found by replacing the file. -/
theorem hasOutcome_writeStylesheet (p : Path) (t : Text) (tree : FileTree) :
    HasOutcome (writeStylesheet p t) tree
      ((tree.replace p (Text.encode t)).2.mapError (.write p),
        (tree.replace p (Text.encode t)).1) := by
  refine (hasOutcome_replace _ _ tree).bind ?_
  rcases (tree.replace p (Text.encode t)).2 with fault | _
  · exact hasOutcome_throw _ _
  · exact hasOutcome_note _ _ _ _

lemma hasOutcome_emit {p : Path} {report : Report} (hp : report.output = p) (t message : Text)
    (tree : FileTree) :
    HasOutcome (do
      writeStylesheet p t
      note .info .running message
      pure report) tree (tree.emit t report) := by
  subst hp
  have hwrite := hasOutcome_writeStylesheet report.output t tree
  rw [FileTree.emit]
  rcases hreplace : tree.replace report.output (Text.encode t) with ⟨tree', fault | _⟩
  · rw [hreplace] at hwrite
    exact hwrite.bind_error
  · rw [hreplace] at hwrite
    exact hwrite.bind ((hasOutcome_note _ _ _ _).bind (hasOutcome_pure report _))

/-! ### The runs -/

/-- **What a single run comes to** is found by reading its source and replacing its output. -/
theorem hasOutcome_runSingle (layout : Layout) (table : TokenTable) (tree : FileTree) :
    HasOutcome (runSingle layout table) tree (tree.singleOutcome layout table) := by
  have hsource := hasOutcome_readStylesheet layout.singleInputPath tree
  rw [FileTree.singleOutcome]
  rcases hread : tree.readText layout.singleInputPath with fault | source
  · rw [hread] at hsource
    exact hsource.bind_error
  · rw [hread] at hsource
    dsimp only
    refine hsource.bind <| (hasOutcome_resolveNoting table source tree).bind <|
      hasOutcome_emit ?_ _ _ tree
    rfl

/-- **What a merge run comes to** is found by reading its sources, the base first, and replacing
its output. -/
theorem hasOutcome_runMerge (layout : Layout) (table : TokenTable) (cleaner : Cleaner)
    (tree : FileTree) :
    HasOutcome (runMerge layout table cleaner) tree (tree.mergeOutcome layout table cleaner) := by
  have hbase := hasOutcome_readStylesheet layout.mergeBasePath tree
  have hoverride := hasOutcome_readStylesheet layout.mergeOverridePath tree
  rw [FileTree.mergeOutcome]
  rcases hreadBase : tree.readText layout.mergeBasePath with fault | base
  · rw [hreadBase] at hbase
    exact hbase.bind_error
  · rw [hreadBase] at hbase
    dsimp only
    rcases hreadOverride : tree.readText layout.mergeOverridePath with fault | override
    · rw [hreadOverride] at hoverride
      exact hbase.bind hoverride.bind_error
    · rw [hreadOverride] at hoverride
      dsimp only
      refine hbase.bind <| hoverride.bind <| (hasOutcome_mergeNoting base override tree).bind <|
        (hasOutcome_resolveNoting table (merge base override).text tree).bind <|
          hasOutcome_emit ?_ _ _ tree
      rfl

end

end DrawStyle
