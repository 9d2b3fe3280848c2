import DrawStyle.CommandLine.Execution
import DrawStyle.Proofs.CommandLine.Arguments
import DrawStyle.Proofs.Run.AllOrNothing
import DrawStyle.Proofs.Token.Entries

/-!
The program as a run with layered tokens.

What the program does with the arguments that it accepts is to read a table and to run its command
with it. The notes that it takes on the way and what it says of a failure change nothing in the
tree of files, and where no table can be read nothing is run.
-/

namespace DrawStyle.CommandLine

/-- The table with which the files of a directory are run: the built-in one, or the one that a
token file gives, in which the values of the file come before the built-in ones. -/
inductive TableFor (baseDir : Path) (w : World) : Option Path → TokenTable → Prop
  | builtIn : TableFor baseDir w none .drawingDefaults
  | layered {file : Path} {custom table : TokenTable} {w' : World}
      (load : (loadTable (m := StateM World) (baseDir.join file)).run w = (.ok custom, w'))
      (get : ∀ name,
        table.get? name = (custom.get? name).or (TokenTable.drawingDefaults.get? name)) :
      TableFor baseDir w (some file) table

/-- The run for which a command stands, on the files of a directory. -/
def Command.runIn (command : Command) (baseDir : Path) (table : TokenTable)
    (keepDuplicates : Bool) : ExceptT RunError (StateM World) Report :=
  match command with
  | build => runSingle { baseDir } table
  | merge => runMerge { baseDir } table <|
      if keepDuplicates then ({} : Cleaner).keepDuplicates else {}

section

variable {command : Command} {options : Options} {w w' : World}

/-! ### Runs -/

/-- A run comes to the same whatever the messages so far, and leaves the tree as it was where it
fails. -/
lemma exists_hasOutcome_runIn (command : Command) (baseDir : Path) (table : TokenTable)
    (keepDuplicates : Bool) (tree : FileTree) :
    ∃ outcome, HasOutcome (command.runIn baseDir table keepDuplicates) tree outcome ∧
      ∀ e, outcome.1 = .error e → outcome.2 = tree := by
  cases command with
  | build =>
    exact ⟨_, hasOutcome_runSingle _ _ tree,
      fun e he => ((allOrNothing_singleOutcome rfl).failed e he).1⟩
  | merge =>
    exact ⟨_, hasOutcome_runMerge _ _ _ tree,
      fun e he => ((allOrNothing_mergeOutcome rfl).failed e he).1⟩

lemma run_whileDoing {α : Type} (doing : Text) (x : ExceptT RunError (StateM World) α)
    (w : World) :
    (whileDoing doing x).run w = ((x.run w).1.mapError (Failure.mk doing), (x.run w).2) := rfl

/-- Steps that change no file change none one after the other, before something is given. -/
lemma exists_run_forM_pure {α β : Type} {step : β → ExceptT Failure (StateM World) Unit}
    (h : ∀ b w, ∃ w', (step b).run w = (.ok (), w') ∧ w'.tree = w.tree) (a : α) (bs : List β)
    (w : World) :
    ∃ w', (bs.forM step >>= fun _ => pure a).run w = (.ok a, w') ∧ w'.tree = w.tree := by
  induction bs generalizing w with
  | nil => exact ⟨w, rfl, rfl⟩
  | cons b bs ih =>
    obtain ⟨w₁, hstep, htree₁⟩ := h b w
    obtain ⟨w₂, hsteps, htree₂⟩ := ih w₁
    refine ⟨w₂, ?_, htree₂.trans htree₁⟩
    have hcons : (b :: bs).forM step = step b >>= fun _ => bs.forM step := rfl
    rw [hcons, bind_assoc, run_bind, hstep]
    exact hsteps

/-! ### Tables -/

lemma tree_of_run_loadTable {p : Path} {result : Except RunError TokenTable}
    (h : (loadTable (m := StateM World) p).run w = (result, w')) : w'.tree = w.tree := by
  have houtcome := (hasOutcome_loadTable p w.tree).eq_of_run h
  have htree : (w.tree.loadOutcome p).2 = w.tree := by
    rw [FileTree.loadOutcome]
    split
    · rfl
    · rfl
  rw [houtcome] at htree
  exact htree

/-- **Reading the tokens** gives the table for the run, if there is one, and changes no file. -/
theorem exists_run_loadTokens (baseDir : Path) (tokens : Option Path) (w : World) :
    ∃ result w', (loadTokens (m := StateM World) baseDir tokens).run w = (result, w') ∧
      w'.tree = w.tree ∧ ∀ table, TableFor baseDir w tokens table ↔ result = .ok table := by
  rcases tokens with _ | file
  · refine ⟨.ok .drawingDefaults, w, rfl, rfl, fun table => ?_⟩
    constructor
    · rintro ⟨⟩
      rfl
    · rintro ⟨⟩
      exact .builtIn
  · rcases hload : (loadTable (m := StateM World) (baseDir.join file)).run w with ⟨e | custom, w₁⟩
    · refine ⟨.error ⟨"loading tokens from ".toList ++ baseDir.join file, e⟩, w₁, ?_,
        tree_of_run_loadTable hload, fun table => ?_⟩
      · rw [loadTokens, run_bind, run_whileDoing, hload]
        rfl
      · constructor
        · rintro ⟨⟩
          next hother _ =>
            rw [hload] at hother
            cases hother
        · intro h
          cases h
    · obtain ⟨w₂, hrun, htree⟩ : ∃ w₂, (loadTokens (m := StateM World) baseDir (some file)).run w =
          (.ok (TokenTable.drawingDefaults.extend custom), w₂) ∧ w₂.tree = w₁.tree := by
        rw [loadTokens, run_bind, run_whileDoing, hload]
        refine exists_run_forM_pure ?_ _ custom.entries w₁
        exact fun _ _ => ⟨_, rfl, rfl⟩
      refine ⟨_, w₂, hrun, htree.trans (tree_of_run_loadTable hload), fun table => ?_⟩
      constructor
      · rintro ⟨⟩
        next hother hget =>
          rw [hload] at hother
          cases hother
          refine congrArg Except.ok (TokenTable.ext_get? fun name => ?_)
          rw [TokenTable.get?_extend, hget]
      · rintro ⟨⟩
        exact .layered hload fun name => TokenTable.get?_extend _ _ name

/-! ### Commands -/

lemma runCommand_eq (command : Command) (options : Options) (baseDir : Path) :
    runCommand (m := StateM World) command options baseDir =
      loadTokens baseDir options.tokens >>= fun table =>
        whileDoing (command.name ++ " failed in ".toList ++ baseDir)
          (command.runIn baseDir table options.keepDuplicates) := by
  cases command with
  | build => rfl
  | merge =>
    have hcleaner : ({ dedupeLines := !options.keepDuplicates } : Cleaner) =
        if options.keepDuplicates then ({} : Cleaner).keepDuplicates else {} := by
      cases options.keepDuplicates <;> rfl
    simp only [runCommand, Command.runIn, hcleaner]

/-- **Running a command** is its run with the table that is read, if there is one; where there is
none, or the run fails, the tree is left as it was. -/
theorem exists_run_runCommand (command : Command) (options : Options) (baseDir : Path)
    (w : World) :
    ∃ result w', (runCommand (m := StateM World) command options baseDir).run w = (result, w') ∧
      ((∃ report, result = .ok report) ↔
        ∃ table report w'', TableFor baseDir w options.tokens table ∧
          (command.runIn baseDir table options.keepDuplicates).run w = (.ok report, w'')) ∧
      (∀ table r w'', TableFor baseDir w options.tokens table →
        (command.runIn baseDir table options.keepDuplicates).run w = (r, w'') →
          w'.tree = w''.tree) ∧
      ∀ failure, result = .error failure → w'.tree = w.tree := by
  obtain ⟨loaded, w₁, hload, htree, htable⟩ := exists_run_loadTokens baseDir options.tokens w
  rw [runCommand_eq, run_bind, hload]
  rcases loaded with failure | table
  · have hnone : ∀ table, ¬ TableFor baseDir w options.tokens table := fun table ht => by
      cases (htable table).mp ht
    refine ⟨.error failure, w₁, rfl, ?_, fun table _ _ ht => absurd ht (hnone table),
      fun _ _ => htree⟩
    constructor
    · rintro ⟨_, h⟩
      cases h
    · rintro ⟨table, _, _, ht, -⟩
      exact absurd ht (hnone table)
  · obtain ⟨⟨result, tree'⟩, hout, hfailed⟩ :=
      exists_hasOutcome_runIn command baseDir table options.keepDuplicates w.tree
    obtain ⟨tree, log⟩ := w₁
    obtain rfl : tree = w.tree := htree
    obtain ⟨log', hrun⟩ := hout log
    -- the table is the one that is read, and the run comes to the same without the notes
    have heq : ∀ table' r w'', TableFor baseDir w options.tokens table' →
        (command.runIn baseDir table' options.keepDuplicates).run w = (r, w'') →
          result = r ∧ tree' = w''.tree := by
      intro table' r w'' ht hr
      cases (htable table').mp ht
      exact Prod.mk.inj (hout.eq_of_run hr)
    refine ⟨result.mapError (Failure.mk (command.name ++ " failed in ".toList ++ baseDir)),
      ⟨tree', log'⟩, ?_, ?_, fun table' r w'' ht hr => (heq table' r w'' ht hr).2, ?_⟩
    · dsimp only
      rw [run_whileDoing, hrun]
    · constructor
      · rintro ⟨report, hreport⟩
        rcases result with e | report'
        · cases hreport
        · obtain ⟨log'', hrun'⟩ := hout w.log
          exact ⟨table, report', _, (htable table).mpr rfl, hrun'⟩
      · rintro ⟨table', report, w'', ht, hr⟩
        rw [(heq table' _ w'' ht hr).1]
        exact ⟨report, rfl⟩
    · intro failure hfailure
      rcases result with e | report
      · exact hfailed e rfl
      · cases hfailure

/-! ### The program -/

lemma tree_noteUnresolved (names : List Text) (w : World) :
    ((noteUnresolved (m := StateM World) names).run w).2.tree = w.tree := by
  rw [noteUnresolved]
  split
  · rfl
  · rfl

section Execute

variable {args : List Text} (h : readArguments args = .ok (.run command options))
  (programDir : Path)

include h

lemma run_execute_of_error {failure : Failure}
    (hrun : (runCommand (m := StateM World) command options (options.dir.getD programDir)).run w =
      (.error failure, w')) :
    (execute (m := StateM World) programDir args).run w = (.failed failure, w') := by
  have hstep : StateT.run (runCommand (m := StateM World) command options
      (options.dir.getD programDir)).run w = (.error failure, w') := hrun
  rw [execute, h]
  simp only [StateT.run_bind, hstep]
  rfl

lemma run_execute_of_ok {report : Report}
    (hrun : (runCommand (m := StateM World) command options (options.dir.getD programDir)).run w =
      (.ok report, w')) :
    (execute (m := StateM World) programDir args).run w =
      (.done, ((noteUnresolved (m := StateM World) report.unresolved).run w').2) := by
  have hstep : StateT.run (runCommand (m := StateM World) command options
      (options.dir.getD programDir)).run w = (.ok report, w') := hrun
  rw [execute, h]
  simp only [StateT.run_bind, hstep]
  rfl

end Execute

end

/-- **The program is a run with layered tokens.** The options are those that the arguments give.
The program ends with the exit code 0 exactly if there is a table for the run, so the token file
can be read where one is given, and the run with it succeeds; the tree of files is then the one
that the run leaves. Otherwise it ends with the exit code 1, and the tree is as it was. -/
theorem execute_run (programDir : Path) (args : List Text) (command : Command) (options : Options)
    (w w' : World) (outcome : Outcome)
    (hargs : readArguments args = .ok (.run command options))
    (hexecute : (execute (m := StateM World) programDir args).run w = (outcome, w')) :
    Asks args command options ∧
      (outcome.code = 0 ↔ ∃ table report w'',
        TableFor (options.dir.getD programDir) w options.tokens table ∧
          (command.runIn (options.dir.getD programDir) table options.keepDuplicates).run w =
            (.ok report, w'')) ∧
      (∀ table result w'', TableFor (options.dir.getD programDir) w options.tokens table →
        (command.runIn (options.dir.getD programDir) table options.keepDuplicates).run w =
          (result, w'') → w'.tree = w''.tree) ∧
      (outcome.code ≠ 0 → outcome.code = 1 ∧ w'.tree = w.tree) := by
  refine ⟨asks_of_readArguments hargs, ?_⟩
  obtain ⟨result, w₁, hrun, hgood, htree, hbad⟩ :=
    exists_run_runCommand command options (options.dir.getD programDir) w
  rcases result with failure | report
  · rw [run_execute_of_error hargs programDir hrun] at hexecute
    obtain ⟨rfl, rfl⟩ := Prod.mk.inj hexecute
    refine ⟨?_, htree, fun _ => ⟨rfl, hbad failure rfl⟩⟩
    rw [← hgood]
    constructor
    · intro h
      cases h
    · rintro ⟨_, h⟩
      cases h
  · rw [run_execute_of_ok hargs programDir hrun] at hexecute
    obtain ⟨rfl, rfl⟩ := Prod.mk.inj hexecute
    have hsame := tree_noteUnresolved report.unresolved w₁
    refine ⟨?_, fun table r w'' ht hr => hsame.trans (htree table r w'' ht hr),
      fun h => absurd rfl h⟩
    rw [← hgood]
    exact ⟨fun _ => ⟨report, rfl⟩, fun _ => rfl⟩

/-- A directory with the two stylesheets and a token file. -/
def drawingWorld (base override tokens : Text) : World where
  tree :=
    { nodes := [
        (["default_RAW.css".toList], .file (Text.encode base) 0o644),
        (["default_DK_RAW.css".toList], .file (Text.encode override) 0o644),
        (["t.json".toList], .file (Text.encode tokens) 0o644)]
      home := [] }
  log := []

/-- The table that the token file `{"t1":"1px"}` gives. -/
def thinTable : TokenTable := ⟨[("--t1".toList, "1px".toList)], List.pairwise_singleton _ _⟩

theorem execute_run_token_files :
    (∃ outcome w', (execute (m := StateM World) [] ["build".toList, "-d.".toList,
          "--tokens".toList, "t.json".toList]).run
            (drawingWorld [] "w: var(--t1)".toList "\x7b\"t1\":\"1px\"\x7d".toList) =
              (outcome, w') ∧
        outcome.code = 0 ∧
        (w'.tree.readText "default_DK.css".toList).toOption = some "w: 1px".toList) ∧
      ∃ outcome w', (execute (m := StateM World) ['.'] ["merge".toList, "-t=t.json".toList,
          keepDuplicatesFlag]).run (drawingWorld [] [] ['\x7b']) = (outcome, w') ∧
        outcome.code = 1 ∧ w'.tree = (drawingWorld [] [] ['\x7b']).tree := by
  constructor
  · obtain ⟨w, hw⟩ : ∃ w, w =
        drawingWorld [] "w: var(--t1)".toList "\x7b\"t1\":\"1px\"\x7d".toList := ⟨_, rfl⟩
    obtain ⟨outcome, w', hexecute⟩ : ∃ outcome w', (execute (m := StateM World) []
        ["build".toList, "-d.".toList, "--tokens".toList, "t.json".toList]).run w =
          (outcome, w') := ⟨_, _, rfl⟩
    have hargs : readArguments ["build".toList, "-d.".toList, "--tokens".toList,
        "t.json".toList] =
          .ok (.run .build { dir := some ['.'], tokens := some "t.json".toList }) := rfl
    obtain ⟨-, hcode, htree, -⟩ := execute_run _ _ _ _ _ w' outcome hargs hexecute
    have hparse : TokenTable.parse "\x7b\"t1\":\"1px\"\x7d".toList = .ok thinTable := by
      have hsome : (TokenTable.parse "\x7b\"t1\":\"1px\"\x7d".toList).toOption =
          some thinTable := by decide +kernel
      rcases hresult : TokenTable.parse "\x7b\"t1\":\"1px\"\x7d".toList with fault | table
      · rw [hresult] at hsome
        cases hsome
      · rw [hresult] at hsome
        exact congrArg Except.ok (Option.some.inj hsome)
    obtain ⟨w₁, hload⟩ := (loadTable_eq_ok_iff (p := "./t.json".toList) (w := w)).mpr
      ⟨_, by rw [hw]; rfl, hparse⟩
    have ht : TableFor ['.'] w (some "t.json".toList)
        (TokenTable.drawingDefaults.extend thinTable) :=
      .layered hload fun name => TokenTable.get?_extend _ _ name
    have hout := hasOutcome_runSingle { baseDir := ['.'] }
      (TokenTable.drawingDefaults.extend thinTable) w.tree
    obtain ⟨report, w₂, hrun, -⟩ :=
      hout.exists_run (g := Report.substitutions) (b := 1) (by rw [hw]; decide +kernel)
    refine ⟨outcome, w', hw ▸ hexecute, hcode.mpr ⟨_, report, w₂, ht, hrun⟩, ?_⟩
    have hafter : (w.tree.singleOutcome { baseDir := ['.'] }
        (TokenTable.drawingDefaults.extend thinTable)).2 = w₂.tree :=
      congrArg Prod.snd (hout.eq_of_run hrun)
    rw [htree _ _ w₂ ht hrun, ← hafter, hw]
    decide +kernel
  · obtain ⟨outcome, w', hexecute⟩ : ∃ outcome w', (execute (m := StateM World) ['.']
        ["merge".toList, "-t=t.json".toList, keepDuplicatesFlag]).run
          (drawingWorld [] [] ['\x7b']) = (outcome, w') := ⟨_, _, rfl⟩
    have hargs : readArguments ["merge".toList, "-t=t.json".toList, keepDuplicatesFlag] =
        .ok (.run .merge { tokens := some "t.json".toList, keepDuplicates := true }) := rfl
    obtain ⟨-, hcode, -, hfailed⟩ := execute_run _ _ _ _ _ w' outcome hargs hexecute
    have hbad : outcome.code ≠ 0 := by
      intro h
      obtain ⟨table, -, -, ht, -⟩ := hcode.mp h
      cases ht with
      | layered load get =>
        obtain ⟨file, hread, hparse⟩ := loadTable_eq_ok_iff.mp ⟨_, load⟩
        have hfile : (drawingWorld [] [] ['\x7b']).tree.readText "./t.json".toList =
            .ok ['\x7b'] := FileTree.readText_eq_ok_iff.mpr rfl
        obtain rfl := Except.ok.inj (hfile.symm.trans (FileTree.readText_eq_ok_iff.mpr hread))
        have hnone : (TokenTable.parse ['\x7b']).toOption = none := by decide +kernel
        rw [hparse] at hnone
        cases hnone
    exact ⟨outcome, w', hexecute, hfailed hbad⟩

end DrawStyle.CommandLine
