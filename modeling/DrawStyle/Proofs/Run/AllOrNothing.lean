import DrawStyle.Proofs.Files.Frame
import DrawStyle.Proofs.Run.Outcome
import DrawStyle.Proofs.Text.Encoding
import DrawStyle.Proofs.Token.Reference

/-!
What runs leave of a tree when they fail, and when they do not.

A run reads all of its sources before it replaces its output, and a replacement is all or
nothing. So a run fails and leaves the tree as it was, or it writes one file. What is written
there is made of the sources as they were before, also where one of them is the output.
-/

namespace DrawStyle

/-- A run leaves the tree as it was or writes one file. `unread p fault` says that `p` is the first
source that cannot be read, and `made t` that the sources give the text `t`. -/
structure AllOrNothing (unread : Path → FileFault → Prop) (made : Text → Prop) (out : Path)
    (tree tree' : FileTree) (result : Except RunError Report) : Prop where
  failed : ∀ e, result = .error e →
    tree' = tree ∧ ((∃ p fault, e = .read p fault) ∨ ∃ fault, e = .write out fault)
  unread : ∀ p fault, result = .error (.read p fault) ↔ unread p fault
  done : ∀ report, result = .ok report → ∃ t place, made t ∧ tree.locate out = .ok place ∧
    tree.Overwritten tree' place (Text.encode t) ∧ report.output = out ∧
      report.bytes = (Text.encode t).size
  mode : ∀ report, result = .ok report →
    tree'.mode out = .ok ((tree.mode out).toOption.getD (withoutBits 0o644 tree.umask))
  mode_of_umask : ∀ report, result = .ok report → 0o644 &&& tree.umask = 0 →
    tree'.mode out = .ok ((tree.mode out).toOption.getD 0o644)

section

variable {unread : Path → FileFault → Prop} {made : Text → Prop} {out p : Path}
  {tree tree' : FileTree} {result : Except RunError Report} {fault : FileFault} {t : Text}
  {report : Report}

lemma AllOrNothing.of_unread (h : ∀ q fault', unread q fault' ↔ q = p ∧ fault' = fault) :
    AllOrNothing unread made out tree tree (.error (.read p fault)) where
  failed e he := ⟨rfl, Or.inl ⟨p, fault, (Except.error.inj he).symm⟩⟩
  unread q fault' := by
    rw [h q fault']
    constructor
    · intro he
      obtain ⟨rfl, rfl⟩ := RunError.read.inj (Except.error.inj he)
      exact ⟨rfl, rfl⟩
    · rintro ⟨rfl, rfl⟩
      rfl
  done _ he := by cases he
  mode _ he := by cases he
  mode_of_umask _ he := by cases he

/-- A run that has read its sources ends by replacing its output. -/
lemma AllOrNothing.of_emit (h : tree.emit t report = (result, tree'))
    (hread : ∀ q fault', ¬ unread q fault') (hmade : made t) (hout : report.output = out)
    (hbytes : report.bytes = t.byteSize) :
    AllOrNothing unread made out tree tree' result := by
  subst hout
  rw [FileTree.emit] at h
  rcases hreplace : tree.replace report.output (Text.encode t) with ⟨after, fault | _⟩
  all_goals
    rw [hreplace] at h
    obtain ⟨rfl, rfl⟩ := Prod.mk.inj h
    have hcases := FileTree.replace_cases hreplace
  · obtain ⟨_, -, rfl⟩ | ⟨h, -⟩ := hcases
    · exact
        { failed := fun e he => ⟨rfl, Or.inr ⟨fault, (Except.error.inj he).symm⟩⟩
          unread := fun q fault' =>
            iff_of_false (fun he => by cases he) (hread q fault')
          done := fun _ he => by cases he
          mode := fun _ he => by cases he
          mode_of_umask := fun _ he => by cases he }
    · cases h
  · obtain ⟨_, h, -⟩ | ⟨-, place, hlocate, hover⟩ := hcases
    · cases h
    · exact
        { failed := fun _ he => by cases he
          unread := fun q fault' => iff_of_false (fun he => by cases he) (hread q fault')
          done := fun report' he => by
            obtain rfl := Except.ok.inj he
            exact ⟨t, place, hmade, hlocate, hover, rfl, by rw [hbytes, Text.size_encode]⟩
          mode := fun _ _ => hover.mode_eq_ok hlocate
          mode_of_umask := fun _ _ humask => by
            rw [hover.mode_eq_ok hlocate, FileTree.newFileMode_of_and_eq_zero humask] }

/-! ### The runs -/

variable {layout : Layout} {table : TokenTable} {cleaner : Cleaner}

lemma allOrNothing_singleOutcome (h : tree.singleOutcome layout table = (result, tree')) :
    AllOrNothing (fun p fault => p = layout.singleInputPath ∧ tree.readText p = .error fault)
      (fun t => ∃ source, tree.readText layout.singleInputPath = .ok source ∧
        t = table.resolve source)
      layout.outputPath tree tree' result := by
  rw [FileTree.singleOutcome] at h
  rcases hsource : tree.readText layout.singleInputPath with fault | source
  · rw [hsource] at h
    obtain ⟨rfl, rfl⟩ := Prod.mk.inj h
    refine AllOrNothing.of_unread fun q fault' => and_congr_right ?_
    rintro rfl
    rw [hsource, Except.error.injEq, eq_comm]
  · rw [hsource] at h
    refine AllOrNothing.of_emit h ?_ ⟨source, rfl, rfl⟩ rfl rfl
    rintro q fault' ⟨rfl, hfault⟩
    rw [hsource] at hfault
    cases hfault

lemma allOrNothing_mergeOutcome (h : tree.mergeOutcome layout table cleaner = (result, tree')) :
    AllOrNothing
      (fun p fault => tree.readText p = .error fault ∧ (p = layout.mergeBasePath ∨
        p = layout.mergeOverridePath ∧ ∃ base, tree.readText layout.mergeBasePath = .ok base))
      (fun t => ∃ base override, tree.readText layout.mergeBasePath = .ok base ∧
        tree.readText layout.mergeOverridePath = .ok override ∧
          t = cleaner.clean (table.resolve (merge base override).text))
      layout.outputPath tree tree' result := by
  rw [FileTree.mergeOutcome] at h
  rcases hbase : tree.readText layout.mergeBasePath with fault | base
  · rw [hbase] at h
    obtain ⟨rfl, rfl⟩ := Prod.mk.inj h
    refine AllOrNothing.of_unread fun q fault' => ?_
    constructor
    · rintro ⟨hfault, rfl | ⟨-, base, hread⟩⟩
      · rw [hbase] at hfault
        exact ⟨rfl, (Except.error.inj hfault).symm⟩
      · cases hread
    · rintro ⟨rfl, rfl⟩
      exact ⟨hbase, Or.inl rfl⟩
  · rw [hbase] at h
    rcases hoverride : tree.readText layout.mergeOverridePath with fault | override
    · rw [hoverride] at h
      obtain ⟨rfl, rfl⟩ := Prod.mk.inj h
      refine AllOrNothing.of_unread fun q fault' => ?_
      constructor
      · rintro ⟨hfault, rfl | ⟨rfl, -⟩⟩
        · rw [hbase] at hfault
          cases hfault
        · rw [hoverride] at hfault
          exact ⟨rfl, (Except.error.inj hfault).symm⟩
      · rintro ⟨rfl, rfl⟩
        exact ⟨hoverride, Or.inr ⟨rfl, base, rfl⟩⟩
    · rw [hoverride] at h
      refine AllOrNothing.of_emit h ?_ ⟨base, override, rfl, rfl, rfl⟩ rfl rfl
      rintro q fault' ⟨hfault, rfl | ⟨rfl, -⟩⟩
      · rw [hbase] at hfault
        cases hfault
      · rw [hoverride] at hfault
        cases hfault

end

end DrawStyle
