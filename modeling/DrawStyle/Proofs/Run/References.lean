import DrawStyle.Proofs.Clean.References
import DrawStyle.Proofs.Merge.Flat
import DrawStyle.Proofs.Run.Outcome
import DrawStyle.Proofs.Token.Layering

/-!
References in the files that runs write.

Where the values of a table are inert, the references that are left when it is applied are those
to names that it does not hold, and these are reported. Cleaning makes no references, so what is
written by a merge run refers to reported names only.
-/

namespace DrawStyle

section

variable {layout : Layout} {table : TokenTable} {cleaner : Cleaner} {tree tree' : FileTree}
  {report : Report}

/-! ### What is written -/

/-- A run that ends with a report has written the text on which it reports. -/
lemma FileTree.emit_eq_ok {t : Text} {report' : Report}
    (h : tree.emit t report = (.ok report', tree')) :
    report' = report ∧ tree'.Holds report.output (Text.encode t) := by
  rw [emit] at h
  split at h
  · cases h
  · next hreplace =>
    obtain ⟨hreport, rfl⟩ := Prod.mk.inj h
    exact ⟨(Except.ok.inj hreport).symm, holds_replace hreplace⟩

lemma FileTree.singleOutcome_eq_ok (h : tree.singleOutcome layout table = (.ok report, tree')) :
    ∃ source, tree'.Holds layout.outputPath (Text.encode (table.resolve source)) ∧
      report.unresolved = (table.resolution source).unresolved := by
  rw [singleOutcome] at h
  split at h
  · cases h
  · next source _ =>
    obtain ⟨rfl, hholds⟩ := emit_eq_ok h
    exact ⟨source, hholds, rfl⟩

lemma FileTree.mergeOutcome_eq_ok
    (h : tree.mergeOutcome layout table cleaner = (.ok report, tree')) :
    ∃ merged, tree'.Holds layout.outputPath
        (Text.encode (cleaner.clean (table.resolve merged))) ∧
      report.unresolved = (table.resolution merged).unresolved := by
  rw [mergeOutcome] at h
  split at h
  · cases h
  · next base _ =>
    split at h
    · cases h
    · next override _ =>
      obtain ⟨rfl, hholds⟩ := emit_eq_ok h
      exact ⟨(merge base override).text, hholds, rfl⟩

/-! ### What it refers to -/

lemma TokenTable.Inert.mem_references_resolve_iff (hm : table.Inert) {t name : Text} :
    name ∈ references (table.resolve t) ↔ name ∈ (table.resolution t).unresolved := by
  rw [hm.references_resolve, List.mem_filter, mem_unresolved_iff, Bool.not_eq_true']

/-- A directory with a base and an override, and nothing else. -/
def sourcesWorld (base override : Text) : World where
  tree :=
    { nodes := [(["default_RAW.css".toList], .file (Text.encode base) 0o644),
        (["default_DK_RAW.css".toList], .file (Text.encode override) 0o644)]
      home := [] }
  log := []

/-- **No reference is made that is not accounted for.** Cleaning makes no references. So if the
values of a table are inert, as they are in the drawing defaults, the file that a merge run writes
refers to no name in the table, and only to names that are reported; and the file that a single
run writes refers to the names that are reported, and to no others. -/
theorem references_of_runs :
    (∀ (c : Cleaner) (t : Text), (references (c.clean t)).Sublist (references t)) ∧
      TokenTable.drawingDefaults.Inert ∧
      ∀ table : TokenTable, table.Inert →
        ∀ (layout : Layout) (w w' : World) (report : Report),
          (∀ cleaner, (runMerge (m := StateM World) layout table cleaner).run w =
              (.ok report, w') →
            ∃ out, w'.tree.Holds layout.outputPath (Text.encode out) ∧
              ∀ name ∈ references out,
                table.contains name = false ∧ name ∈ report.unresolved) ∧
          ((runSingle (m := StateM World) layout table).run w = (.ok report, w') →
            ∃ out, w'.tree.Holds layout.outputPath (Text.encode out) ∧
              ∀ name, name ∈ references out ↔ name ∈ report.unresolved) := by
  refine ⟨Cleaner.references_clean_sublist, inert_drawingDefaults, ?_⟩
  intro table hinert layout w w' report
  constructor
  · intro cleaner hrun
    obtain ⟨merged, hholds, hreport⟩ := FileTree.mergeOutcome_eq_ok <|
      (hasOutcome_runMerge layout table cleaner w.tree).eq_of_run hrun
    refine ⟨_, hholds, fun name hname => ?_⟩
    have hleft : name ∈ (table.resolution merged).unresolved :=
      hinert.mem_references_resolve_iff.mp <|
        (cleaner.references_clean_sublist _).mem hname
    exact ⟨(TokenTable.mem_unresolved_iff.mp hleft).2, hreport ▸ hleft⟩
  · intro hrun
    obtain ⟨source, hholds, hreport⟩ := FileTree.singleOutcome_eq_ok <|
      (hasOutcome_runSingle layout table w.tree).eq_of_run hrun
    refine ⟨_, hholds, fun name => ?_⟩
    rw [hreport, hinert.mem_references_resolve_iff]

theorem references_of_runs_empty_rule_in_reference :
    ∃ (report report' : Report) (w w' : World),
      ((runMerge (m := StateM World) { baseDir := [] } .drawingDefaults {}).run
          (sourcesWorld "var(.x\x7b\x7d--y)\n.a \x7bw: var(--t1) var(--u)\x7d".toList
            ".a \x7bw: var(--t5) var(--v)\x7d".toList) = (.ok report, w) ∧
        report.unresolved = ["--v".toList] ∧
        ∃ out, w.tree.Holds "default_DK.css".toList (Text.encode out) ∧
          ∀ name ∈ references out, TokenTable.drawingDefaults.contains name = false ∧
            name ∈ report.unresolved) ∧
      ((runSingle (m := StateM World) { baseDir := [] } .drawingDefaults).run
          (sourcesWorld [] "var(--w) var(--t1)".toList) = (.ok report', w') ∧
        report'.unresolved = ["--w".toList] ∧
        ∃ out, w'.tree.Holds "default_DK.css".toList (Text.encode out) ∧
          ∀ name, name ∈ references out ↔ name ∈ report'.unresolved) := by
  have hoverride : selectors ".a \x7bw: var(--t5) var(--v)\x7d".toList = [['a']] := by decide +kernel
  have hgood : (((sourcesWorld "var(.x\x7b\x7d--y)\n.a \x7bw: var(--t1) var(--u)\x7d".toList
        ".a \x7bw: var(--t5) var(--v)\x7d".toList).tree.mergeOutcome { baseDir := [] }
          .drawingDefaults {}).1.toOption.map Report.unresolved) = some ["--v".toList] := by
    rw [FileTree.mergeOutcome_of_readText (FileTree.readText_eq_ok_iff.mpr rfl)
      (FileTree.readText_eq_ok_iff.mpr rfl), text_merge_eq_foldl, hoverride,
      Rule.filter_fits_eq_self (by decide)]
    decide +kernel
  obtain ⟨report, w, hmerge, hnames⟩ :=
    (hasOutcome_runMerge { baseDir := [] } .drawingDefaults {}
      (sourcesWorld "var(.x\x7b\x7d--y)\n.a \x7bw: var(--t1) var(--u)\x7d".toList
        ".a \x7bw: var(--t5) var(--v)\x7d".toList).tree).exists_run hgood
  obtain ⟨report', w', hsingle, hnames'⟩ :=
    (hasOutcome_runSingle { baseDir := [] } .drawingDefaults
      (sourcesWorld [] "var(--w) var(--t1)".toList).tree).exists_run
      (g := Report.unresolved) (b := ["--w".toList]) (by decide +kernel)
  have hruns := references_of_runs.2.2 .drawingDefaults inert_drawingDefaults { baseDir := [] }
  exact ⟨report, report', w, w', ⟨hmerge, hnames, (hruns _ w report).1 _ hmerge⟩,
    ⟨hsingle, hnames', (hruns _ w' report').2 hsingle⟩⟩

end

end DrawStyle
