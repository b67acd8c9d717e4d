/-
**Runs without a dataset.** Whatever keeps a dataset from being read, the run goes on with an empty
index. It says nothing about support then, and it is the same run as one with a dataset that has no
features.

* `index_of_notLoaded` — the index is empty unless the dataset is read.
* `parseError_of_mem_reports` — with an empty index only unmatched braces are reported.
* `exitCode_eq_one_iff` — when a run that reports nothing else fails.
* `run_withoutDataset` — the whole.
-/

import StyleBaseline.Proofs.Report.Independence
import StyleBaseline.Proofs.Run.Agreement
import StyleBaseline.Proofs.Run.Shown

namespace StyleBaseline

/-! ### The empty index -/

/-- **Without a dataset the index is empty.** -/
theorem index_of_notLoaded {files : FileSystem} {source : DatasetSource}
    (notLoaded : (LoadedIndex.ofSource files source).state.isLoaded = false) :
    (LoadedIndex.ofSource files source).index = .empty := by
  rw [LoadedIndex.ofSource] at notLoaded ⊢
  cases found : source.locate files with
  | none => rfl
  | some path =>
      rw [found, LoadedIndex.ofPath] at notLoaded
      rw [LoadedIndex.ofPath]
      cases reads : readDataset files path with
      | ok database => rw [reads] at notLoaded; exact nomatch notLoaded
      | error fault => rfl

@[simp]
theorem verdict_empty (property : String) : Index.empty.verdict property = .unknown :=
  rfl

theorem ofText_emptyDatabaseText : Database.ofText emptyDatabaseText = .ok .empty := by
  decide +kernel

/-- A run has a dataset without features. -/
def HasEmptyDataset (surroundings : Surroundings) (arguments : Arguments) : Prop :=
  ∀ config, surroundings.config arguments = .ok config → ∃ path features,
    (surroundings.dataset arguments config).state = .loaded path features ∧
      surroundings.files.readText path = .ok emptyDatabaseText

theorem index_of_emptyDataset {files : FileSystem} {source : DatasetSource} {path : Path}
    {features : Nat} (loaded : (LoadedIndex.ofSource files source).state = .loaded path features)
    (reads : files.readText path = .ok emptyDatabaseText) :
    (LoadedIndex.ofSource files source).index = .empty := by
  rw [LoadedIndex.ofSource] at loaded ⊢
  cases found : source.locate files with
  | none => rfl
  | some other =>
      rw [found, LoadedIndex.ofPath] at loaded
      rw [LoadedIndex.ofPath]
      cases readsOther : readDataset files other with
      | error fault => rfl
      | ok database =>
          rw [readsOther] at loaded
          obtain ⟨rfl, _⟩ := DatasetState.loaded.inj loaded
          have empty : readDataset files other = .ok .empty := by
            rw [readDataset, reads]
            exact congrArg (Except.mapError DatasetFault.malformed) ofText_emptyDatabaseText
          obtain rfl : database = .empty := Except.ok.inj (readsOther.symm.trans empty)
          rfl

/-! ### What is reported -/

@[simp]
theorem diagnose?_empty (severity : Severity) (declaration : Declaration) :
    diagnose? .empty severity declaration = none :=
  rfl

@[simp]
theorem supportReports_empty (source : String) (baseline : Option Severity) :
    supportReports source .empty baseline = [] := by
  cases baseline with
  | none => rfl
  | some severity =>
      rw [supportReports, diagnostics_supportFindings]
      exact List.filterMap_eq_nil_iff.mpr fun declaration _ => diagnose?_empty severity declaration

/-- With an empty index nothing is said about support. -/
theorem parseError_of_mem_check {source : String} {options : CheckOptions} {diagnostic : Diagnostic}
    (member : diagnostic ∈ (check source .empty options).diagnostics) :
    diagnostic.code = .parseError := by
  rcases code_of_mem_check member with isFault | isSupport
  · exact isFault.1
  · have reported : diagnostic ∈ (check source .empty options).diagnostics.filter
        (·.code = .baselineCheck) := List.mem_filter.mpr ⟨member, decide_eq_true isSupport.1⟩
    rw [filter_baselineCheck_check, supportReports_empty] at reported
    exact absurd reported List.not_mem_nil

section Session

variable {session : Session} {files : FileSystem} {arguments : Arguments} {report : FileReport}
  {diagnostic : Diagnostic}

/-- What is reported on a file is found in it. -/
theorem exists_check_of_mem_reports (member : report ∈ session.reports files arguments)
    (reported : diagnostic ∈ report.diagnostics) :
    ∃ source, diagnostic ∈
      (check source session.dataset.index (session.options arguments)).diagnostics := by
  obtain ⟨path, _, isReport⟩ := List.mem_filterMap.mp member
  obtain ⟨source, _, rfl⟩ := Option.map_eq_some_iff.mp isReport
  exact ⟨source, List.mem_of_mem_filter reported⟩

theorem parseError_of_mem_reports (empty : session.dataset.index = .empty)
    (member : report ∈ session.reports files arguments)
    (reported : diagnostic ∈ report.diagnostics) :
    diagnostic.code = .parseError ∧ diagnostic.severity = .error := by
  obtain ⟨source, found⟩ := exists_check_of_mem_reports member reported
  rw [empty] at found
  exact ⟨parseError_of_mem_check found,
    severity_of_parseError found (parseError_of_mem_check found)⟩

end Session

/-! ### The exit code -/

/-- Something of a severity is counted if it is reported. -/
theorem totalCount_pos_iff {reports : List FileReport} {severity : Severity} :
    0 < totalCount reports severity ↔
      ∃ report ∈ reports, ∃ diagnostic ∈ report.diagnostics, diagnostic.severity = severity := by
  rw [totalCount_eq, List.countP_pos_iff]
  unfold FileReport.shown ShownDiagnostic.hasSeverity
  simp [and_assoc]

/-- **Why a run without a dataset fails**: there is an unmatched brace that is reported. -/
theorem exitCode_eq_one_iff {session : Session} {files : FileSystem} {arguments : Arguments}
    (empty : session.dataset.index = .empty) (output : String) :
    (RunResult.mk output
        (session.summary arguments (session.reports files arguments))).exitCode = 1 ↔
      ∃ report ∈ session.reports files arguments, ∃ diagnostic ∈ report.diagnostics,
        diagnostic.code = .parseError := by
  have noWarning : ¬0 < totalCount (session.reports files arguments) .warning := by
    rw [totalCount_pos_iff]
    rintro ⟨report, member, diagnostic, reported, isWarning⟩
    have isError := (parseError_of_mem_reports empty member reported).2
    exact nomatch isWarning.symm.trans isError
  rw [RunResult.exitCode_eq_one_iff]
  show 0 < totalCount (session.reports files arguments) .error ∨
    (0 < totalCount (session.reports files arguments) .warning ∧ _) ↔ _
  rw [or_iff_left fun warns => noWarning warns.1, totalCount_pos_iff]
  refine exists_congr fun report => and_congr_right fun member => exists_congr fun diagnostic =>
    and_congr_right fun reported => ?_
  obtain ⟨isFault, isError⟩ := parseError_of_mem_reports empty member reported
  exact ⟨fun _ => isFault, fun _ => isError⟩

/-- **Runs without a dataset.** Where no dataset is read, the index is empty, and no property has a
verdict but the unknown one; the result, be it a fault or an output with its summary, is that of the
same run with a dataset without features; all that is reported are unmatched braces, and only they
make the run fail. -/
theorem run_withoutDataset [GlobEngine] {surroundings : Surroundings} {arguments : Arguments}
    (notLoaded : ∀ config, surroundings.config arguments = .ok config →
      (surroundings.dataset arguments config).state.isLoaded = false) :
    (∀ config, surroundings.config arguments = .ok config →
      (surroundings.dataset arguments config).index = .empty ∧
        ∀ property, (surroundings.dataset arguments config).index.verdict property = .unknown) ∧
    (∀ (companion : Surroundings) (otherPath : Option Path),
      SameButDataset surroundings companion arguments otherPath →
      HasEmptyDataset companion (arguments.withDataset otherPath) →
      run surroundings arguments = run companion (arguments.withDataset otherPath)) ∧
    ∀ session, Session.prepare surroundings arguments = .ok session →
      (∀ report ∈ session.reports surroundings.files arguments,
        ∀ diagnostic ∈ report.diagnostics, diagnostic.code = .parseError) ∧
      ∃ result, run surroundings arguments = .ok result ∧
        (result.exitCode = 0 ∨ result.exitCode = 1) ∧
        (result.exitCode = 1 ↔ ∃ report ∈ session.reports surroundings.files arguments,
          ∃ diagnostic ∈ report.diagnostics, diagnostic.code = .parseError) := by
  have emptyIndex : ∀ config, surroundings.config arguments = .ok config →
      (surroundings.dataset arguments config).index = .empty := fun config loads =>
    index_of_notLoaded (notLoaded config loads)
  refine ⟨fun config loads => ⟨emptyIndex config loads, fun property => ?_⟩, ?_, ?_⟩
  · rw [emptyIndex config loads]
    exact verdict_empty property
  · intro companion otherPath same hasEmpty
    refine run_eq_of_index same fun session other prepares otherPrepares => ?_
    obtain ⟨loads, isDataset⟩ := dataset_of_prepare prepares
    obtain ⟨otherLoads, isOtherDataset⟩ := dataset_of_prepare otherPrepares
    obtain ⟨path, features, loaded, reads⟩ := hasEmpty _ otherLoads
    rw [isDataset, isOtherDataset, emptyIndex _ loads]
    exact index_of_emptyDataset loaded reads
  · intro session prepares
    obtain ⟨loads, isDataset⟩ := dataset_of_prepare prepares
    have empty : session.dataset.index = .empty := by
      rw [isDataset]
      exact emptyIndex _ loads
    refine ⟨fun report member diagnostic reported =>
      (parseError_of_mem_reports empty member reported).1, _, by rw [run, prepares]; rfl, ?_,
      exitCode_eq_one_iff empty _⟩
    rw [RunResult.exitCode]
    split
    · exact .inr rfl
    · exact .inl rfl

theorem run_withoutDataset_sheetAlone :
    (∀ config, sheetAlone.config sheetArguments = .ok config →
      (sheetAlone.dataset sheetArguments config).state.isLoaded = false) ∧
    SameButDataset sheetAlone sheetAndDataset sheetArguments none ∧
    HasEmptyDataset sheetAndDataset sheetArguments ∧
    run sheetAlone sheetArguments = run sheetAndDataset sheetArguments := by
  have notLoaded : ∀ config, sheetAlone.config sheetArguments = .ok config →
      (sheetAlone.dataset sheetArguments config).state.isLoaded = false := by
    intro config loads
    have isDefault : sheetAlone.config sheetArguments = .ok .default := by decide +kernel
    obtain rfl : .default = config := Except.ok.inj (isDefault.symm.trans loads)
    decide +kernel
  have hasEmpty : HasEmptyDataset sheetAndDataset sheetArguments := by
    intro config loads
    have isDefault : sheetAndDataset.config sheetArguments = .ok .default := by decide +kernel
    obtain rfl : .default = config := Except.ok.inj (isDefault.symm.trans loads)
    exact ⟨⟨"d.json"⟩, 0, by decide +kernel⟩
  have same : SameButDataset sheetAlone sheetAndDataset (sheetArguments.withDataset none) none :=
    sameButDataset_sheets (by decide +kernel) (by decide +kernel)
  exact ⟨notLoaded, same, hasEmpty,
    (run_withoutDataset notLoaded).2.1 sheetAndDataset none same hasEmpty⟩

end StyleBaseline
