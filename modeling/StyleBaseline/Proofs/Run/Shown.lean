/-
**What a run shows.** A run shows diagnostics file by file, in the order of the paths, and of each
file those that the check finds and that reach the threshold. All that a run prints and counts is
made of them, and of the statistics.

* `Session.shownAt`, `Session.shown` — what is shown of one file, and of all.
* `flatMap_shown_reports` — the reports of a session hold what is shown, and nothing else.
* `run_eq` — the result of a run by what it shows.
* `statistics_of_reports`, `statistics_reports` — the statistics are those with which a run begins.
* `exitCode_eq_one_iff_shown` — when a run with a result fails.
-/

import Mathlib.Data.List.Basic
import StyleBaseline.Proofs.Report.SupportDiagnostics
import StyleBaseline.Proofs.Table
import StyleBaseline.Run

namespace StyleBaseline

/-! ### Diagnostics with their files -/

/-- A diagnostic that is shown, with the name and the text of its file. -/
structure ShownDiagnostic where
  path : String
  source : String
  diagnostic : Diagnostic
deriving DecidableEq

namespace ShownDiagnostic

/-- How a diagnostic is shown as an entry of a document. -/
def entry (shown : ShownDiagnostic) : ReportEntry :=
  .ofDiagnostic shown.path (LineTable.ofText shown.source) shown.diagnostic

/-- How a diagnostic is shown as text. -/
def text (shown : ShownDiagnostic) : OutputFormat → String
  | .human => shown.diagnostic.humanText shown.path
  | .humanVerbose => shown.diagnostic.verboseText shown.path (LineTable.ofText shown.source)
  | .machine => shown.diagnostic.machineText shown.path
  | .json => ""

/-- Whether a diagnostic has a severity. -/
def hasSeverity (severity : Severity) (shown : ShownDiagnostic) : Bool :=
  shown.diagnostic.severity = severity

end ShownDiagnostic

/-! ### The parts of a result -/

namespace Session

variable (session : Session) (files : FileSystem) (arguments : Arguments)

/-- What is shown of the file at a path: what the check finds and is grave enough, and nothing if
the file cannot be read. -/
def shownAt (path : Path) : List ShownDiagnostic :=
  match files.readText path with
  | .error _ => []
  | .ok source =>
      ((check source session.dataset.index (session.options arguments)).diagnostics.filter
        (·.severity.reaches arguments.threshold)).map
          (⟨(shownPath session.workspace path).text, source, ·⟩)

/-- What a run shows. -/
def shown : List ShownDiagnostic :=
  session.selected.flatMap (session.shownAt files arguments)

/-- The statistics of a run in the end. -/
def finalStatistics : Statistics :=
  session.statistics (session.reports files arguments)

/-- The summary of a run by what it shows. -/
def finalSummary : Summary where
  files := session.selected.length
  errors := (session.shown files arguments).countP (·.hasSeverity .error)
  warnings := (session.shown files arguments).countP (·.hasSeverity .warning)
  failOnWarnings := arguments.failOnWarnings

/-- What is printed behind the diagnostics, if they are printed as text. -/
def ending : String :=
  (if arguments.statistics then statisticsText (session.finalStatistics files arguments) else "")
    ++ (session.finalSummary files arguments).text ++ "\n"

/-- The document that a run prints if it prints one. -/
def document : Report :=
  ⟨(session.shown files arguments).map (·.entry), session.finalStatistics files arguments⟩

/-- The result of a run by what it shows. -/
def result : RunResult where
  output :=
    match arguments.output with
    | .json => (session.document files arguments).text ++ "\n"
    | format =>
        String.join ((session.shown files arguments).map (·.text format))
          ++ session.ending files arguments
  summary := session.finalSummary files arguments

end Session

/-! ### Reports -/

/-- What is shown of the file that a report is about. -/
def FileReport.shown (report : FileReport) : List ShownDiagnostic :=
  report.diagnostics.map (⟨report.path.text, report.source, ·⟩)

/-- The text of lists one behind the other. -/
theorem join_flatMap {α : Type} (f : α → List String) (items : List α) :
    String.join (items.flatMap f) = String.join (items.map fun item => String.join (f item)) := by
  induction items with
  | nil => rfl
  | cons item items ih =>
      rw [List.flatMap_cons, String.join_append, List.map_cons, String.join_cons, ih]

theorem join_map_empty {α : Type} (items : List α) : String.join (items.map fun _ => "") = "" := by
  induction items with
  | nil => rfl
  | cons item items ih => rw [List.map_cons, String.join_cons, ih]; rfl

namespace FileReport

variable (report : FileReport)

theorem text_eq (format : OutputFormat) :
    report.text format = String.join (report.shown.map (·.text format)) := by
  unfold shown
  rw [List.map_map]
  cases format with
  | json => exact (join_map_empty report.diagnostics).symm
  | _ => rfl

theorem entries_eq : report.entries = report.shown.map (·.entry) := by
  unfold shown
  rw [List.map_map]
  rfl

theorem count_eq (severity : Severity) :
    report.count severity = report.shown.countP (·.hasSeverity severity) := by
  unfold shown
  rw [List.countP_map, List.countP_eq_length_filter]
  rfl

end FileReport

theorem totalCount_eq (reports : List FileReport) (severity : Severity) :
    totalCount reports severity =
      (reports.flatMap FileReport.shown).countP (·.hasSeverity severity) := by
  induction reports with
  | nil => rfl
  | cons report reports ih =>
      rw [List.flatMap_cons, List.countP_append, ← ih, ← report.count_eq]
      rfl

section Reports

variable (session : Session) (files : FileSystem) (arguments : Arguments)

theorem shown_report? (path : Path) :
    (session.report? files arguments path).toList.flatMap FileReport.shown =
      session.shownAt files arguments path := by
  unfold Session.report? Session.shownAt
  cases files.readText path with
  | error fault => rfl
  | ok source => exact List.append_nil _

/-- **The reports hold what is shown.** -/
@[simp]
theorem flatMap_shown_reports :
    (session.reports files arguments).flatMap FileReport.shown = session.shown files arguments := by
  unfold Session.reports Session.shown
  rw [List.filterMap_eq_flatMap_toList, List.flatMap_assoc]
  congr 1
  funext path
  exact shown_report? session files arguments path

theorem summary_eq_finalSummary :
    session.summary arguments (session.reports files arguments) =
      session.finalSummary files arguments := by
  unfold Session.summary Session.finalSummary
  simp [totalCount_eq]

/-- The reports as text. -/
theorem join_text_reports (format : OutputFormat) :
    String.join ((session.reports files arguments).map (·.text format)) =
      String.join ((session.shown files arguments).map (·.text format)) := by
  rw [← flatMap_shown_reports, List.map_flatMap, join_flatMap]
  simp only [FileReport.text_eq]

/-- The reports as entries of a document. -/
theorem flatMap_entries_reports :
    (session.reports files arguments).flatMap (·.entries) =
      (session.shown files arguments).map (·.entry) := by
  rw [← flatMap_shown_reports, List.map_flatMap]
  simp only [FileReport.entries_eq]

theorem runOutput_eq :
    runOutput arguments (session.reports files arguments) (session.finalStatistics files arguments)
        (session.finalSummary files arguments) =
      (session.result files arguments).output := by
  unfold runOutput Session.result Session.document Session.ending
  rw [flatMap_entries_reports]
  cases arguments.output <;> simp only [join_text_reports, String.append_assoc]

end Reports

section Run

variable [GlobEngine] {surroundings : Surroundings} {arguments : Arguments}

/-- **The result of a run** is made of what it shows. -/
theorem run_eq (surroundings : Surroundings) (arguments : Arguments) :
    run surroundings arguments =
      (Session.prepare surroundings arguments).map (·.result surroundings.files arguments) := by
  unfold run
  cases Session.prepare surroundings arguments with
  | error fault =>
      show Except.error fault = Except.error fault
      rfl
  | ok session =>
      show Except.ok (RunResult.mk _ _) = Except.ok (session.result surroundings.files arguments)
      rw [summary_eq_finalSummary, ← Session.finalStatistics, runOutput_eq]
      rfl

theorem run_eq_ok_iff {result : RunResult} :
    run surroundings arguments = .ok result ↔
      ∃ session, Session.prepare surroundings arguments = .ok session ∧
        session.result surroundings.files arguments = result := by
  rw [run_eq]
  cases Session.prepare surroundings arguments with
  | error fault => simp [Except.map]
  | ok session => simp [Except.map]

theorem run_eq_error_iff {fault : RunFault} :
    run surroundings arguments = .error fault ↔
      Session.prepare surroundings arguments = .error fault := by
  rw [run_eq]
  cases Session.prepare surroundings arguments with
  | error other => simp [Except.map]
  | ok session => simp [Except.map]

/-- A part of what a run works on tells that the preparation succeeds. -/
theorem exists_session {α : Type} {part : Session → α} {value : α}
    (prepared : (Session.prepare surroundings arguments).toOption.map part = some value) :
    ∃ session, Session.prepare surroundings arguments = .ok session ∧ part session = value := by
  cases prepares : Session.prepare surroundings arguments with
  | error fault =>
      rw [prepares] at prepared
      exact nomatch prepared
  | ok session =>
      rw [prepares] at prepared
      exact ⟨session, rfl, Option.some.inj prepared⟩

end Run

/-! ### Statistics -/

section Statistics

variable (session : Session) (files : FileSystem) (arguments : Arguments)

/-- **Each check** of a run counts what the run has counted before. -/
@[simp]
theorem statistics_check (source : String) :
    (check source session.dataset.index (session.options arguments)).statistics =
      session.ownStatistics := by
  unfold check Session.options Session.ownStatistics
  cases session.config.severity with
  | none => rfl
  | some severity => exact statistics_supportFindings session.dataset.index _ severity

/-- The step: the number takes its own place. -/
@[simp]
theorem merge_ownStatistics :
    session.ownStatistics.merge session.ownStatistics = session.ownStatistics := by
  unfold Session.ownStatistics
  split
  · exact Table.insert_insert ..
  · rfl

/-- **Through any number of reports** the statistics stay as they are at the beginning. -/
theorem statistics_of_reports {reports : List FileReport}
    (each : ∀ report ∈ reports, report.statistics = session.ownStatistics) :
    session.statistics reports = session.ownStatistics := by
  unfold Session.statistics
  induction reports with
  | nil => rfl
  | cons report reports ih =>
      obtain ⟨here, others⟩ := List.forall_mem_cons.mp each
      simp [here, ih others]

/-- **No stylesheet changes the statistics**, whatever is selected and wherever it is read. -/
@[simp]
theorem statistics_reports (paths : List Path) :
    session.statistics (paths.filterMap (session.report? files arguments)) =
      session.ownStatistics := by
  refine statistics_of_reports session fun report member => ?_
  obtain ⟨path, _, isReport⟩ := List.mem_filterMap.mp member
  obtain ⟨source, _, rfl⟩ := Option.map_eq_some_iff.mp isReport
  exact statistics_check session arguments source

end Statistics

/-! ### Exit codes -/

/-- The exit code of a run: that of its result, and one if it ends with a fault. -/
def runExitCode : Except RunFault RunResult → Nat
  | .ok result => result.exitCode
  | .error _ => 1

/-- When a run with a result fails, by its counts. -/
theorem RunResult.exitCode_eq_one_iff (result : RunResult) :
    result.exitCode = 1 ↔ 0 < result.summary.errors ∨
      (0 < result.summary.warnings ∧ result.summary.failOnWarnings = true) := by
  have failing : result.exitCode = 1 ↔ result.summary.shouldFail = true := by
    unfold exitCode
    split <;> simp_all
  rw [failing, Summary.shouldFail, Bool.or_eq_true, Bool.and_eq_true, decide_eq_true_eq,
    decide_eq_true_eq]

theorem RunResult.exitCode_le_one (result : RunResult) : result.exitCode ≤ 1 := by
  unfold exitCode
  split <;> decide

/-- **Why a run with a result fails**: an error is shown, or a warning where warnings count. -/
theorem exitCode_eq_one_iff_shown (session : Session) (files : FileSystem)
    (arguments : Arguments) :
    (session.result files arguments).exitCode = 1 ↔
      (∃ shown ∈ session.shown files arguments, shown.diagnostic.severity = .error) ∨
        ((∃ shown ∈ session.shown files arguments, shown.diagnostic.severity = .warning) ∧
          arguments.failOnWarnings = true) := by
  rw [RunResult.exitCode_eq_one_iff]
  simp only [Session.result, Session.finalSummary, List.countP_pos_iff,
    ShownDiagnostic.hasSeverity, decide_eq_true_eq]

end StyleBaseline
