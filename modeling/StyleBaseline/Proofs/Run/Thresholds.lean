/-
**Thresholds.** A run with the higher threshold leaves out the warnings and is the same run
otherwise: it ends with the same fault, or it shows the same errors with the same statistics.
Whether warnings make a run fail matters only where warnings are shown.

* `shown_withThreshold_error` — only the errors are left.
* `finalStatistics_withThreshold` — the statistics stay as they are.
* `runExitCode_withFailOnWarnings` — to fail on warnings can only make a run fail.
* `run_threshold` — the whole.
-/

import StyleBaseline.Proofs.Run.Agreement
import StyleBaseline.Proofs.Run.Shown

namespace StyleBaseline

namespace Arguments

/-- Arguments with another threshold. -/
def withThreshold (arguments : Arguments) (threshold : Severity) : Arguments :=
  { arguments with threshold := threshold }

/-- Arguments that say whether a run fails on warnings. -/
def withFailOnWarnings (arguments : Arguments) (failOnWarnings : Bool) : Arguments :=
  { arguments with failOnWarnings := failOnWarnings }

end Arguments

/-! ### What is shown -/

section Threshold

variable (session : Session) (files : FileSystem) (arguments : Arguments)

/-- With the higher threshold the errors of a file are left. -/
theorem shownAt_withThreshold_error (path : Path) :
    session.shownAt files (arguments.withThreshold .error) path =
      (session.shownAt files (arguments.withThreshold .warning) path).filter
        (·.hasSeverity .error) := by
  unfold Session.shownAt
  cases files.readText path with
  | error fault => rfl
  | ok source =>
      simp only [List.filter_map, List.filter_filter]
      congr 2
      funext diagnostic
      exact (Bool.and_true _).symm

/-- **With the higher threshold the errors are left**, in the same order. -/
theorem shown_withThreshold_error :
    session.shown files (arguments.withThreshold .error) =
      (session.shown files (arguments.withThreshold .warning)).filter (·.hasSeverity .error) := by
  unfold Session.shown
  rw [List.filter_flatMap]
  congr 1
  funext path
  exact shownAt_withThreshold_error session files arguments path

theorem errors_withThreshold :
    (session.finalSummary files (arguments.withThreshold .error)).errors =
      (session.finalSummary files (arguments.withThreshold .warning)).errors := by
  unfold Session.finalSummary
  simp only [shown_withThreshold_error, List.countP_filter, Bool.and_self]

@[simp]
theorem warnings_withThreshold_error :
    (session.finalSummary files (arguments.withThreshold .error)).warnings = 0 := by
  unfold Session.finalSummary
  simp only [shown_withThreshold_error, List.countP_filter]
  refine List.countP_eq_zero.mpr fun shown _ => ?_
  unfold ShownDiagnostic.hasSeverity
  cases shown.diagnostic.severity <;> decide

/-! ### Statistics -/

/-- **The threshold does not change the statistics.** -/
theorem finalStatistics_withThreshold (threshold : Severity) :
    session.finalStatistics files (arguments.withThreshold threshold) =
      session.finalStatistics files arguments :=
  (statistics_reports session files (arguments.withThreshold threshold) session.selected).trans
    (statistics_reports session files arguments session.selected).symm

end Threshold

/-! ### Failing -/

/-- The output of a result, and its exit code. -/
def RunResult.outcome (result : RunResult) : String × Nat :=
  (result.output, result.exitCode)

section Failing

variable (session : Session) (files : FileSystem) (arguments : Arguments)

/-- More counts make a run fail if fewer do. -/
theorem exitCode_le_of_counts {first second : RunResult}
    (errors : first.summary.errors ≤ second.summary.errors)
    (warnings : first.summary.warnings ≤ second.summary.warnings)
    (flag : first.summary.failOnWarnings = true → second.summary.failOnWarnings = true) :
    first.exitCode ≤ second.exitCode := by
  by_cases fails : first.exitCode = 1
  · have secondFails : second.exitCode = 1 := by
      rw [RunResult.exitCode_eq_one_iff] at fails ⊢
      rcases fails with anyError | ⟨anyWarning, isSet⟩
      · exact .inl (Nat.lt_of_lt_of_le anyError errors)
      · exact .inr ⟨Nat.lt_of_lt_of_le anyWarning warnings, flag isSet⟩
    rw [fails, secondFails]
  · have passes : first.exitCode = 0 := by
      have bound := first.exitCode_le_one
      omega
    rw [passes]
    exact Nat.zero_le _

/-- Where no warning is counted it does not matter whether warnings make the run fail. -/
theorem exitCode_eq_of_noWarnings {first second : RunResult}
    (errors : first.summary.errors = second.summary.errors)
    (noWarnings : first.summary.warnings = 0) (noOtherWarnings : second.summary.warnings = 0) :
    first.exitCode = second.exitCode := by
  unfold RunResult.exitCode Summary.shouldFail
  rw [errors, noWarnings, noOtherWarnings]
  rfl

/-- What is printed does not tell whether warnings make the run fail. -/
@[simp]
theorem output_withFailOnWarnings (flag : Bool) :
    (session.result files (arguments.withFailOnWarnings flag)).output =
      (session.result files arguments).output :=
  rfl

theorem exitCode_result_withThreshold_le :
    (session.result files (arguments.withThreshold .error)).exitCode ≤
      (session.result files (arguments.withThreshold .warning)).exitCode := by
  apply exitCode_le_of_counts
  · exact Nat.le_of_eq (errors_withThreshold session files arguments)
  · show (session.finalSummary files (arguments.withThreshold .error)).warnings ≤ _
    rw [warnings_withThreshold_error]
    exact Nat.zero_le _
  · exact id

theorem outcome_withFailOnWarnings (flag : Bool) :
    (session.result files ((arguments.withThreshold .error).withFailOnWarnings flag)).outcome =
      (session.result files (arguments.withThreshold .error)).outcome := by
  have noWarnings := warnings_withThreshold_error session files arguments
  refine Prod.ext (output_withFailOnWarnings session files _ flag) ?_
  exact exitCode_eq_of_noWarnings rfl noWarnings noWarnings

/-- **To fail on warnings can only make a run fail.** -/
theorem runExitCode_withFailOnWarnings [GlobEngine]
    (surroundings : Surroundings) (arguments : Arguments) :
    runExitCode (run surroundings (arguments.withFailOnWarnings false)) ≤
      runExitCode (run surroundings (arguments.withFailOnWarnings true)) := by
  have samePrepare : ∀ flag, Session.prepare surroundings (arguments.withFailOnWarnings flag) =
      Session.prepare surroundings arguments := fun _ => rfl
  rw [run_eq, run_eq, samePrepare, samePrepare]
  cases Session.prepare surroundings arguments with
  | error fault => exact Nat.le_refl 1
  | ok session =>
      apply exitCode_le_of_counts
      · exact Nat.le_refl _
      · exact Nat.le_refl _
      · exact fun _ => rfl

end Failing

/-- **The threshold of a run.** With the higher threshold a run ends with the same fault as with the
lower one, or it shows the errors that the run with the lower one shows, in the same order: its
errors are as many, there are no warnings, the statistics are the same, and it fails only if the
other one does. A run with a result fails if it shows an error, or a warning where warnings make it
fail; so this makes no difference with the higher threshold, and never keeps a run from failing. -/
theorem run_threshold [GlobEngine] (surroundings : Surroundings) (arguments : Arguments) :
    (∀ fault, run surroundings (arguments.withThreshold .error) = .error fault ↔
      run surroundings (arguments.withThreshold .warning) = .error fault) ∧
    (∀ session, Session.prepare surroundings arguments = .ok session →
      ∃ strict lenient,
        run surroundings (arguments.withThreshold .error) = .ok strict ∧
        run surroundings (arguments.withThreshold .warning) = .ok lenient ∧
        strict = session.result surroundings.files (arguments.withThreshold .error) ∧
        lenient = session.result surroundings.files (arguments.withThreshold .warning) ∧
        session.shown surroundings.files (arguments.withThreshold .error) =
          (session.shown surroundings.files (arguments.withThreshold .warning)).filter
            (·.diagnostic.severity = .error) ∧
        strict.summary.errors = lenient.summary.errors ∧ strict.summary.warnings = 0 ∧
        session.finalStatistics surroundings.files (arguments.withThreshold .error) =
          session.finalStatistics surroundings.files (arguments.withThreshold .warning) ∧
        strict.exitCode ≤ lenient.exitCode) ∧
    (∀ session result, Session.prepare surroundings arguments = .ok session →
      run surroundings arguments = .ok result →
      (result.exitCode = 0 ∨ result.exitCode = 1) ∧
      (result.exitCode = 1 ↔
        (∃ shown ∈ session.shown surroundings.files arguments,
          shown.diagnostic.severity = .error) ∨
        ((∃ shown ∈ session.shown surroundings.files arguments,
          shown.diagnostic.severity = .warning) ∧ arguments.failOnWarnings = true))) ∧
    (∀ flag,
      (run surroundings ((arguments.withThreshold .error).withFailOnWarnings flag)).map
          RunResult.outcome =
        (run surroundings (arguments.withThreshold .error)).map RunResult.outcome) ∧
    runExitCode (run surroundings (arguments.withFailOnWarnings false)) ≤
      runExitCode (run surroundings (arguments.withFailOnWarnings true)) := by
  have samePrepare : ∀ threshold,
      Session.prepare surroundings (arguments.withThreshold threshold) =
        Session.prepare surroundings arguments := fun _ => rfl
  refine ⟨fun fault => ?_, fun session prepares => ?_, fun session result prepares succeeds => ?_,
    fun flag => ?_, runExitCode_withFailOnWarnings surroundings arguments⟩
  · rw [run_eq_error_iff, run_eq_error_iff, samePrepare, samePrepare]
  · refine ⟨_, _, run_eq_ok_iff.mpr ⟨session, prepares, rfl⟩,
      run_eq_ok_iff.mpr ⟨session, prepares, rfl⟩, rfl, rfl,
      shown_withThreshold_error session surroundings.files arguments,
      errors_withThreshold session surroundings.files arguments,
      warnings_withThreshold_error session surroundings.files arguments, ?_,
      exitCode_result_withThreshold_le session surroundings.files arguments⟩
    rw [finalStatistics_withThreshold, finalStatistics_withThreshold]
  · obtain ⟨again, preparesAgain, rfl⟩ := run_eq_ok_iff.mp succeeds
    obtain rfl : again = session := Except.ok.inj (preparesAgain.symm.trans prepares)
    have bound := (again.result surroundings.files arguments).exitCode_le_one
    exact ⟨by omega, exitCode_eq_one_iff_shown again surroundings.files arguments⟩
  · have samePrepareFlag :
        Session.prepare surroundings ((arguments.withThreshold .error).withFailOnWarnings flag) =
          Session.prepare surroundings arguments := rfl
    rw [run_eq, run_eq, samePrepare, samePrepareFlag]
    cases Session.prepare surroundings arguments with
    | error fault =>
        show Except.error fault = Except.error fault
        rfl
    | ok session =>
        simp only [Except.map, outcome_withFailOnWarnings]

/-- A database with one feature, which is not supported anywhere. -/
def gapDatabaseText : String :=
  "\x7b\"features\":\x7b\"gap\":\x7b\"status\":\x7b\"baseline\":false\x7d,"
    ++ "\"compat_features\":[\"css.properties.gap\"]\x7d\x7d\x7d"

/-- A stylesheet that declares its property and has a brace too many. -/
def gapSheet : Surroundings where
  files := ⟨⟨[⟨["a.css"], .file (encodeUtf8 "a\x7bgap:0\x7d\x7d".toList)⟩,
    ⟨["d.json"], .file (encodeUtf8 gapDatabaseText.toList)⟩], by decide, by decide⟩, []⟩
  datasetVariable := some "d.json"

theorem run_threshold_gapSheet :
    ∃ session strict result, Session.prepare gapSheet allSheets = .ok session ∧
      run gapSheet (allSheets.withThreshold .error) = .ok strict ∧
      run gapSheet allSheets = .ok result ∧
      (session.shown gapSheet.files allSheets).map (·.diagnostic.severity) = [.warning, .error] ∧
      (session.shown gapSheet.files (allSheets.withThreshold .error)).map
        (·.diagnostic.severity) = [.error] ∧
      strict.summary.errors = 1 ∧ strict.summary.warnings = 0 ∧ result.exitCode = 1 := by
  have severities : (Session.prepare gapSheet allSheets).toOption.map (fun session =>
      ((session.shown gapSheet.files allSheets).map (·.diagnostic.severity),
        (session.shown gapSheet.files (allSheets.withThreshold .error)).map
          (·.diagnostic.severity),
        (session.finalSummary gapSheet.files (allSheets.withThreshold .warning)).errors)) =
      some ([.warning, .error], [.error], 1) := by decide +kernel
  obtain ⟨session, prepares, parts⟩ := exists_session severities
  simp only [Prod.mk.injEq] at parts
  obtain ⟨both, left, errors⟩ := parts
  have succeeds := run_eq_ok_iff.mpr ⟨session, prepares, rfl⟩
  obtain ⟨_, atThreshold, failing, _, _⟩ := run_threshold gapSheet allSheets
  obtain ⟨strict, lenient, strictly, leniently, _, isLenient, _, sameErrors, noWarnings, _, _⟩ :=
    atThreshold session prepares
  have isError : ∃ shown ∈ session.shown gapSheet.files allSheets,
      shown.diagnostic.severity = .error :=
    List.mem_map.mp (both ▸ List.mem_cons_of_mem _ List.mem_cons_self)
  refine ⟨session, strict, _, prepares, strictly, succeeds, both, left, ?_, noWarnings,
    (failing session _ prepares succeeds).2.mpr (.inl isError)⟩
  rw [sameErrors, isLenient]
  exact errors

end StyleBaseline
