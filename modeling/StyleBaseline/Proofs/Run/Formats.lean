/-
**The formats of output agree.** A run does the same in every format. One format is a document with
an entry for each diagnostic; what the others print of a diagnostic can be written from its entry,
but for the line of the source that one of them adds.

* `human_eq_entry`, `machine_eq_entry`, `verbose_eq_entry` — each form of text from the entry of a
  diagnostic.
* `countP_entries` — the entries tell the counts.
* `run_formats_agree` — the results of a run in all formats.
-/

import StyleBaseline.Proofs.Run.Shown

namespace StyleBaseline

/-- Arguments with another format of output. -/
def Arguments.withOutput (arguments : Arguments) (format : OutputFormat) : Arguments :=
  { arguments with output := format }

/-! ### Entries as text -/

namespace ReportEntry

variable (entry : ReportEntry)

/-- The place of an entry. -/
def placeText : String :=
  entry.path ++ ":" ++ toString entry.start.line ++ ":" ++ toString entry.start.column

/-- The lines that name the place of an entry and say what is wrong. -/
def headText : String :=
  entry.placeText ++ "\n" ++ entry.severity ++ ": " ++ entry.message ++ " (" ++ entry.code ++ ")\n"

/-- An entry for people. -/
def humanText : String :=
  entry.headText ++ "\n"

/-- The word for the severity of an entry on a line for programs. -/
def machineWord : String :=
  if entry.severity = Severity.error.text then "ERROR" else "WARNING"

/-- An entry on one line. -/
def machineText : String :=
  entry.machineWord ++ " " ++ entry.placeText ++ " " ++ entry.message ++ " (" ++ entry.code ++ ")\n"

end ReportEntry

namespace ShownDiagnostic

variable (shown : ShownDiagnostic)

/-- What stands below the head of a diagnostic for people: the line of the source with a caret, and
the line on the rule. -/
def detailText : String :=
  shown.diagnostic.snippetText (LineTable.ofText shown.source) ++ shown.diagnostic.ruleText ++ "\n"

@[simp]
theorem headText_entry : shown.entry.headText = shown.diagnostic.headText shown.path :=
  rfl

@[simp]
theorem machineWord_entry :
    shown.entry.machineWord = Diagnostic.machineWord shown.diagnostic.severity := by
  show (if shown.diagnostic.severity.text = Severity.error.text then "ERROR" else "WARNING") = _
  cases shown.diagnostic.severity with
  | warning => exact if_neg (by decide)
  | error => exact if_pos rfl

theorem human_eq_entry : shown.text .human = shown.entry.humanText :=
  rfl

theorem machine_eq_entry : shown.text .machine = shown.entry.machineText := by
  unfold ReportEntry.machineText
  rw [machineWord_entry]
  rfl

theorem verbose_eq_entry : shown.text .humanVerbose = shown.entry.headText ++ shown.detailText := by
  unfold detailText
  rw [headText_entry, ← String.append_assoc, ← String.append_assoc]
  rfl

/-- The entry of a diagnostic tells its severity. -/
theorem hasSeverity_iff_entry (severity : Severity) :
    shown.hasSeverity severity = decide (shown.entry.severity = severity.text) := by
  unfold hasSeverity
  show _ = decide (shown.diagnostic.severity.text = severity.text)
  cases shown.diagnostic.severity <;> cases severity <;> rfl

end ShownDiagnostic

/-! ### Results in all formats -/

section Formats

variable (session : Session) (files : FileSystem) (arguments : Arguments)

/-- **The entries tell the counts.** -/
theorem countP_entries (severity : Severity) :
    (session.shown files arguments).countP (·.hasSeverity severity) =
      (session.document files arguments).entries.countP (·.severity = severity.text) := by
  unfold Session.document
  rw [List.countP_map]
  congr 1
  funext shown
  exact shown.hasSeverity_iff_entry severity

/-- What a run works on does not depend on the format. -/
@[simp]
theorem prepare_withOutput [GlobEngine] (surroundings : Surroundings) (format : OutputFormat) :
    Session.prepare surroundings (arguments.withOutput format) =
      Session.prepare surroundings arguments :=
  rfl

/-- What is made of the entries is made of what is shown. -/
theorem map_entries_document {α : Type} (make : ReportEntry → α) :
    (session.document files arguments).entries.map make =
      (session.shown files arguments).map fun shown => make shown.entry := by
  unfold Session.document
  rw [List.map_map]
  rfl

theorem result_json : session.result files (arguments.withOutput .json) =
    ⟨(session.document files arguments).text ++ "\n", session.finalSummary files arguments⟩ :=
  rfl

theorem result_human : session.result files (arguments.withOutput .human) =
    ⟨String.join ((session.document files arguments).entries.map (·.humanText))
      ++ session.ending files arguments, session.finalSummary files arguments⟩ := by
  rw [map_entries_document]
  simp only [← ShownDiagnostic.human_eq_entry]
  rfl

theorem result_machine : session.result files (arguments.withOutput .machine) =
    ⟨String.join ((session.document files arguments).entries.map (·.machineText))
      ++ session.ending files arguments, session.finalSummary files arguments⟩ := by
  rw [map_entries_document]
  simp only [← ShownDiagnostic.machine_eq_entry]
  rfl

theorem result_verbose : session.result files (arguments.withOutput .humanVerbose) =
    ⟨String.join ((session.shown files arguments).map fun shown =>
        shown.entry.headText ++ shown.detailText)
      ++ session.ending files arguments, session.finalSummary files arguments⟩ := by
  simp only [← ShownDiagnostic.verbose_eq_entry]
  rfl

end Formats

/-- With another format a run ends with the same summary, or with the same fault. -/
theorem map_summary_withOutput [GlobEngine] (surroundings : Surroundings) (arguments : Arguments)
    (format : OutputFormat) :
    (run surroundings (arguments.withOutput format)).map (·.summary) =
      (run surroundings arguments).map (·.summary) := by
  rw [run_eq, run_eq, prepare_withOutput]
  cases Session.prepare surroundings arguments <;> rfl

/-- The summary tells the exit code. -/
theorem runExitCode_congr {first second : Except RunFault RunResult}
    (same : first.map (·.summary) = second.map (·.summary)) :
    runExitCode first = runExitCode second := by
  cases first with
  | error fault =>
      cases second with
      | error other => rfl
      | ok result => exact nomatch same
  | ok result =>
      cases second with
      | error fault => exact nomatch same
      | ok other =>
          have sameSummary : result.summary = other.summary := Except.ok.inj same
          simp only [runExitCode, RunResult.exitCode, sameSummary]

end StyleBaseline
