/-
**Runs of events.** The rule on support can be told of declarations and of ends of sheets in any
order and any number. Each event has an effect of its own: a declaration adds its report behind
those that are there, if it is to be reported, and leaves the statistics alone; the end of a sheet
adds no report, and records the size of the index in place of what it recorded before.

* `diagnose?_cases` — what a declaration alone yields.
* `Findings.ofEvents_concat` — one event more.
* `Findings.diagnostics_ofEvents_append`, `Findings.statistics_ofEvents` — reports and statistics of
  a run, from that.
* `Findings.ofEvents_eventByEvent` — the whole.
-/

import StyleBaseline.Proofs.Report.SupportDiagnostics
import StyleBaseline.Proofs.Table

namespace StyleBaseline

/-! ### One declaration -/

/-- There is something to say about a property if and only if it is to be reported. -/
@[simp]
theorem Verdict.isSome_message? (verdict : Verdict) (property : String) :
    (verdict.message? property).isSome = verdict.isReportable := by
  obtain ⟨support, contributing⟩ := verdict
  cases support <;> rfl

section Rule

variable (index : Index) (severity : Severity)

/-- **What a declaration yields**: one report if its property is to be reported, at its place and
with the severity of the rule, and none otherwise. -/
theorem diagnose?_cases (declaration : Declaration) :
    let property := lowercase declaration.property
    let verdict := index.verdict property
    (verdict.isReportable = true ∧ ∃ message, verdict.message? property = some message ∧
      diagnose? index severity declaration = some ⟨.baselineCheck, severity, message,
        declaration.span, declaration.line, declaration.column⟩) ∨
    (verdict.isReportable = false ∧ diagnose? index severity declaration = none) := by
  intro property verdict
  have reported := verdict.isSome_message? property
  unfold diagnose?
  cases wording : verdict.message? property with
  | none =>
      rw [wording] at reported
      exact .inr ⟨reported.symm, congrArg (Option.map _) wording⟩
  | some message =>
      rw [wording] at reported
      exact .inl ⟨reported.symm, message, rfl, congrArg (Option.map _) wording⟩

namespace Findings

/-! ### One event more -/

/-- **One event more** behind a run. -/
theorem ofEvents_concat (events : List SheetEvent) (event : SheetEvent) :
    ofEvents index severity (events ++ [event]) =
      (ofEvents index severity events).step index severity event :=
  List.foldl_concat ..

/-- The reports on a declaration alone. -/
theorem diagnostics_ofEvents_declaration (declaration : Declaration) :
    (ofEvents index severity [.declaration declaration]).diagnostics =
      (diagnose? index severity declaration).toList :=
  List.nil_append _

/-! ### Runs -/

/-- What is reported of one run is not changed by another one behind it. -/
@[simp]
theorem diagnostics_ofEvents_append (first second : List SheetEvent) :
    (ofEvents index severity (first ++ second)).diagnostics =
      (ofEvents index severity first).diagnostics ++
        (ofEvents index severity second).diagnostics := by
  rw [diagnostics_ofEvents, diagnostics_ofEvents, diagnostics_ofEvents, List.filterMap_append,
    List.filterMap_append]

/-- The reports of a run are those on its declarations, one after another. -/
theorem diagnostics_ofEvents_eq_flatMap (events : List SheetEvent) :
    (ofEvents index severity events).diagnostics =
      (events.filterMap SheetEvent.declaration?).flatMap fun declaration =>
        (ofEvents index severity [.declaration declaration]).diagnostics := by
  rw [diagnostics_ofEvents, List.filterMap_eq_flatMap_toList]
  simp only [diagnostics_ofEvents_declaration]

/-- The statistics with the size of an index, and nothing else. -/
def sizeRecorded : Statistics :=
  Table.empty.insert propertiesTracked index.size

/-- **The statistics of a run**: none until the end of a sheet is met, and the size of the index from
then on, however often the end is met again. -/
theorem statistics_ofEvents (events : List SheetEvent) :
    (ofEvents index severity events).statistics =
      if .endOfSheet ∈ events then sizeRecorded index else Table.empty := by
  induction events using List.reverseRecOn with
  | nil => rfl
  | append_singleton events event ih =>
      rw [ofEvents_concat]
      cases event with
      | declaration declaration =>
          have same : .endOfSheet ∈ events ++ [.declaration declaration] ↔
              SheetEvent.endOfSheet ∈ events := by simp
          simp only [same]
          exact ih
      | endOfSheet =>
          rw [if_pos (List.mem_append_right events List.mem_cons_self), step, ih]
          split
          · exact Table.insert_insert ..
          · rfl

end Findings

end Rule

namespace Findings

/-- **The rule on support looks at each event by itself.** The reports of a run are those of its
declarations alone, one after another, and so those of two runs one behind the other are the reports
of the first and then those of the second. A declaration alone yields one report, at its place and
with the severity of the rule, if the verdict on its name in lower case is to be reported, and none
otherwise. The end of a sheet adds no report and a declaration no statistics: there are none before
the end of a sheet is met, and from then on there is the number of properties in the index. -/
theorem ofEvents_eventByEvent (index : Index) (severity : Severity) :
    let found := ofEvents index severity
    let alone := fun declaration => (found [.declaration declaration]).diagnostics
    (∀ events, (found events).diagnostics =
      (events.filterMap SheetEvent.declaration?).flatMap alone) ∧
    (∀ first second, (found (first ++ second)).diagnostics =
      (found first).diagnostics ++ (found second).diagnostics) ∧
    (∀ declaration,
      let property := lowercase declaration.property
      let verdict := index.verdict property
      (verdict.isReportable = true ∧ ∃ message, verdict.message? property = some message ∧
        alone declaration = [⟨.baselineCheck, severity, message, declaration.span,
          declaration.line, declaration.column⟩]) ∨
      (verdict.isReportable = false ∧ alone declaration = [])) ∧
    (∀ events, (found (events ++ [.endOfSheet])).diagnostics = (found events).diagnostics) ∧
    (∀ events declaration, (found (events ++ [.declaration declaration])).statistics =
      (found events).statistics) ∧
    ∀ events,
      (.endOfSheet ∉ events → (found events).statistics.entries = []) ∧
      (.endOfSheet ∈ events →
        (found events).statistics.entries = [("baseline-properties-tracked", index.size)]) := by
  intro found alone
  refine ⟨diagnostics_ofEvents_eq_flatMap index severity,
    diagnostics_ofEvents_append index severity, fun declaration => ?_, fun events => ?_,
    fun events declaration => ?_, fun events => ⟨fun notMet => ?_, fun met => ?_⟩⟩
  · have yields : alone declaration = (diagnose? index severity declaration).toList :=
      diagnostics_ofEvents_declaration index severity declaration
    rcases diagnose?_cases index severity declaration with
      ⟨reportable, message, wording, report⟩ | ⟨notReportable, noReport⟩
    · exact .inl ⟨reportable, message, wording, by rw [yields, report, Option.toList_some]⟩
    · exact .inr ⟨notReportable, by rw [yields, noReport, Option.toList_none]⟩
  · show (ofEvents index severity (events ++ [.endOfSheet])).diagnostics = _
    rw [ofEvents_concat, step]
  · show (ofEvents index severity (events ++ [.declaration declaration])).statistics = _
    rw [ofEvents_concat, step]
  · show (ofEvents index severity events).statistics.entries = []
    rw [statistics_ofEvents, if_neg notMet]
    rfl
  · show (ofEvents index severity events).statistics.entries = _
    rw [statistics_ofEvents, if_pos met]
    rfl

end Findings

end StyleBaseline
