/-
**Checking a stylesheet.** The rule on support looks at each declared property in turn, and at the
end of the sheet records the size of the index. Unmatched braces are reported besides, if that is
asked for.

* `Findings.step` — what the rule adds at an event.
* `check` — the diagnostics of a stylesheet by position, and its statistics.
-/
import StyleBaseline.Dataset.Verdict
import StyleBaseline.Report.Diagnostic
import StyleBaseline.Sorting
import StyleBaseline.Stylesheet.Outline
import StyleBaseline.Table
import StyleBaseline.Text.Lowercase

namespace StyleBaseline

/-- Numbers by name, in the order of the names. A later number takes the place of an earlier one of
the same name. -/
abbrev Statistics := Table Nat

/-- The name of the number of properties in the index. -/
def propertiesTracked : String := "baseline-properties-tracked"

/-- What the rule on support has to say of one declaration, whose property counts in lower case. -/
def diagnose? (index : Index) (severity : Severity) (declaration : Declaration) :
    Option Diagnostic :=
  let property := lowercase declaration.property
  ((index.verdict property).message? property).map fun message =>
    ⟨.baselineCheck, severity, message, declaration.span, declaration.line, declaration.column⟩

/-- Diagnostics and statistics. -/
structure Findings where
  diagnostics : List Diagnostic
  statistics : Statistics
deriving DecidableEq

namespace Findings

/-- Nothing found. -/
def empty : Findings :=
  ⟨[], Table.empty⟩

/-- What is found after one more event. -/
def step (index : Index) (severity : Severity) (findings : Findings) : SheetEvent → Findings
  | .declaration declaration =>
      ⟨findings.diagnostics ++ (diagnose? index severity declaration).toList, findings.statistics⟩
  | .endOfSheet =>
      ⟨findings.diagnostics, findings.statistics.insert propertiesTracked index.size⟩

/-- What is found in a run of events. -/
def ofEvents (index : Index) (severity : Severity) (events : List SheetEvent) : Findings :=
  events.foldl (step index severity) empty

end Findings

/-- What is checked. -/
structure CheckOptions where
  /-- The severity of diagnostics on support; none if the rule is off. -/
  baseline : Option Severity
  /-- Whether unmatched braces are reported. -/
  parseErrors : Bool
deriving DecidableEq, Repr

/-- Only support is checked, with warnings. -/
def CheckOptions.default : CheckOptions :=
  ⟨some .warning, false⟩

/-- The diagnostic for an unmatched brace. -/
def BlockFault.diagnostic (table : LineTable) (fault : BlockFault) : Diagnostic :=
  let position := (table.position? fault.span.start).getD ⟨1, 1⟩
  ⟨.parseError, DiagnosticCode.parseError.defaultSeverity, fault.kind.message, fault.span,
    position.line, position.column⟩

/-- What the rule on support finds in an outline. -/
def supportFindings (index : Index) (outline : Outline) : Option Severity → Findings
  | none => .empty
  | some severity => .ofEvents index severity outline.events

/-- The diagnostics and statistics of a stylesheet. -/
def check (source : String) (index : Index) (options : CheckOptions) : Findings :=
  let outline := Outline.ofSource source
  let faults :=
    if options.parseErrors then
      outline.faults.map (BlockFault.diagnostic (LineTable.ofText source))
    else []
  let support := supportFindings index outline options.baseline
  ⟨sortByKey (·.span.start) (faults ++ support.diagnostics), support.statistics⟩

end StyleBaseline
