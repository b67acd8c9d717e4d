/-
**The report as a JSON document.** All diagnostics of a run with their files and both ends of their
spans, and the statistics of the run.

* `ReportEntry.ofDiagnostic` — the entry for a diagnostic.
* `Report.text` — the document.
-/
import StyleBaseline.Json.Layout
import StyleBaseline.Report.Check
import StyleBaseline.Report.Diagnostic
import StyleBaseline.Text.Lines

namespace StyleBaseline

open Json (Value)

/-- A place in a file, by line and column and by offset. -/
structure Place where
  line : Nat
  column : Nat
  offset : Nat
deriving DecidableEq, Repr

/-- A diagnostic with its file and both ends of its span. -/
structure ReportEntry where
  severity : String
  path : String
  start : Place
  stop : Place
  message : String
  code : String
deriving DecidableEq, Repr

/-- The entries of a run and its statistics. -/
structure Report where
  entries : List ReportEntry
  statistics : Statistics
deriving DecidableEq

/-- The value of a whole number. -/
def numberValue (n : Nat) : Value :=
  .number (.natural n)

/-- The value of a place. -/
def Place.value (place : Place) : Value :=
  .object [("line", numberValue place.line), ("column", numberValue place.column),
    ("offset", numberValue place.offset)]

namespace ReportEntry

/-- The entry for a diagnostic of a file. If its span does not end in the source, it is taken to end
where it starts. -/
def ofDiagnostic (path : String) (table : LineTable) (diagnostic : Diagnostic) : ReportEntry :=
  let stop := (table.position? diagnostic.span.stop).getD ⟨diagnostic.line, diagnostic.column⟩
  { severity := diagnostic.severity.text
    path := path
    start := ⟨diagnostic.line, diagnostic.column, diagnostic.span.start⟩
    stop := ⟨stop.line, stop.column, diagnostic.span.stop⟩
    message := diagnostic.message
    code := diagnostic.code.text }

/-- The entries for the diagnostics of a file. -/
def ofFile (path source : String) (diagnostics : List Diagnostic) : List ReportEntry :=
  diagnostics.map (ofDiagnostic path (LineTable.ofText source))

/-- The value of an entry. -/
def value (entry : ReportEntry) : Value :=
  .object [("type", .string entry.severity), ("filename", .string entry.path),
    ("start", entry.start.value), ("end", entry.stop.value), ("message", .string entry.message),
    ("code", .string entry.code)]

end ReportEntry

namespace Report

/-- The value of a report. -/
def value (report : Report) : Value :=
  .object [("diagnostics", .array (report.entries.map (·.value))),
    ("stats", .object (report.statistics.entries.map fun entry => (entry.1, numberValue entry.2)))]

/-- The document of a report. -/
def text (report : Report) : String :=
  report.value.layout

end Report

end StyleBaseline
