/-
**Reports as text.** Diagnostics have three forms: for people, with the line of the source and a
caret under the place besides, and one line each for other programs. Behind those of all files come
the statistics and a summary: how many files are checked, what is found in them, and whether that
makes the run fail.

* `humanText`, `verboseText`, `machineText` — the diagnostics of a file in these forms.
* `statisticsText` — the statistics.
* `Summary.text`, `Summary.shouldFail` — the summary of a run.
-/
import StyleBaseline.Report.Check
import StyleBaseline.Report.Diagnostic
import StyleBaseline.Stylesheet.Token
import StyleBaseline.Text.Lines

namespace StyleBaseline

/-! ### Diagnostics -/

/-- A text the given number of times. -/
def repeated (count : Nat) (text : String) : String :=
  String.join (List.replicate count text)

namespace Diagnostic

/-- The place of a diagnostic in a file. -/
def placeText (path : String) (diagnostic : Diagnostic) : String :=
  path ++ ":" ++ toString diagnostic.line ++ ":" ++ toString diagnostic.column

/-- The two lines that name the place and say what is wrong. -/
def headText (path : String) (diagnostic : Diagnostic) : String :=
  diagnostic.placeText path ++ "\n" ++ diagnostic.severity.text ++ ": " ++ diagnostic.message
    ++ " (" ++ diagnostic.code.text ++ ")\n"

/-- A diagnostic for people. -/
def humanText (path : String) (diagnostic : Diagnostic) : String :=
  diagnostic.headText path ++ "\n"

/-- The line of the source, and under it a caret. The column counts characters, so that each
character before it takes one space. -/
def snippetText (table : LineTable) (diagnostic : Diagnostic) : String :=
  match table.lineText? diagnostic.line with
  | none => ""
  | some text =>
      let gutter := toString diagnostic.line
      "  " ++ gutter ++ " | " ++ text ++ "\n  " ++ repeated gutter.length " " ++ " | "
        ++ repeated (diagnostic.column - 1) " " ++ "^\n"

/-- The line that names the rule of a diagnostic. -/
def ruleText (diagnostic : Diagnostic) : String :=
  match diagnostic.code.rule? with
  | none => ""
  | some rule => "  = " ++ rule.name ++ ": " ++ rule.url ++ "\n"

/-- A diagnostic for people, with the place in the source. -/
def verboseText (path : String) (table : LineTable) (diagnostic : Diagnostic) : String :=
  diagnostic.headText path ++ diagnostic.snippetText table ++ diagnostic.ruleText ++ "\n"

/-- The word for a severity on a line for programs. -/
def machineWord : Severity → String
  | .error => "ERROR"
  | .warning => "WARNING"

/-- A diagnostic on one line. -/
def machineText (path : String) (diagnostic : Diagnostic) : String :=
  machineWord diagnostic.severity ++ " " ++ diagnostic.placeText path ++ " " ++ diagnostic.message
    ++ " (" ++ diagnostic.code.text ++ ")\n"

end Diagnostic

/-- The diagnostics of a file for people. -/
def humanText (path : String) (diagnostics : List Diagnostic) : String :=
  String.join (diagnostics.map (Diagnostic.humanText path))

/-- The diagnostics of a file for people, with the places in its source. -/
def verboseText (path source : String) (diagnostics : List Diagnostic) : String :=
  String.join (diagnostics.map (Diagnostic.verboseText path (LineTable.ofText source)))

/-- The diagnostics of a file, one a line. -/
def machineText (path : String) (diagnostics : List Diagnostic) : String :=
  String.join (diagnostics.map (Diagnostic.machineText path))

/-! ### Statistics and summary -/

/-- A line with a name and its number. -/
def statisticLine (entry : String × Nat) : String :=
  entry.1 ++ ": " ++ toString entry.2 ++ "\n"

/-- The statistics, each on a line of its own. -/
def statisticsText (statistics : Statistics) : String :=
  String.join (statistics.entries.map statisticLine)

/-- The counts of a run. -/
structure Summary where
  files : Nat
  errors : Nat
  warnings : Nat
  failOnWarnings : Bool
deriving DecidableEq, Repr

/-- A number with the word for what is counted. -/
def countText (count : Nat) (word : String) : String :=
  toString count ++ " " ++ (if count = 1 then word else word ++ "s")

namespace Summary

/-- The last lines of the output of a run. -/
def text (summary : Summary) : String :=
  "====================================\nbaseline-check found " ++ countText summary.errors "error"
    ++ " and " ++ countText summary.warnings "warning" ++ " in " ++ countText summary.files "file"

/-- A run fails on any error, and on any warning if that is asked for. -/
def shouldFail (summary : Summary) : Bool :=
  0 < summary.errors || (0 < summary.warnings && summary.failOnWarnings)

end Summary

end StyleBaseline
