/-
**A run.** The configuration is read, the dataset is looked for, the stylesheets are selected, and
each of them is checked by itself; what is found is put together in the order of the files.

* `Session.prepare` — what a run works on. Only here a run can end with an error.
* `Session.reports` — what is found in each stylesheet that can be read.
* `run` — the output and the summary.
-/
import StyleBaseline.Dataset.Source
import StyleBaseline.Files.Selection
import StyleBaseline.Report.Check
import StyleBaseline.Report.Document
import StyleBaseline.Report.Rendering
import StyleBaseline.Settings.Arguments
import StyleBaseline.Settings.ConfigFile

namespace StyleBaseline

/-- What a run finds around it. -/
structure Surroundings where
  files : FileSystem
  /-- The value of the environment variable that names a dataset. -/
  datasetVariable : Option String

/-- Why a run ends without a result. -/
inductive RunFault where
  | config (fault : ConfigFault)
  | invalidGlob (fault : GlobFault)
  | missingPath (path : Path)
deriving DecidableEq, Repr

/-- The wording of a fault. -/
def RunFault.message : RunFault → String
  | config fault => fault.message
  | invalidGlob fault => "invalid glob pattern: " ++ fault.message
  | missingPath path => "path not found: " ++ path.text

/-! ### Preparation -/

/-- What a run works on. -/
structure Session where
  workspace : Path
  config : Config
  dataset : LoadedIndex
  selected : List Path

namespace Session

/-- The way to the dataset. A path among the arguments goes before one in the configuration. -/
def source (surroundings : Surroundings) (workspace : Path) (config : Config)
    (arguments : Arguments) : DatasetSource where
  explicit := arguments.featuresPath.map workspace.join <|> config.datasetPath? workspace
  environment := surroundings.datasetVariable
  searchRoot := some workspace

/-- What a run with the given arguments works on. -/
def prepare [GlobEngine] (surroundings : Surroundings) (arguments : Arguments) :
    Except RunFault Session := do
  let files := surroundings.files
  let workspace := files.workingPath.join arguments.workspace
  let config ← (Config.load files workspace arguments.config).mapError .config
  let dataset := LoadedIndex.ofSource files (source surroundings workspace config arguments)
  let ignored ← (IgnoreSet.ofTexts (arguments.ignored ++ config.ignored)).mapError .invalidGlob
  let selected ← (selectFiles files workspace arguments.paths ignored).mapError .missingPath
  .ok ⟨workspace, config, dataset, selected⟩

end Session

/-! ### Stylesheets -/

/-- What is found in a stylesheet and is grave enough to be shown. -/
structure FileReport where
  path : Path
  source : String
  diagnostics : List Diagnostic
  statistics : Statistics
deriving DecidableEq

/-- Whether a severity is not below a threshold. -/
def Severity.reaches (severity threshold : Severity) : Bool :=
  match threshold with
  | .warning => true
  | .error => severity = .error

namespace FileReport

/-- The number of diagnostics of a severity. -/
def count (report : FileReport) (severity : Severity) : Nat :=
  (report.diagnostics.filter (·.severity = severity)).length

/-- The diagnostics as text, but for the format that is one document. -/
def text (report : FileReport) : OutputFormat → String
  | .human => humanText report.path.text report.diagnostics
  | .humanVerbose => verboseText report.path.text report.source report.diagnostics
  | .machine => machineText report.path.text report.diagnostics
  | .json => ""

/-- The diagnostics as entries of a document. -/
def entries (report : FileReport) : List ReportEntry :=
  ReportEntry.ofFile report.path.text report.source report.diagnostics

end FileReport

/-- The number of diagnostics of a severity in several stylesheets. -/
def totalCount (reports : List FileReport) (severity : Severity) : Nat :=
  reports.foldr (fun report total => report.count severity + total) 0

namespace Session

/-- What is checked in a run. -/
def options (session : Session) (arguments : Arguments) : CheckOptions :=
  ⟨session.config.severity, arguments.parseErrors⟩

/-- What is found in the stylesheet at a path, if that can be read. -/
def report? (session : Session) (files : FileSystem) (arguments : Arguments) (path : Path) :
    Option FileReport :=
  (files.readText path).toOption.map fun source =>
    let findings := check source session.dataset.index (session.options arguments)
    ⟨shownPath session.workspace path, source,
      findings.diagnostics.filter (·.severity.reaches arguments.threshold), findings.statistics⟩

/-- What is found in the stylesheets, in the order of their paths. -/
def reports (session : Session) (files : FileSystem) (arguments : Arguments) :
    List FileReport :=
  session.selected.filterMap (session.report? files arguments)

/-- The statistics of a run before the first stylesheet. -/
def ownStatistics (session : Session) : Statistics :=
  if session.config.severity.isSome then
    Table.empty.insert propertiesTracked session.dataset.index.size
  else Table.empty

/-- The statistics of a run with its stylesheets. -/
def statistics (session : Session) (reports : List FileReport) : Statistics :=
  reports.foldl (fun statistics report => statistics.merge report.statistics) session.ownStatistics

/-- The summary of a run. A stylesheet that cannot be read counts as a file. -/
def summary (session : Session) (arguments : Arguments) (reports : List FileReport) : Summary where
  files := session.selected.length
  errors := totalCount reports .error
  warnings := totalCount reports .warning
  failOnWarnings := arguments.failOnWarnings

end Session

/-! ### The whole -/

/-- The output of a run and its summary. -/
structure RunResult where
  output : String
  summary : Summary
deriving DecidableEq, Repr

/-- What a run prints: one document, or the diagnostics of each file, then the statistics if they
are asked for, and last the summary. -/
def runOutput (arguments : Arguments) (reports : List FileReport) (statistics : Statistics)
    (summary : Summary) : String :=
  match arguments.output with
  | .json => (Report.mk (reports.flatMap (·.entries)) statistics).text ++ "\n"
  | format =>
      String.join (reports.map (·.text format))
        ++ (if arguments.statistics then statisticsText statistics else "")
        ++ summary.text ++ "\n"

/-- A run with the given arguments. -/
def run [GlobEngine] (surroundings : Surroundings) (arguments : Arguments) :
    Except RunFault RunResult :=
  (Session.prepare surroundings arguments).map fun session =>
    let reports := session.reports surroundings.files arguments
    let summary := session.summary arguments reports
    ⟨runOutput arguments reports (session.statistics reports) summary, summary⟩

namespace RunResult

/-- The exit code of a run with a result. -/
def exitCode (result : RunResult) : Nat :=
  if result.summary.shouldFail then 1 else 0

end RunResult

end StyleBaseline
