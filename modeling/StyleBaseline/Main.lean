/-
**The command line.** What a run can come to look at is taken from the disk into a file tree; the
run itself is then a function of it.
-/
import StyleBaseline.Run

namespace StyleBaseline

/-- How the program is called. -/
def usage : String :=
  String.intercalate "\n"
    ["Usage: baseline-check [OPTIONS] [PATHS]...",
     "",
     "Options:",
     "  --workspace <DIR>    Working directory for the check [default: .]",
     "  --output <FORMAT>    human, human-verbose, json or machine [default: human]",
     "  --features-db <FILE> Dataset to use instead of the one that is found",
     "  --config <FILE>      Config file to use instead of the one in the workspace",
     "  --ignore <PATTERN>   Files to ignore, can be given several times",
     "  --threshold <LEVEL>  error or warning [default: warning]",
     "  --fail-on-warnings   Exit with an error on warnings",
     "  --stats              Print run statistics",
     "  --parse-errors       Report stylesheet structure errors",
     "  -h, --help           Print help",
     "  -V, --version        Print version"]

/-- The location that an absolute path without steps to the parent spells. -/
def locationOf (text : String) : Location :=
  ((slashPieces text.toList).map String.ofList).filter fun piece => !isSilent piece

/-- The entry of a single file on the disk, if it can be read. -/
def fileEntries (path : String) : IO (List Entry) := do
  try
    let bytes ← IO.FS.readBinFile path
    return [⟨locationOf path, .file bytes.toList⟩]
  catch _ => return []

/-- The entries of the stylesheets in a directory on the disk, at any depth. What cannot be read has
no entry. -/
partial def stylesheetEntries (directory : String) : IO (List Entry) := do
  try
    let mut entries := []
    for child in (← (← IO.FS.realPath directory).readDir) do
      let path := directory ++ "/" ++ child.fileName
      if ← child.path.isDir then
        entries := (← stylesheetEntries path) ++ entries
      else if Path.nameExtension? child.fileName = some stylesheetExtension then
        entries := (← fileEntries path) ++ entries
    return entries
  catch _ => return []

/-- The entries of what a path leads to on the disk. Of a directory the stylesheets in it count if
it is searched. -/
def entriesAt (searched : Bool) (path : Path) : IO (List Entry) := do
  try
    let place ← IO.FS.realPath path.text
    if ← place.isDir then
      let found ← if searched then stylesheetEntries place.toString else pure []
      return ⟨locationOf place.toString, .directory⟩ :: found
    else fileEntries place.toString
  catch _ => return []

/-- The entries of what paths lead to, and of the directories on the way. -/
def entriesAlong (searched : Bool) (paths : List Path) : IO (List Entry) := do
  let mut entries := []
  for path in paths do
    entries := entries ++ (← entriesAt searched path)
    for above in path.ancestors.tail do
      entries := entries ++ (← entriesAt false above)
  return entries

/-- Runs the program on what the disk holds. -/
def runOnDisk (arguments : Arguments) : IO UInt32 := do
  let here ← IO.FS.realPath "."
  let location := locationOf here.toString
  let filesOf (entries : List Entry) : FileSystem := ⟨.ofEntries entries, location⟩
  let workspace := (filesOf []).workingPath.join arguments.workspace
  let settings ← entriesAlong false
    (workspace.join configName :: arguments.config.toList
      ++ workspace.ancestors.map (·.join packagePath))
  let config := Config.load (filesOf settings) workspace arguments.config
  let datasetName ← IO.getEnv datasetVariable
  let datasets ← entriesAlong false
    (arguments.featuresPath.toList.map workspace.join ++ datasetName.toList.map (fun text => ⟨text⟩)
      ++ (config.toOption.bind (·.datasetPath? workspace)).toList)
  let sheets ← entriesAlong true (searchRoots workspace arguments.paths)
  match run ⟨filesOf (settings ++ datasets ++ sheets), datasetName⟩ arguments with
  | .ok result =>
      IO.print result.output
      return result.exitCode.toUInt32
  | .error fault =>
      IO.eprintln ("Error: " ++ fault.message)
      return 1

end StyleBaseline

open StyleBaseline in
/-- The program. -/
def main (texts : List String) : IO UInt32 := do
  match StyleBaseline.Arguments.ofList texts with
  | .ok arguments => runOnDisk arguments
  | .error .displayHelp =>
      IO.println usage
      return 0
  | .error .displayVersion =>
      IO.println "baseline-check 0.3.1"
      return 0
  | .error fault =>
      IO.eprintln usage
      return fault.exitCode.toUInt32
