/-
**Command line arguments.** Options with a value, flags, and paths, in any order. A value may follow
its option or be attached with an equals sign; an option whose value follows is complete only when
the next argument is known not to be in the way, so that its faults show there.

* `Arguments.ofList` — the settings that arguments make.
* `ArgumentFault` — why they make none; asking for help is one of the reasons.
-/
import StyleBaseline.Files.Path
import StyleBaseline.Report.Diagnostic

namespace StyleBaseline

/-- The forms of output. -/
inductive OutputFormat where
  | human
  | humanVerbose
  | json
  | machine
deriving DecidableEq, Repr

/-- The form of output of a name. -/
def OutputFormat.ofName? : String → Option OutputFormat
  | "human" => some .human
  | "human-verbose" => some .humanVerbose
  | "json" => some .json
  | "machine" => some .machine
  | _ => none

/-- The least severity that is shown, by its name. -/
def thresholdOfName? : String → Option Severity
  | "error" => some .error
  | "warning" => some .warning
  | _ => none

/-- What a run is asked to do. -/
structure Arguments where
  paths : List Path
  workspace : Path
  output : OutputFormat
  featuresPath : Option Path
  config : Option Path
  ignored : List String
  threshold : Severity
  failOnWarnings : Bool
  statistics : Bool
  parseErrors : Bool
deriving DecidableEq, Repr

/-- Why arguments make no settings. -/
inductive ArgumentFault where
  | unknownArgument
  /-- A value is attached to a flag. -/
  | tooManyValues
  /-- A value is missing or is none of the possible ones. -/
  | invalidValue
  /-- What can be given once is given again. -/
  | argumentConflict
  | displayHelp
  | displayVersion
deriving DecidableEq, Repr

/-- The exit code of a run that ends because of its arguments. -/
def ArgumentFault.exitCode : ArgumentFault → Nat
  | displayHelp | displayVersion => 0
  | _ => 2

/-! ### Single arguments -/

/-- The options that take a value. -/
inductive ValueOption where
  | workspace
  | output
  | featuresDb
  | config
  | ignore
  | threshold
deriving DecidableEq, Repr

/-- The options that take none. -/
inductive Flag where
  | failOnWarnings
  | stats
  | parseErrors
  | help
  | version
deriving DecidableEq, Repr

/-- The option of a name. -/
def ValueOption.ofName? : String → Option ValueOption
  | "workspace" => some .workspace
  | "output" => some .output
  | "features-db" => some .featuresDb
  | "config" => some .config
  | "ignore" => some .ignore
  | "threshold" => some .threshold
  | _ => none

/-- The flag of a name. -/
def Flag.ofName? : String → Option Flag
  | "fail-on-warnings" => some .failOnWarnings
  | "stats" => some .stats
  | "parse-errors" => some .parseErrors
  | "help" => some .help
  | "version" => some .version
  | _ => none

/-- The flag of a letter. -/
def Flag.ofLetter? : Char → Option Flag
  | 'h' => some .help
  | 'V' => some .version
  | _ => none

/-- The form of an argument. -/
inductive ArgumentForm where
  /-- Two hyphens, behind which all arguments are paths. -/
  | separator
  /-- A name behind two hyphens, perhaps with a value attached. -/
  | long (name : String) (attached : Option String)
  /-- Letters behind one hyphen. -/
  | letters (letters : List Char)
  /-- A path or a value. -/
  | plain (text : String)
deriving DecidableEq, Repr

/-- The form of a text as an argument. A single hyphen is plain. -/
def ArgumentForm.ofText (text : String) : ArgumentForm :=
  match text.toList with
  | ['-', '-'] => .separator
  | '-' :: '-' :: cs =>
      let name := String.ofList (cs.takeWhile (· ≠ '='))
      match cs.dropWhile (· ≠ '=') with
      | [] => .long name none
      | _ :: value => .long name (some (String.ofList value))
  | '-' :: c :: cs => .letters (c :: cs)
  | _ => .plain text

/-! ### Arguments in turn -/

/-- The settings that are made so far. -/
structure ArgumentDraft where
  paths : List Path
  workspace : Option Path
  output : Option OutputFormat
  featuresPath : Option Path
  config : Option Path
  ignored : List String
  threshold : Option Severity
  failOnWarnings : Bool
  statistics : Bool
  parseErrors : Bool
  /-- An option that is not complete, with the value that follows it. -/
  pending : Option (ValueOption × Option String)

namespace ArgumentDraft

/-- Before the first argument. -/
def empty : ArgumentDraft :=
  ⟨[], none, none, none, none, [], none, false, false, false, none⟩

/-- The value for what can be given once, unless it is given already. -/
def once {α : Type} (old : Option α) (value : Option α) : Except ArgumentFault (Option α) :=
  if old.isSome then .error .argumentConflict
  else if value.isNone then .error .invalidValue
  else .ok value

/-- A draft with the value of an option. -/
def setOption (draft : ArgumentDraft) (option : ValueOption) (value : String) :
    Except ArgumentFault ArgumentDraft :=
  match option with
  | .workspace => (once draft.workspace (some ⟨value⟩)).map ({ draft with workspace := · })
  | .output => (once draft.output (OutputFormat.ofName? value)).map ({ draft with output := · })
  | .featuresDb =>
      (once draft.featuresPath (some ⟨value⟩)).map ({ draft with featuresPath := · })
  | .config => (once draft.config (some ⟨value⟩)).map ({ draft with config := · })
  | .ignore => .ok { draft with ignored := draft.ignored ++ [value] }
  | .threshold =>
      (once draft.threshold (thresholdOfName? value)).map ({ draft with threshold := · })

/-- Completes the option that is pending. It needs a value. -/
def settle (draft : ArgumentDraft) : Except ArgumentFault ArgumentDraft :=
  match draft.pending with
  | none => .ok draft
  | some (_, none) => .error .invalidValue
  | some (option, some value) => { draft with pending := none }.setOption option value

/-- A draft with a flag. -/
def setFlag (draft : ArgumentDraft) (flag : Flag) : Except ArgumentFault ArgumentDraft := do
  let draft ← draft.settle
  match flag with
  | .failOnWarnings =>
      if draft.failOnWarnings then .error .argumentConflict
      else .ok { draft with failOnWarnings := true }
  | .stats =>
      if draft.statistics then .error .argumentConflict else .ok { draft with statistics := true }
  | .parseErrors =>
      if draft.parseErrors then .error .argumentConflict else .ok { draft with parseErrors := true }
  | .help => .error .displayHelp
  | .version => .error .displayVersion

/-- A draft with the flags of letters, in turn. -/
def setLetters (draft : ArgumentDraft) : List Char → Except ArgumentFault ArgumentDraft
  | [] => .ok draft
  | letter :: letters =>
      match Flag.ofLetter? letter with
      | none => .error .unknownArgument
      | some flag => do
          let draft ← draft.setFlag flag
          draft.setLetters letters

/-- A draft with a named option or flag. An attached value is taken at once; any other option waits
for its value. -/
def setLong (draft : ArgumentDraft) (name : String) (attached : Option String) :
    Except ArgumentFault ArgumentDraft :=
  match ValueOption.ofName? name, Flag.ofName? name, attached with
  | some option, _, some value => do
      let draft ← draft.settle
      draft.setOption option value
  | some option, _, none => do
      let draft ← draft.settle
      .ok { draft with pending := some (option, none) }
  | none, some _, some _ => .error .tooManyValues
  | none, some flag, none => draft.setFlag flag
  | none, none, _ => .error .unknownArgument

/-- A draft with more paths. -/
def addPaths (draft : ArgumentDraft) (texts : List String) :
    Except ArgumentFault ArgumentDraft := do
  let draft ← draft.settle
  .ok { draft with paths := draft.paths ++ texts.map (fun text => ⟨text⟩) }

/-- A draft with a plain text: the value of the option that waits for one, and else a path. -/
def addPlain (draft : ArgumentDraft) (text : String) : Except ArgumentFault ArgumentDraft :=
  match draft.pending with
  | some (option, none) => .ok { draft with pending := some (option, some text) }
  | _ => draft.addPaths [text]

/-- A draft with further arguments. -/
def addAll (draft : ArgumentDraft) : List String → Except ArgumentFault ArgumentDraft
  | [] => draft.settle
  | text :: texts =>
      match ArgumentForm.ofText text with
      | .separator => draft.addPaths texts
      | .long name attached => do
          let draft ← draft.setLong name attached
          draft.addAll texts
      | .letters letters => do
          let draft ← draft.setLetters letters
          draft.addAll texts
      | .plain text => do
          let draft ← draft.addPlain text
          draft.addAll texts

/-- The settings that are made when nothing more is given. -/
def arguments (draft : ArgumentDraft) : Arguments where
  paths := draft.paths
  workspace := draft.workspace.getD ⟨"."⟩
  output := draft.output.getD .human
  featuresPath := draft.featuresPath
  config := draft.config
  ignored := draft.ignored
  threshold := draft.threshold.getD .warning
  failOnWarnings := draft.failOnWarnings
  statistics := draft.statistics
  parseErrors := draft.parseErrors

end ArgumentDraft

/-- The settings that the arguments of a command line make. -/
def Arguments.ofList (texts : List String) : Except ArgumentFault Arguments :=
  (ArgumentDraft.empty.addAll texts).map ArgumentDraft.arguments

end StyleBaseline
