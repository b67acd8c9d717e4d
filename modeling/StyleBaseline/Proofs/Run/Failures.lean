/-
**How a run fails.** Three things can end a run without a result, and they are looked at one after
another: the configuration, the patterns of files that are not checked, and the paths at which the
search begins. The first one that is wrong is named. Patterns can be wrong one by one, or as a set.
A run that fails has printed nothing, since everything that can fail comes before all that is printed.

* `FirstOf` — the first of several things that is bad.
* `Fails` — what a run fails with, stage by stage.
* `printRun` — a run as it prints, one text after another.
* `run_failures` — which runs fail, with what, and what they print.
-/

import StyleBaseline.Proofs.Files.Patterns
import StyleBaseline.Proofs.Run.Agreement
import StyleBaseline.Proofs.Run.Shown

namespace StyleBaseline

/-! ### The first that is bad -/

/-- The first of several things that is bad. -/
inductive FirstOf {α : Type} (bad : α → Prop) : List α → α → Prop where
  | here {item : α} {rest : List α} (isBad : bad item) : FirstOf bad (item :: rest) item
  | later {item other : α} {rest : List α} (fine : ¬bad other) (found : FirstOf bad rest item) :
      FirstOf bad (other :: rest) item

section FirstOf

variable {α : Type} {bad : α → Prop} {item other : α} {items : List α}

theorem FirstOf.mem (found : FirstOf bad items item) : item ∈ items ∧ bad item := by
  induction found with
  | here isBad => exact ⟨List.mem_cons_self, isBad⟩
  | later fine found ih => exact ⟨List.mem_cons_of_mem _ ih.1, ih.2⟩

theorem firstOf_cons_of_bad (isBad : bad other) :
    FirstOf bad (other :: items) item ↔ item = other := by
  constructor
  · intro found
    cases found with
    | here => rfl
    | later fine => exact absurd isBad fine
  · rintro rfl
    exact .here isBad

theorem firstOf_cons_of_fine (fine : ¬bad other) :
    FirstOf bad (other :: items) item ↔ FirstOf bad items item := by
  constructor
  · intro found
    cases found with
    | here isBad => exact absurd isBad fine
    | later _ found => exact found
  · exact .later fine

/-- There is a first one if there is any. -/
theorem exists_firstOf (isBad : bad other) (member : other ∈ items) :
    ∃ item, FirstOf bad items item := by
  induction items with
  | nil => exact absurd member List.not_mem_nil
  | cons first rest ih =>
      by_cases firstBad : bad first
      · exact ⟨first, .here firstBad⟩
      · have behind : other ∈ rest := (List.mem_cons.mp member).resolve_left fun same =>
          firstBad (same ▸ isBad)
        obtain ⟨item, found⟩ := ih behind
        exact ⟨item, .later firstBad found⟩

end FirstOf

/-! ### The three stages -/

/-- **Where a run looks for its configuration**: at the path that is given, or else in the
workspace, if there is a file. -/
inductive ConfigPath (surroundings : Surroundings) (arguments : Arguments) : Path → Prop where
  | given {path : Path} (isGiven : arguments.config = some path) :
      ConfigPath surroundings arguments path
  | inWorkspace (notGiven : arguments.config = none)
      (isFile : surroundings.files.isFile
        ((surroundings.workspace arguments).join configName) = true) :
      ConfigPath surroundings arguments ((surroundings.workspace arguments).join configName)

/-- **What is wrong with a configuration**: it cannot be read, or its text is malformed. -/
inductive ConfigFails (surroundings : Surroundings) (arguments : Arguments) :
    ConfigFault → Prop where
  | unreadable {path : Path} {fault : FileFault} (isPath : ConfigPath surroundings arguments path)
      (fails : surroundings.files.readText path = .error fault) :
      ConfigFails surroundings arguments (.unreadable path fault)
  | malformed {path : Path} {text : String} {fault : Json.Fault}
      (isPath : ConfigPath surroundings arguments path)
      (reads : surroundings.files.readText path = .ok text)
      (fails : Config.ofText text = .error fault) :
      ConfigFails surroundings arguments (.malformed path fault)

/-- A text is no pattern. -/
def IsInvalidGlob (text : String) : Prop :=
  ∃ fault, Glob.ofText text = .error fault

/-- **What is wrong with patterns**: the first text that is no pattern, or else the reason for which
they are refused as a set. -/
inductive PatternsFail [GlobEngine] (texts : List String) : GlobFault → Prop where
  | malformed {text : String} {fault : PatternFault} (first : FirstOf IsInvalidGlob texts text)
      (fails : Glob.ofText text = .error fault) : PatternsFail texts (.malformed text fault)
  | refused {reason : String} (isRefused : IgnoreSet.IsRefused texts reason) :
      PatternsFail texts (.refused reason)

/-- A path leads neither to a file nor to a directory. -/
def FileSystem.IsMissing (files : FileSystem) (path : Path) : Prop :=
  ¬(files.isFile path = true ∨ files.isDirectory path = true)

/-- **What a run fails with**: what is wrong with its configuration, else with the patterns of the
arguments and then those of the configuration, else the first path that leads nowhere. -/
inductive Fails [GlobEngine] (surroundings : Surroundings) (arguments : Arguments) :
    RunFault → Prop where
  | config {fault : ConfigFault} (fails : ConfigFails surroundings arguments fault) :
      Fails surroundings arguments (.config fault)
  | patterns {config : Config} {fault : GlobFault} (loads : surroundings.config arguments = .ok config)
      (fails : PatternsFail (arguments.ignored ++ config.ignored) fault) :
      Fails surroundings arguments (.invalidGlob fault)
  | path {config : Config} {root : Path} (loads : surroundings.config arguments = .ok config)
      (builds : IgnoreSet.Builds (arguments.ignored ++ config.ignored))
      (first : FirstOf surroundings.files.IsMissing
        (searchRoots (surroundings.workspace arguments) arguments.paths) root) :
      Fails surroundings arguments (.missingPath root)

section Stages

variable {surroundings : Surroundings} {arguments : Arguments}

theorem path?_eq_some_iff {path : Path} :
    Config.path? surroundings.files (surroundings.workspace arguments) arguments.config =
      some path ↔ ConfigPath surroundings arguments path := by
  constructor
  · intro found
    unfold Config.path? at found
    split at found
    · rename_i given isGiven
      obtain rfl := Option.some.inj found
      exact .given isGiven
    · rename_i notGiven
      dsimp only at found
      split at found
      · rename_i isFile
        obtain rfl := Option.some.inj found
        exact .inWorkspace notGiven isFile
      · exact nomatch found
  · intro isPath
    cases isPath with
    | given isGiven => rw [isGiven, Config.path?]
    | inWorkspace notGiven isFile =>
        rw [notGiven, Config.path?]
        exact if_pos isFile

theorem readConfigFile_eq_error_iff {files : FileSystem} {path : Path} {fault : ConfigFault} :
    readConfigFile files path = .error fault ↔
      (∃ reason, files.readText path = .error reason ∧ fault = .unreadable path reason) ∨
      ∃ text reason, files.readText path = .ok text ∧ Config.ofText text = .error reason ∧
        fault = .malformed path reason := by
  rw [readConfigFile]
  cases files.readText path with
  | error reason => simp [Except.mapError, bind, Except.bind, eq_comm]
  | ok text =>
      show (Config.ofText text).mapError _ = _ ↔ _
      cases parses : Config.ofText text <;> simp [Except.mapError, parses, eq_comm]

/-- **The configuration.** -/
theorem config_eq_error_iff {fault : ConfigFault} :
    surroundings.config arguments = .error fault ↔ ConfigFails surroundings arguments fault := by
  rw [Surroundings.config, Config.load]
  constructor
  · intro fails
    split at fails
    · cases fails
    · rename_i path found
      have isPath := path?_eq_some_iff.mp found
      rcases readConfigFile_eq_error_iff.mp fails with
        ⟨reason, unread, rfl⟩ | ⟨text, reason, reads, parses, rfl⟩
      · exact .unreadable isPath unread
      · exact .malformed isPath reads parses
  · intro fails
    cases fails with
    | unreadable isPath unread =>
        rw [path?_eq_some_iff.mpr isPath]
        exact readConfigFile_eq_error_iff.mpr (Or.inl ⟨_, unread, rfl⟩)
    | malformed isPath reads parses =>
        rw [path?_eq_some_iff.mpr isPath]
        exact readConfigFile_eq_error_iff.mpr (Or.inr ⟨_, _, reads, parses, rfl⟩)

/-- **The patterns.** -/
theorem readGlobs_eq_error_iff {texts : List String} {fault : GlobFault} :
    IgnoreSet.readGlobs texts = .error fault ↔ ∃ text reason, fault = .malformed text reason ∧
      FirstOf IsInvalidGlob texts text ∧ Glob.ofText text = .error reason := by
  induction texts with
  | nil => exact iff_of_false (by rintro ⟨⟩) (by rintro ⟨_, _, _, ⟨⟩, _⟩)
  | cons first rest ih =>
      rw [IgnoreSet.readGlobs]
      cases reads : Glob.ofText first with
      | error reason =>
          have isBad : IsInvalidGlob first := ⟨reason, reads⟩
          simp only [firstOf_cons_of_bad isBad]
          constructor
          · intro fails
            exact ⟨first, reason, (Except.error.inj fails).symm, rfl, reads⟩
          · rintro ⟨_, again, rfl, rfl, readsAgain⟩
            obtain rfl := Except.error.inj (reads.symm.trans readsAgain)
            rfl
      | ok glob =>
          have fine : ¬IsInvalidGlob first := by
            rintro ⟨reason, fails⟩
            cases reads.symm.trans fails
          simp only [firstOf_cons_of_fine fine, ← ih]
          cases IgnoreSet.readGlobs rest with
          | error other => exact Iff.rfl
          | ok globs => exact iff_of_false (by rintro ⟨⟩) (by rintro ⟨⟩)

theorem ofGlobs_eq_error_iff [GlobEngine] {globs : List Glob} {fault : GlobFault} :
    IgnoreSet.ofGlobs globs = .error fault ↔
      ∃ reason, fault = .refused reason ∧ GlobEngine.refusal? globs = some reason := by
  rw [IgnoreSet.ofGlobs]
  cases GlobEngine.refusal? globs <;> simp [eq_comm]

theorem ofTexts_eq_error_iff [GlobEngine] {texts : List String} {fault : GlobFault} :
    IgnoreSet.ofTexts texts = .error fault ↔ PatternsFail texts fault := by
  rw [IgnoreSet.ofTexts]
  constructor
  · intro fails
    cases reads : IgnoreSet.readGlobs texts with
    | error other =>
        rw [reads] at fails
        obtain rfl : other = fault := Except.error.inj fails
        obtain ⟨text, reason, rfl, first, invalid⟩ := readGlobs_eq_error_iff.mp reads
        exact .malformed first invalid
    | ok globs =>
        rw [reads] at fails
        obtain ⟨reason, rfl, refused⟩ := ofGlobs_eq_error_iff.mp fails
        exact .refused ⟨globs, readGlobs_eq_ok_iff.mp reads, refused⟩
  · intro fails
    cases fails with
    | malformed first invalid =>
        rw [readGlobs_eq_error_iff.mpr ⟨_, _, rfl, first, invalid⟩]
        rfl
    | refused isRefused =>
        obtain ⟨globs, reads, refused⟩ := isRefused
        rw [readGlobs_eq_ok_iff.mpr reads]
        exact ofGlobs_eq_error_iff.mpr ⟨_, rfl, refused⟩

/-- Patterns are wrong one by one or as a set. -/
theorem exists_patternsFail_iff [GlobEngine] {texts : List String} :
    (∃ fault, PatternsFail texts fault) ↔
      (∃ text ∈ texts, IsInvalidGlob text) ∨ ∃ reason, IgnoreSet.IsRefused texts reason := by
  constructor
  · rintro ⟨_, fails⟩
    cases fails with
    | malformed first => exact Or.inl ⟨_, first.mem⟩
    | refused isRefused => exact Or.inr ⟨_, isRefused⟩
  · rintro (⟨text, member, invalid⟩ | ⟨reason, isRefused⟩)
    · obtain ⟨first, isFirst⟩ := exists_firstOf invalid member
      obtain ⟨fault, fails⟩ := isFirst.mem.2
      exact ⟨_, .malformed isFirst fails⟩
    · exact ⟨_, .refused isRefused⟩

/-- Either something is wrong with patterns, or a set is made of them. -/
theorem builds_or_exists_patternsFail [GlobEngine] (texts : List String) :
    IgnoreSet.Builds texts ∨ ∃ fault, PatternsFail texts fault := by
  cases reads : IgnoreSet.ofTexts texts with
  | ok ignored => exact Or.inl (exists_ofTexts_iff.mp ⟨ignored, reads⟩)
  | error fault => exact Or.inr ⟨fault, ofTexts_eq_error_iff.mp reads⟩

/-- **The paths.** -/
theorem filesFromAll_eq_error_iff {files : FileSystem} {workspace missing : Path}
    {ignored : IgnoreSet} {roots : List Path} :
    filesFromAll files workspace ignored roots = .error missing ↔
      FirstOf files.IsMissing roots missing := by
  induction roots with
  | nil => exact iff_of_false (by rintro ⟨⟩) (by rintro ⟨⟩)
  | cons root roots ih =>
      rw [filesFromAll]
      cases finds : filesFrom? files workspace ignored root with
      | none =>
          have isMissing : files.IsMissing root := by
            rw [FileSystem.IsMissing, ← isSome_filesFrom?_iff workspace ignored, finds]
            exact Bool.false_ne_true
          rw [firstOf_cons_of_bad isMissing]
          exact ⟨fun fails => (Except.error.inj fails).symm, fun same => same ▸ rfl⟩
      | some found =>
          have isPresent : ¬files.IsMissing root := by
            rw [FileSystem.IsMissing, ← isSome_filesFrom?_iff workspace ignored, finds]
            exact not_not.mpr rfl
          rw [firstOf_cons_of_fine isPresent, ← ih]
          cases filesFromAll files workspace ignored roots with
          | error other => exact Iff.rfl
          | ok others => exact iff_of_false (by rintro ⟨⟩) (by rintro ⟨⟩)

theorem selectFiles_eq_error_iff {files : FileSystem} {workspace missing : Path}
    {ignored : IgnoreSet} {paths : List Path} :
    selectFiles files workspace paths ignored = .error missing ↔
      FirstOf files.IsMissing (searchRoots workspace paths) missing := by
  rw [← @filesFromAll_eq_error_iff files workspace missing ignored, selectFiles]
  cases filesFromAll files workspace ignored (searchRoots workspace paths) with
  | error other => exact Iff.rfl
  | ok found => exact iff_of_false (by rintro ⟨⟩) (by rintro ⟨⟩)

/-- **What a run fails with.** -/
theorem run_eq_error_iff_fails [GlobEngine] {fault : RunFault} :
    run surroundings arguments = .error fault ↔ Fails surroundings arguments fault := by
  rw [run_eq_error_iff, prepare_eq]
  constructor
  · intro fails
    split at fails
    next reason loads =>
      obtain rfl := Except.error.inj fails
      exact .config (config_eq_error_iff.mp loads)
    next config loads =>
      split at fails
      next reason reads =>
        obtain rfl := Except.error.inj fails
        exact .patterns loads (ofTexts_eq_error_iff.mp reads)
      next ignored reads =>
        split at fails
        next root selects =>
          obtain rfl := Except.error.inj fails
          exact .path loads (exists_ofTexts_iff.mp ⟨ignored, reads⟩)
            (selectFiles_eq_error_iff.mp selects)
        next => exact nomatch fails
  · intro fails
    cases fails with
    | config fails => rw [config_eq_error_iff.mpr fails]
    | patterns loads fails => simp only [loads, ofTexts_eq_error_iff.mpr fails]
    | path loads builds first =>
        obtain ⟨ignored, reads⟩ := exists_ofTexts_iff.mpr builds
        simp only [loads, reads, selectFiles_eq_error_iff.mpr first]

/-- There is a first path that leads nowhere if there is any, and before it patterns can fail. -/
theorem exists_fails_of_missing [GlobEngine] {config : Config} {root : Path}
    (loads : surroundings.config arguments = .ok config)
    (member : root ∈ searchRoots (surroundings.workspace arguments) arguments.paths)
    (missing : surroundings.files.IsMissing root) :
    ∃ fault, Fails surroundings arguments fault := by
  rcases builds_or_exists_patternsFail (arguments.ignored ++ config.ignored) with
    builds | ⟨fault, fails⟩
  · obtain ⟨first, isFirst⟩ := exists_firstOf missing member
    exact ⟨_, .path loads builds isFirst⟩
  · exact ⟨_, .patterns loads fails⟩

/-- **Which runs fail.** -/
theorem exists_fails_iff [GlobEngine] :
    (∃ fault, Fails surroundings arguments fault) ↔
      (∃ fault, ConfigFails surroundings arguments fault) ∨
      ∃ config, surroundings.config arguments = .ok config ∧
        ((∃ fault, PatternsFail (arguments.ignored ++ config.ignored) fault) ∨
          ∃ root ∈ searchRoots (surroundings.workspace arguments) arguments.paths,
            surroundings.files.IsMissing root) := by
  constructor
  · rintro ⟨_, fails⟩
    cases fails with
    | config fails => exact Or.inl ⟨_, fails⟩
    | patterns loads fails => exact Or.inr ⟨_, loads, Or.inl ⟨_, fails⟩⟩
    | path loads _ isFirst => exact Or.inr ⟨_, loads, Or.inr ⟨_, isFirst.mem⟩⟩
  · rintro (⟨fault, fails⟩ | ⟨config, loads, ⟨fault, fails⟩ | ⟨root, member, missing⟩⟩)
    · exact ⟨_, .config fails⟩
    · exact ⟨_, .patterns loads fails⟩
    · exact exists_fails_of_missing loads member missing

end Stages

/-! ### What is printed -/

/-- Steps that print, and that can end with a fault. -/
abbrev Printing :=
  ExceptT RunFault (StateM String)

namespace Printing

/-- Prints a text behind what is printed already. -/
def print (text : String) : Printing Unit :=
  modify (· ++ text)

/-- Goes on with a result, or ends with its fault. -/
def orFail {ε α : Type} (faultOf : ε → RunFault) (result : Except ε α) : Printing α :=
  ExceptT.mk (pure (result.mapError faultOf))

/-- What steps come to behind a printed text, and what is printed then. -/
def after {α : Type} (printed : String) (steps : Printing α) : Except RunFault α × String :=
  steps.run.run printed

@[simp]
theorem after_bind {α β : Type} (printed : String) (steps : Printing α) (next : α → Printing β) :
    (steps >>= next).after printed =
      match steps.after printed with
      | (.ok value, later) => (next value).after later
      | (.error fault, later) => (.error fault, later) := by
  rw [after, ExceptT.run_bind, StateT.run_bind]
  cases ran : steps.after printed with
  | mk result later =>
      rw [after] at ran
      rw [ran]
      cases result with
      | error fault => rfl
      | ok value => rfl

@[simp]
theorem after_print (printed text : String) : (print text).after printed = (.ok (), printed ++ text) :=
  rfl

@[simp]
theorem after_pure {α : Type} (printed : String) (value : α) :
    (pure value : Printing α).after printed = (.ok value, printed) :=
  rfl

@[simp]
theorem after_orFail {ε α : Type} (printed : String) (faultOf : ε → RunFault)
    (result : Except ε α) :
    (orFail faultOf result).after printed = (result.mapError faultOf, printed) :=
  rfl

theorem after_forM_print {α : Type} (printed : String) (textOf : α → String) (items : List α) :
    (items.forM fun item => print (textOf item)).after printed =
      (.ok (), printed ++ String.join (items.map textOf)) := by
  induction items generalizing printed with
  | nil => exact congrArg (Prod.mk _) String.append_empty.symm
  | cons item items ih =>
      show (print (textOf item) >>= fun _ => items.forM fun item => print (textOf item)).after
        printed = _
      rw [after_bind, after_print]
      show (items.forM fun item => print (textOf item)).after (printed ++ textOf item) = _
      rw [ih, List.map_cons, String.join_cons, String.append_assoc]

end Printing

open Printing (print orFail)

/-- The text of a report in each format, and what is printed when all files are done. -/
def Session.printReports (session : Session) (files : FileSystem) (arguments : Arguments) :
    Printing Summary := do
  let reports := session.reports files arguments
  let statistics := session.statistics reports
  let summary := session.summary arguments reports
  reports.forM fun report => print (report.text arguments.output)
  if arguments.output = .json then
    print (Report.mk (reports.flatMap (·.entries)) statistics).text
  else
    if arguments.statistics then print (statisticsText statistics)
    print summary.text
  print "\n"
  return summary

/-- **A run as it prints**: stage by stage, then file by file, and last what is said of all files. -/
def printRun [GlobEngine] (surroundings : Surroundings) (arguments : Arguments) : Printing Summary := do
  let workspace := surroundings.workspace arguments
  let config ← orFail .config (surroundings.config arguments)
  let dataset := surroundings.dataset arguments config
  let ignored ← orFail .invalidGlob (IgnoreSet.ofTexts (arguments.ignored ++ config.ignored))
  let selected ← orFail .missingPath
    (selectFiles surroundings.files workspace arguments.paths ignored)
  Session.printReports ⟨workspace, config, dataset, selected⟩ surroundings.files arguments

/-- Behind the stages the output of the run is printed. -/
theorem after_printReports (session : Session) (files : FileSystem) (arguments : Arguments)
    (printed : String) :
    (session.printReports files arguments).after printed =
      let reports := session.reports files arguments
      let summary := session.summary arguments reports
      (.ok summary, printed ++ runOutput arguments reports (session.statistics reports) summary) := by
  rw [Session.printReports, Printing.after_bind, Printing.after_forM_print]
  simp only [runOutput]
  cases arguments.output with
  | json =>
      have noText : String.join ((session.reports files arguments).map (·.text .json)) = "" :=
        join_map_empty _
      simp only [if_true, Printing.after_bind, Printing.after_print, Printing.after_pure, noText,
        String.append_empty, String.append_assoc]
  | human | humanVerbose | machine =>
      -- The statistics are printed or left out.
      cases arguments.statistics <;>
        simp only [reduceCtorEq, if_true, if_false, Bool.false_eq_true, Printing.after_bind,
          Printing.after_print, Printing.after_pure, String.append_empty, String.append_assoc]

/-- **What is printed**: of a run that fails nothing. -/
theorem after_printRun [GlobEngine] (surroundings : Surroundings) (arguments : Arguments)
    (printed : String) :
    (printRun surroundings arguments).after printed =
      match run surroundings arguments with
      | .ok result => (.ok result.summary, printed ++ result.output)
      | .error fault => (.error fault, printed) := by
  rw [run, prepare_eq, printRun, Printing.after_bind, Printing.after_orFail]
  cases surroundings.config arguments with
  | error fault => rfl
  | ok config =>
      simp only [Except.mapError, Printing.after_bind, Printing.after_orFail]
      cases IgnoreSet.ofTexts (arguments.ignored ++ config.ignored) with
      | error fault => rfl
      | ok ignored =>
          simp only
          cases selectFiles surroundings.files (surroundings.workspace arguments) arguments.paths
            ignored with
          | error root => rfl
          | ok selected => exact after_printReports _ _ _ _

/-! ### What has no influence -/

/-- Two runs have the same patterns, or the same fault in their configurations, and look for files
from the same paths, of which the same lead nowhere. They may differ in everything else: the
dataset, the contents of the stylesheets, what is asked for. -/
structure SameStages (first second : Surroundings) (arguments other : Arguments) : Prop where
  ignored : other.ignored = arguments.ignored
  config : (second.config other).map (·.ignored) = (first.config arguments).map (·.ignored)
  roots : searchRoots (second.workspace other) other.paths =
    searchRoots (first.workspace arguments) arguments.paths
  missing : ∀ root ∈ searchRoots (first.workspace arguments) arguments.paths,
    second.files.IsMissing root ↔ first.files.IsMissing root

theorem FirstOf.congr {α : Type} {bad otherBad : α → Prop} {items : List α} {item : α}
    (same : ∀ item ∈ items, bad item ↔ otherBad item) (found : FirstOf bad items item) :
    FirstOf otherBad items item := by
  induction found with
  | here isBad => exact .here ((same _ List.mem_cons_self).mp isBad)
  | later fine found ih =>
      obtain ⟨sameHere, sameBehind⟩ := List.forall_mem_cons.mp same
      exact .later (fun isBad => fine (sameHere.mpr isBad)) (ih sameBehind)

section SameStages

variable {first second : Surroundings} {arguments other : Arguments}

theorem SameStages.symm (same : SameStages first second arguments other) :
    SameStages second first other arguments where
  ignored := same.ignored.symm
  config := same.config.symm
  roots := same.roots.symm
  missing := by
    rw [same.roots]
    exact fun root member => (same.missing root member).symm

/-- The same configuration fault, or configurations with the same patterns. -/
theorem SameStages.config_cases (same : SameStages first second arguments other) :
    (∃ fault, first.config arguments = .error fault ∧ second.config other = .error fault) ∨
      ∃ config otherConfig, first.config arguments = .ok config ∧
        second.config other = .ok otherConfig ∧ otherConfig.ignored = config.ignored := by
  have configs := same.config
  cases loads : first.config arguments with
  | error fault =>
      cases otherLoads : second.config other with
      | error otherFault =>
          rw [loads, otherLoads] at configs
          obtain rfl : otherFault = fault := Except.error.inj configs
          exact Or.inl ⟨otherFault, rfl, rfl⟩
      | ok otherConfig =>
          rw [loads, otherLoads] at configs
          exact nomatch configs
  | ok config =>
      cases otherLoads : second.config other with
      | error otherFault =>
          rw [loads, otherLoads] at configs
          exact nomatch configs
      | ok otherConfig =>
          rw [loads, otherLoads] at configs
          exact Or.inr ⟨config, otherConfig, rfl, rfl, Except.ok.inj configs⟩

theorem SameStages.fails [GlobEngine] {fault : RunFault}
    (same : SameStages first second arguments other)
    (fails : Fails first arguments fault) : Fails second other fault := by
  rcases same.config_cases with ⟨reason, breaks, otherBreaks⟩ |
    ⟨config, otherConfig, loads, otherLoads, patterns⟩
  · cases fails with
    | config fails =>
        obtain rfl := Except.error.inj (breaks.symm.trans (config_eq_error_iff.mpr fails))
        exact .config (config_eq_error_iff.mp otherBreaks)
    | patterns loads => exact nomatch breaks.symm.trans loads
    | path loads => exact nomatch breaks.symm.trans loads
  · have samePatterns : other.ignored ++ otherConfig.ignored =
        arguments.ignored ++ config.ignored := by
      rw [same.ignored, patterns]
    cases fails with
    | config fails => exact nomatch loads.symm.trans (config_eq_error_iff.mpr fails)
    | patterns again fails =>
        obtain rfl := Except.ok.inj (loads.symm.trans again)
        exact .patterns otherLoads (by rwa [samePatterns])
    | path again builds isFirst =>
        obtain rfl := Except.ok.inj (loads.symm.trans again)
        refine .path otherLoads (by rwa [samePatterns]) ?_
        rw [same.roots]
        exact isFirst.congr fun root member => (same.missing root member).symm

end SameStages

/-! ### The whole -/

/-- **Which runs fail**, with what, and what they print. A run fails if its configuration does, or
else if some pattern is invalid, or the patterns are refused as a set, or some path leads nowhere. It
fails with what comes first in this order, and among patterns and paths with the first one. A run
that fails prints nothing; one that does not prints its output. Nothing else makes a run fail: of
two runs that agree in these three stages, whatever becomes of the dataset and the stylesheets, both
fail alike or none. -/
theorem run_failures [GlobEngine] (surroundings : Surroundings) (arguments : Arguments) :
    ((∃ fault, run surroundings arguments = .error fault) ↔
      (∃ fault, ConfigFails surroundings arguments fault) ∨
      ∃ config, surroundings.config arguments = .ok config ∧
        ((∃ text ∈ arguments.ignored ++ config.ignored, IsInvalidGlob text) ∨
          (∃ reason, IgnoreSet.IsRefused (arguments.ignored ++ config.ignored) reason) ∨
          ∃ root ∈ searchRoots (surroundings.workspace arguments) arguments.paths,
            surroundings.files.IsMissing root)) ∧
    (∀ fault, run surroundings arguments = .error fault ↔ Fails surroundings arguments fault) ∧
    (∀ printed, (printRun surroundings arguments).after printed =
      match run surroundings arguments with
      | .ok result => (.ok result.summary, printed ++ result.output)
      | .error fault => (.error fault, printed)) ∧
    ∀ second other, SameStages surroundings second arguments other →
      ∀ fault, run surroundings arguments = .error fault ↔ run second other = .error fault := by
  refine ⟨?_, fun fault => run_eq_error_iff_fails, after_printRun surroundings arguments, ?_⟩
  · simp only [run_eq_error_iff_fails, exists_fails_iff, exists_patternsFail_iff, or_assoc]
  · intro second other same fault
    rw [run_eq_error_iff_fails, run_eq_error_iff_fails]
    exact ⟨same.fails, same.symm.fails⟩

/-- To check a stylesheet that is there and one that is not. -/
def missingSheet : Arguments :=
  { sheetArguments with paths := [⟨"a.css"⟩, ⟨"b.css"⟩, ⟨"c.css"⟩] }

/-- A path that leads nowhere is named with a dataset as without one. -/
theorem run_failures_missingSheet :
    SameStages sheetAlone sheetAndDataset missingSheet missingSheet ∧
      run sheetAndDataset missingSheet = .error (.missingPath ⟨"/b.css"⟩) := by
  have same : SameStages sheetAlone sheetAndDataset missingSheet missingSheet := {
    ignored := rfl
    config := by decide +kernel
    roots := by decide +kernel
    missing := by
      unfold FileSystem.IsMissing
      decide +kernel }
  have fails : run sheetAlone missingSheet = .error (.missingPath ⟨"/b.css"⟩) := by decide +kernel
  exact ⟨same, ((run_failures sheetAlone missingSheet).2.2.2 sheetAndDataset missingSheet same
    _).mp fails⟩

/-- To check the stylesheet with a pattern that is too deep. -/
def deepPattern : Arguments :=
  { sheetArguments with ignored := [nestedText 300] }

/-- **A set can be refused** although nothing is wrong with its patterns one by one, nor with anything
else: the pattern is one, the configuration is the usual one, and the stylesheet is there. -/
theorem run_deepPattern :
    run sheetAlone deepPattern = .error (.invalidGlob (.refused "error parsing pattern 0")) ∧
      ¬((∃ fault, ConfigFails sheetAlone deepPattern fault) ∨
        ∃ config, sheetAlone.config deepPattern = .ok config ∧
          ((∃ text ∈ deepPattern.ignored ++ config.ignored, IsInvalidGlob text) ∨
            ∃ root ∈ searchRoots (sheetAlone.workspace deepPattern) deepPattern.paths,
              sheetAlone.files.IsMissing root)) := by
  have loads : sheetAlone.config deepPattern = .ok .default := by
    show sheetAlone.config sheetArguments = .ok .default
    decide +kernel
  have isRefused : IgnoreSet.IsRefused (deepPattern.ignored ++ Config.default.ignored)
      "error parsing pattern 0" := isRefused_nestedText (by decide)
  have present : ∀ root ∈ searchRoots (sheetAlone.workspace sheetArguments) sheetArguments.paths,
      ¬sheetAlone.files.IsMissing root := by
    unfold FileSystem.IsMissing
    decide +kernel
  refine ⟨run_eq_error_iff_fails.mpr (.patterns loads (.refused isRefused)), ?_⟩
  rintro (⟨fault, fails⟩ | ⟨config, again, ⟨text, member, invalid⟩ | ⟨root, member, missing⟩⟩)
  · exact nomatch loads.symm.trans (config_eq_error_iff.mpr fails)
  · obtain rfl := Except.ok.inj (loads.symm.trans again)
    obtain rfl := List.mem_singleton.mp member
    obtain ⟨fault, fails⟩ := invalid
    exact nomatch (ofText_nestedText 300).symm.trans fails
  · exact present root member missing

end StyleBaseline
