/-
**Two runs compared.** Two runs can differ in where their datasets come from and be the same
otherwise: they have the same settings but for the path of the dataset, their search for stylesheets
goes through the same places, and the stylesheets that they select have the same bytes. Such runs
end with the same fault, or they work on the same files and differ in their indexes at most.

* `SameButDataset` — runs that differ only in what is taken for the dataset.
* `prepare_agree` — what such runs work on.
* `run_eq_of_index` — with the same index they have the same result.
-/

import StyleBaseline.Proofs.Files.Selecting
import StyleBaseline.Run

namespace StyleBaseline

/-! ### What a run finds -/

/-- Arguments with another path of the dataset. -/
def Arguments.withDataset (arguments : Arguments) (path : Option Path) : Arguments :=
  { arguments with featuresPath := path }

/-- A configuration with another path of the dataset. -/
def Config.withDataset (config : Config) (path : Option String) : Config :=
  { config with featuresPath := path }

namespace Surroundings

/-- The workspace of a run. -/
def workspace (surroundings : Surroundings) (arguments : Arguments) : Path :=
  surroundings.files.workingPath.join arguments.workspace

/-- The configuration of a run. -/
def config (surroundings : Surroundings) (arguments : Arguments) : Except ConfigFault Config :=
  Config.load surroundings.files (surroundings.workspace arguments) arguments.config

/-- The dataset of a run with a configuration. -/
def dataset (surroundings : Surroundings) (arguments : Arguments) (config : Config) : LoadedIndex :=
  LoadedIndex.ofSource surroundings.files
    (Session.source surroundings (surroundings.workspace arguments) config arguments)

variable (surroundings : Surroundings) (arguments : Arguments) (path : Option Path)

@[simp]
theorem workspace_withDataset :
    surroundings.workspace (arguments.withDataset path) = surroundings.workspace arguments :=
  rfl

@[simp]
theorem config_withDataset :
    surroundings.config (arguments.withDataset path) = surroundings.config arguments :=
  rfl

end Surroundings

section Prepare

variable [GlobEngine] {surroundings : Surroundings} {arguments : Arguments}

/-- The steps of a preparation. -/
theorem prepare_eq (surroundings : Surroundings) (arguments : Arguments) :
    Session.prepare surroundings arguments =
      match surroundings.config arguments with
      | .error fault => .error (.config fault)
      | .ok config =>
          match IgnoreSet.ofTexts (arguments.ignored ++ config.ignored) with
          | .error fault => .error (.invalidGlob fault)
          | .ok ignored =>
              match selectFiles surroundings.files (surroundings.workspace arguments)
                  arguments.paths ignored with
              | .error path => .error (.missingPath path)
              | .ok selected =>
                  .ok ⟨surroundings.workspace arguments, config,
                    surroundings.dataset arguments config, selected⟩ := by
  rw [Session.prepare, ← Surroundings.workspace, ← Surroundings.config]
  cases surroundings.config arguments with
  | error fault => rfl
  | ok config =>
      simp only [bind, Except.bind, Except.mapError]
      cases IgnoreSet.ofTexts (arguments.ignored ++ config.ignored) with
      | error fault => rfl
      | ok ignored =>
          simp only
          cases selectFiles surroundings.files (surroundings.workspace arguments) arguments.paths
            ignored <;> rfl

/-- **When a preparation succeeds**, and with what. -/
theorem prepare_eq_ok_iff {session : Session} :
    Session.prepare surroundings arguments = .ok session ↔
      ∃ config ignored selected, surroundings.config arguments = .ok config ∧
        IgnoreSet.ofTexts (arguments.ignored ++ config.ignored) = .ok ignored ∧
        selectFiles surroundings.files (surroundings.workspace arguments) arguments.paths ignored =
          .ok selected ∧
        session = ⟨surroundings.workspace arguments, config,
          surroundings.dataset arguments config, selected⟩ := by
  rw [prepare_eq]
  constructor
  · intro prepares
    split at prepares
    next => exact nomatch prepares
    next config loads =>
      split at prepares
      next => exact nomatch prepares
      next ignored reads =>
        split at prepares
        next => exact nomatch prepares
        next selected selects =>
          exact ⟨config, ignored, selected, loads, reads, selects, (Except.ok.inj prepares).symm⟩
  · rintro ⟨config, ignored, selected, loads, reads, selects, rfl⟩
    simp only [loads, reads, selects]

/-- A session has the configuration and the dataset of its run. -/
theorem dataset_of_prepare {session : Session}
    (prepares : Session.prepare surroundings arguments = .ok session) :
    surroundings.config arguments = .ok session.config ∧
      session.dataset = surroundings.dataset arguments session.config := by
  obtain ⟨config, ignored, selected, loads, _, _, rfl⟩ := prepare_eq_ok_iff.mp prepares
  exact ⟨loads, rfl⟩

/-- A session has the files that its patterns leave in its workspace. -/
theorem selectFiles_of_prepare {session : Session}
    (prepares : Session.prepare surroundings arguments = .ok session) :
    session.workspace = surroundings.workspace arguments ∧ ∃ ignored,
      IgnoreSet.ofTexts (arguments.ignored ++ session.config.ignored) = .ok ignored ∧
      selectFiles surroundings.files session.workspace arguments.paths ignored =
        .ok session.selected := by
  obtain ⟨config, ignored, selected, _, reads, selects, rfl⟩ := prepare_eq_ok_iff.mp prepares
  exact ⟨rfl, ignored, reads, selects⟩

end Prepare

/-! ### Runs that differ in their datasets -/

/-- **Runs that differ only in what is taken for the dataset.** The second run has another path of
the dataset among its arguments; its configuration, its environment and its files may differ, too,
but for what the configurations say besides, the places on the ways to where the search begins, and
the stylesheets that either run selects. -/
structure SameButDataset [GlobEngine] (first second : Surroundings) (arguments : Arguments)
    (otherPath : Option Path) : Prop where
  workingDirectory : second.files.workingDirectory = first.files.workingDirectory
  config : (second.config arguments).map (·.withDataset none) =
    (first.config arguments).map (·.withDataset none)
  way : ∀ root ∈ searchRoots (first.workspace arguments) arguments.paths,
    ∀ location ∈ first.files.way root, first.files.tree.Alike second.files.tree location
  selected : ∀ session, Session.prepare first arguments = .ok session ∨
      Session.prepare second (arguments.withDataset otherPath) = .ok session →
    ∀ path ∈ session.selected, first.files.tree.bytesAt? (first.files.aim path) =
      second.files.tree.bytesAt? (first.files.aim path)

/-- What two such runs work on: the same but for the datasets. -/
structure SessionsAgree (first second : Surroundings) (session other : Session) : Prop where
  workspace : other.workspace = session.workspace
  config : other.config.withDataset none = session.config.withDataset none
  selected : other.selected = session.selected
  sources : ∀ path ∈ session.selected, second.files.readText path = first.files.readText path

/-- A file that is picked is read from its bytes. -/
theorem readText_congr {files other : FileSystem} {workspace root path : Path} {ignored : IgnoreSet}
    {location : Location} (picks : Picks files workspace ignored root path location)
    (sameWay : other.locate root = files.locate root)
    (sameBytes : files.tree.bytesAt? location = other.tree.bytesAt? location) :
    other.readText path = files.readText path := by
  obtain ⟨place, names, leads, rfl, rfl⟩ := picks.exists_leads
  have sameEnd : other.locate (root.descend names) = files.locate (root.descend names) := by
    rw [FileSystem.locate_descend leads picks.isFile,
      FileSystem.locate_descend (sameWay.trans leads) (sameBytes ▸ picks.isFile)]
  rw [FileSystem.readText, FileSystem.readText, sameEnd,
    FileSystem.locate_descend leads picks.isFile]
  split
  · rfl
  · simp only [bind, Except.bind, sameBytes]

/-- What is picked is selected, and has its bytes where the selected path leads. -/
theorem exists_mem_of_picks {files : FileSystem} {workspace root path : Path} {paths : List Path}
    {ignored : IgnoreSet} {location : Location} {selected : List Path}
    (selects : selectFiles files workspace paths ignored = .ok selected)
    (isRoot : root ∈ searchRoots workspace paths)
    (picks : Picks files workspace ignored root path location) :
    ∃ found ∈ selected, files.aim found = location := by
  obtain ⟨found, member, sameMeaning⟩ := (exists_mem_selectFiles_iff selects).mpr
    ⟨root, isRoot, path, location, picks, rfl⟩
  exact ⟨found, member, by rw [picks.location_eq, FileSystem.aim, FileSystem.aim, sameMeaning]⟩

section Agreement

variable [GlobEngine] {first second : Surroundings} {arguments : Arguments}
  {otherPath : Option Path}

namespace SameButDataset

theorem workspace_eq (same : SameButDataset first second arguments otherPath) :
    second.workspace arguments = first.workspace arguments := by
  rw [Surroundings.workspace, Surroundings.workspace, FileSystem.workingPath,
    FileSystem.workingPath, same.workingDirectory]

theorem aim_eq (same : SameButDataset first second arguments otherPath) (path : Path) :
    second.files.aim path = first.files.aim path := by
  rw [FileSystem.aim, FileSystem.aim, same.workingDirectory]

theorem locate_eq (same : SameButDataset first second arguments otherPath) :
    ∀ root ∈ searchRoots (first.workspace arguments) arguments.paths,
      second.files.locate root = first.files.locate root :=
  fun root isRoot => (FileSystem.locate_congr same.workingDirectory (same.way root isRoot)).symm

end SameButDataset

/-- **Such runs select the same files.** -/
theorem selectFiles_agree (same : SameButDataset first second arguments otherPath)
    {config otherConfig : Config} {ignored : IgnoreSet} {selected : List Path}
    (loads : first.config arguments = .ok config)
    (otherLoads : second.config arguments = .ok otherConfig)
    (sameIgnored : otherConfig.ignored = config.ignored)
    (reads : IgnoreSet.ofTexts (arguments.ignored ++ config.ignored) = .ok ignored)
    (selects : selectFiles first.files (first.workspace arguments) arguments.paths ignored =
      .ok selected) :
    selectFiles second.files (first.workspace arguments) arguments.paths ignored =
      .ok selected := by
  have prepares := prepare_eq_ok_iff.mpr ⟨config, ignored, selected, loads, reads, selects, rfl⟩
  obtain ⟨again, selectsAgain⟩ : ∃ again,
      selectFiles second.files (first.workspace arguments) arguments.paths ignored = .ok again := by
    refine ⟨_, selectFiles_eq_ok_iff.mpr ⟨fun root isRoot => ?_, rfl⟩⟩
    rw [present_iff, same.locate_eq root isRoot, ← present_iff]
    exact (selectFiles_eq_ok_iff.mp selects).1 root isRoot
  have otherPrepares : Session.prepare second (arguments.withDataset otherPath) =
      .ok ⟨first.workspace arguments, otherConfig,
        second.dataset (arguments.withDataset otherPath) otherConfig, again⟩ := by
    refine prepare_eq_ok_iff.mpr ⟨otherConfig, ignored, again, otherLoads, ?_, ?_, ?_⟩
    · exact sameIgnored ▸ reads
    · exact same.workspace_eq ▸ selectsAgain
    · simp [same.workspace_eq]
  refine selectFiles_congr same.locate_eq (fun root isRoot path location => ?_) selects
  constructor
  · intro picks
    obtain ⟨found, member, rfl⟩ := exists_mem_of_picks selects isRoot picks
    have sameBytes := same.selected _ (.inl prepares) found member
    exact picks.transfer (same.locate_eq root isRoot) (sameBytes ▸ picks.isFile)
  · intro picks
    obtain ⟨found, member, rfl⟩ := exists_mem_of_picks selectsAgain isRoot picks
    have sameBytes := same.selected _ (.inr otherPrepares) found member
    rw [same.aim_eq] at picks ⊢
    exact picks.transfer (same.locate_eq root isRoot).symm (sameBytes ▸ picks.isFile)

/-- The preparations from the configurations on. -/
theorem prepare_agree_of_config (same : SameButDataset first second arguments otherPath)
    {config otherConfig : Config} (loads : first.config arguments = .ok config)
    (otherLoads : second.config arguments = .ok otherConfig)
    (sameConfig : otherConfig.withDataset none = config.withDataset none) :
    (∃ fault, Session.prepare first arguments = .error fault ∧
      Session.prepare second (arguments.withDataset otherPath) = .error fault) ∨
    ∃ session other, Session.prepare first arguments = .ok session ∧
      Session.prepare second (arguments.withDataset otherPath) = .ok other ∧
      SessionsAgree first second session other := by
  have sameIgnored : otherConfig.ignored = config.ignored :=
    (Config.mk.inj sameConfig).2.2
  have otherPrepares := prepare_eq second (arguments.withDataset otherPath)
  rw [Surroundings.config_withDataset, otherLoads, Surroundings.workspace_withDataset,
    same.workspace_eq] at otherPrepares
  simp only [Arguments.withDataset, sameIgnored] at otherPrepares
  cases reads : IgnoreSet.ofTexts (arguments.ignored ++ config.ignored) with
  | error fault =>
      simp only [reads] at otherPrepares
      exact .inl ⟨_, by simp only [prepare_eq, loads, reads], otherPrepares⟩
  | ok ignored =>
      cases selects : selectFiles first.files (first.workspace arguments) arguments.paths
          ignored with
      | error missing =>
          have otherSelects := selectFiles_error_congr same.locate_eq selects
          simp only [reads, otherSelects] at otherPrepares
          exact .inl ⟨_, by simp only [prepare_eq, loads, reads, selects], otherPrepares⟩
      | ok selected =>
          have otherSelects := selectFiles_agree same loads otherLoads sameIgnored reads selects
          simp only [reads, otherSelects] at otherPrepares
          have prepares := prepare_eq_ok_iff.mpr
            ⟨config, ignored, selected, loads, reads, selects, rfl⟩
          refine .inr ⟨_, _, prepares, otherPrepares, rfl, sameConfig, rfl, fun path member => ?_⟩
          obtain ⟨root, isRoot, location, picks⟩ := exists_picks_of_mem selects member
          have sameBytes := same.selected _ (.inl prepares) path member
          rw [← picks.location_eq] at sameBytes
          exact readText_congr picks (same.locate_eq root isRoot) sameBytes

/-- **What two such runs work on.** -/
theorem prepare_agree (same : SameButDataset first second arguments otherPath) :
    (∃ fault, Session.prepare first arguments = .error fault ∧
      Session.prepare second (arguments.withDataset otherPath) = .error fault) ∨
    ∃ session other, Session.prepare first arguments = .ok session ∧
      Session.prepare second (arguments.withDataset otherPath) = .ok other ∧
      SessionsAgree first second session other := by
  have configs := same.config
  cases loads : first.config arguments with
  | error fault =>
      cases otherLoads : second.config arguments with
      | ok => rw [loads, otherLoads] at configs; exact nomatch configs
      | error other =>
          rw [loads, otherLoads] at configs
          obtain rfl : other = fault := Except.error.inj configs
          refine .inl ⟨.config other, ?_, ?_⟩
          · simp only [prepare_eq, loads]
          · simp only [prepare_eq, Surroundings.config_withDataset, otherLoads]
  | ok config =>
      cases otherLoads : second.config arguments with
      | error => rw [loads, otherLoads] at configs; exact nomatch configs
      | ok otherConfig =>
          rw [loads, otherLoads] at configs
          have sameConfig : otherConfig.withDataset none = config.withDataset none :=
            Except.ok.inj configs
          exact prepare_agree_of_config same loads otherLoads sameConfig

end Agreement

/-! ### Results -/

section Results

variable {first second : Surroundings} {arguments : Arguments} {otherPath : Option Path}

namespace SessionsAgree

variable {session other : Session}

theorem severity_eq (agree : SessionsAgree first second session other) :
    other.config.severity = session.config.severity := by
  have sameLevels : other.config.levels = session.config.levels := (Config.mk.inj agree.config).1
  rw [Config.severity, Config.severity, sameLevels]

/-- With the same index the same is found in each stylesheet. -/
theorem reports_eq (agree : SessionsAgree first second session other)
    (sameIndex : other.dataset.index = session.dataset.index) :
    other.reports second.files (arguments.withDataset otherPath) =
      session.reports first.files arguments := by
  rw [Session.reports, Session.reports, agree.selected]
  refine List.filterMap_congr fun path member => ?_
  have sameOptions : other.options (arguments.withDataset otherPath) =
      session.options arguments := by
    rw [Session.options, Session.options, agree.severity_eq]
    rfl
  rw [Session.report?, Session.report?, agree.sources path member, sameOptions, sameIndex,
    agree.workspace]
  rfl

theorem statistics_eq (agree : SessionsAgree first second session other)
    (sameIndex : other.dataset.index = session.dataset.index) (reports : List FileReport) :
    other.statistics reports = session.statistics reports := by
  rw [Session.statistics, Session.statistics, Session.ownStatistics, Session.ownStatistics,
    agree.severity_eq, sameIndex]

theorem summary_eq (agree : SessionsAgree first second session other) (reports : List FileReport) :
    other.summary (arguments.withDataset otherPath) reports =
      session.summary arguments reports := by
  rw [Session.summary, Session.summary, agree.selected]
  rfl

end SessionsAgree

/-- **Runs with the same index have the same result**: the output, the summary, or the fault. -/
theorem run_eq_of_index [GlobEngine]
    (same : SameButDataset first second arguments otherPath)
    (sameIndex : ∀ session other, Session.prepare first arguments = .ok session →
      Session.prepare second (arguments.withDataset otherPath) = .ok other →
      other.dataset.index = session.dataset.index) :
    run first arguments = run second (arguments.withDataset otherPath) := by
  rcases prepare_agree same with ⟨fault, fails, otherFails⟩ |
    ⟨session, other, prepares, otherPrepares, agree⟩
  · rw [run, run, fails, otherFails]
    show Except.error fault = Except.error fault
    rfl
  · have index := sameIndex session other prepares otherPrepares
    rw [run, run, prepares, otherPrepares]
    simp only [Except.map, agree.reports_eq index, agree.statistics_eq index, agree.summary_eq]
    rfl

end Results

/-! ### Two runs on one stylesheet -/

/-- The text of a database without features. -/
def emptyDatabaseText : String :=
  "\x7b\"features\": \x7b\x7d\x7d"

/-- A stylesheet alone. -/
def sheetAlone : Surroundings where
  files := ⟨⟨[⟨["a.css"], .file (encodeUtf8 "a\x7b".toList)⟩], by decide, by decide⟩, []⟩
  datasetVariable := none

/-- The stylesheet and a dataset, which the environment names. -/
def sheetAndDataset : Surroundings where
  files := ⟨⟨[⟨["a.css"], .file (encodeUtf8 "a\x7b".toList)⟩,
    ⟨["d.json"], .file (encodeUtf8 emptyDatabaseText.toList)⟩], by decide, by decide⟩, []⟩
  datasetVariable := some "d.json"

/-- To check the stylesheet for unmatched braces. -/
def sheetArguments : Arguments where
  paths := [⟨"a.css"⟩]
  workspace := ⟨"/"⟩
  output := .human
  featuresPath := none
  config := none
  ignored := []
  threshold := .warning
  failOnWarnings := false
  statistics := false
  parseErrors := true

/-- To check all stylesheets for unmatched braces. -/
def allSheets : Arguments :=
  { sheetArguments with paths := [] }

theorem sameButDataset_sheets {path otherPath : Option Path}
    (selects : (Session.prepare sheetAlone
      (sheetArguments.withDataset path)).toOption.map (·.selected) = some [⟨"/a.css"⟩])
    (otherSelects : (Session.prepare sheetAndDataset
      (sheetArguments.withDataset otherPath)).toOption.map (·.selected) = some [⟨"/a.css"⟩]) :
    SameButDataset sheetAlone sheetAndDataset (sheetArguments.withDataset path) otherPath where
  workingDirectory := rfl
  config := by
    rw [Surroundings.config_withDataset, Surroundings.config_withDataset]
    decide +kernel
  way := by
    rw [Surroundings.workspace_withDataset]
    change ∀ root ∈ searchRoots (sheetAlone.workspace sheetArguments) sheetArguments.paths, _
    decide +kernel
  selected := by
    have only : ∀ path ∈ [Path.mk "/a.css"],
        sheetAlone.files.tree.bytesAt? (sheetAlone.files.aim path) =
          sheetAndDataset.files.tree.bytesAt? (sheetAlone.files.aim path) := by decide +kernel
    rintro session (prepares | prepares)
    · rw [prepares] at selects
      rw [show session.selected = [⟨"/a.css"⟩] from Option.some.inj selects]
      exact only
    · have same : (sheetArguments.withDataset path).withDataset otherPath =
          sheetArguments.withDataset otherPath := rfl
      rw [← same, prepares] at otherSelects
      rw [show session.selected = [⟨"/a.css"⟩] from Option.some.inj otherSelects]
      exact only

end StyleBaseline
