/-
**The statistics of a run.** All that a run counts is the properties of its index. Their number can
be read off the dataset: it is that of the properties which features name.

* `Config.IsOff`, `severity_eq_none_iff` — when nothing is counted.
* `Surroundings.namedProperties` — the properties that the dataset of a run names.
* `Surroundings.size_dataset` — their number is the size of the index.
* `run_statistics` — what a run prints of it.
-/

import StyleBaseline.Proofs.Dataset.IndexContents
import StyleBaseline.Proofs.Run.Degradation
import StyleBaseline.Proofs.Run.Precedence
import StyleBaseline.Proofs.Run.Separation
import StyleBaseline.Proofs.Run.Thresholds

namespace StyleBaseline

/-! ### Whether there is a number -/

/-- The rule on support is off. -/
def Config.IsOff (config : Config) : Prop :=
  config.levels.find? baselineRule.id = some .off

instance : DecidablePred Config.IsOff := fun config =>
  inferInstanceAs (Decidable (config.levels.find? baselineRule.id = some .off))

theorem severity_eq_none_iff {config : Config} : config.severity = none ↔ config.IsOff := by
  unfold Config.severity Config.IsOff
  cases config.levels.find? baselineRule.id with
  | none => simp
  | some level => cases level <;> simp [RuleLevel.severity]

/-! ### The number -/

/-- The size of the index at a path is the number of properties that are named there. -/
theorem size_ofPath (files : FileSystem) (location : Option Path) :
    (LoadedIndex.ofPath files location).index.size = Set.ncard
      {property | ∃ path database, location = some path ∧ readDataset files path = .ok database ∧
        ∃ entry ∈ database.features.entries, Concerns entry.2 property} := by
  cases location with
  | none => simp [LoadedIndex.ofPath, Index.size, Index.empty, Catalog.size, Catalog.empty]
  | some path =>
      unfold LoadedIndex.ofPath
      cases reads : readDataset files path with
      | error fault => simp [reads, Index.size, Index.empty, Catalog.size, Catalog.empty]
      | ok database => simp [reads, Index.size_ofDatabase]

namespace Surroundings

variable (surroundings : Surroundings) (arguments : Arguments) (config : Config)

/-- The properties that the readable features of the dataset of a run name. There are none if no
dataset is read. -/
def namedProperties : Set String :=
  {property | ∃ path database, FirstSource surroundings arguments config path ∧
    readDataset surroundings.files path = .ok database ∧
    ∃ entry ∈ database.features.entries, ∃ path ∈ entry.2.paths, Names path property}

/-- **The size of the index of a run.** -/
theorem size_dataset :
    (surroundings.dataset arguments config).index.size =
      (surroundings.namedProperties arguments config).ncard := by
  unfold dataset LoadedIndex.ofSource namedProperties
  rw [size_ofPath]
  simp only [locate_eq_some_iff]
  rfl

theorem ncard_of_notLoaded
    (notLoaded : (surroundings.dataset arguments config).state.isLoaded = false) :
    (surroundings.namedProperties arguments config).ncard = 0 := by
  rw [← size_dataset, dataset, index_of_notLoaded notLoaded]
  rfl

end Surroundings

/-! ### What is printed -/

theorem entries_ownStatistics [GlobEngine] {surroundings : Surroundings} {arguments : Arguments}
    {session : Session} (prepares : Session.prepare surroundings arguments = .ok session) :
    session.ownStatistics.entries =
      if session.config.IsOff then []
      else [("baseline-properties-tracked",
        (surroundings.namedProperties arguments session.config).ncard)] := by
  unfold Session.ownStatistics
  rw [(dataset_of_prepare prepares).2, Surroundings.size_dataset]
  by_cases off : session.config.IsOff
  · rw [if_pos off, severity_eq_none_iff.mpr off]
    rfl
  · have on : session.config.severity.isSome :=
      Option.isSome_iff_ne_none.mpr fun none => off (severity_eq_none_iff.mp none)
    rw [if_neg off, if_pos on]
    rfl

/-- **The statistics of a run describe the dataset.** They are one number, that of the properties
which the readable features of the dataset name, and that is zero if no dataset is read; there are
no statistics if the rule on support is off. They are the same whatever stylesheets there are and
whichever of them can be read, and so they are printed: as a member of the document, or as lines in
front of the summary if these are asked for. -/
theorem run_statistics [GlobEngine]
    {surroundings : Surroundings} {arguments : Arguments} {result : RunResult}
    (succeeds : run surroundings arguments = .ok result) :
    ∃ session, Session.prepare surroundings arguments = .ok session ∧
      surroundings.config arguments = .ok session.config ∧
      let tracked := (surroundings.namedProperties arguments session.config).ncard
      let statistics :=
        if session.config.IsOff then [] else [("baseline-properties-tracked", tracked)]
      (session.dataset.state.isLoaded = false → tracked = 0) ∧
      (∀ (files : FileSystem) (others : Arguments) (paths : List Path),
        (session.statistics (paths.filterMap (session.report? files others))).entries =
          statistics) ∧
      (arguments.output = .json → result.output =
        (Json.Value.object
          [("diagnostics",
            .array ((session.shown surroundings.files arguments).map (·.entry.value))),
          ("stats", .object (statistics.map fun entry =>
            (entry.1, .number (.natural entry.2))))]).layout ++ "\n") ∧
      (arguments.output ≠ .json → result.output =
        String.join (session.selected.map (session.blockAt surroundings.files arguments)) ++
          ((if arguments.statistics then
              String.join (statistics.map fun entry => entry.1 ++ ": " ++ toString entry.2 ++ "\n")
            else "") ++ result.summary.text ++ "\n")) := by
  obtain ⟨session, prepares, rfl⟩ := run_eq_ok_iff.mp succeeds
  obtain ⟨loads, isDataset⟩ := dataset_of_prepare prepares
  have entries := entries_ownStatistics prepares
  have final : session.finalStatistics surroundings.files arguments = session.ownStatistics :=
    statistics_reports session surroundings.files arguments session.selected
  refine ⟨session, prepares, loads, fun notLoaded => ?_, fun files others paths => ?_,
    fun isDocument => ?_, fun isText => ?_⟩
  · rw [isDataset] at notLoaded
    exact surroundings.ncard_of_notLoaded arguments session.config notLoaded
  · simp [entries]
  · rw [output_eq_document session surroundings.files arguments isDocument, ← entries, ← final]
    unfold Report.text Report.value Session.document
    rw [List.map_map]
    rfl
  · rw [output_eq_blocks session surroundings.files arguments isText, ← entries, ← final]
    rfl

/-- To check all stylesheets and print the statistics. -/
def countedSheets : Arguments :=
  { allSheets with statistics := true }

theorem run_statistics_gapSheet :
    ∃ session result, Session.prepare gapSheet countedSheets = .ok session ∧
      run gapSheet countedSheets = .ok result ∧ ¬session.config.IsOff ∧
      (gapSheet.namedProperties countedSheets session.config).ncard = 1 ∧
      result.output =
        String.join (session.selected.map (session.blockAt gapSheet.files countedSheets)) ++
          ("baseline-properties-tracked: 1\n" ++ result.summary.text ++ "\n") := by
  have parts : (Session.prepare gapSheet countedSheets).toOption.map
      (fun session => (session.config, session.ownStatistics.entries)) =
      some (.default, [("baseline-properties-tracked", 1)]) := by decide +kernel
  obtain ⟨session, prepares, parts⟩ := exists_session parts
  obtain ⟨isDefault, counted⟩ := Prod.mk.inj parts
  have succeeds := run_eq_ok_iff.mpr ⟨session, prepares, rfl⟩
  obtain ⟨again, preparesAgain, _, _, entries, _, output⟩ := run_statistics succeeds
  obtain rfl : session = again := Except.ok.inj (prepares.symm.trans preparesAgain)
  have on : ¬session.config.IsOff := by
    rw [isDefault]
    decide +kernel
  have tracked : (gapSheet.namedProperties countedSheets session.config).ncard = 1 := by
    have own := entries gapSheet.files countedSheets []
    rw [if_neg on] at own
    have same := own.symm.trans counted
    simpa using same
  refine ⟨session, _, prepares, succeeds, on, tracked, ?_⟩
  rw [output (by decide), if_neg on, tracked]
  rfl

end StyleBaseline
