/-
**Which dataset counts.** The sources of the dataset are tried in a fixed order, and the first one
that is there counts, whatever becomes of it: a path that cannot be read, or whose text is no
database, leaves the run without a dataset, and no later source is looked at.

* `NearestPackage` — the package that is found upwards from a directory.
* `FirstSource` — the first source that is there.
* `locate_eq_some_iff` — the path of the dataset is that of the first source.
* `run_firstSource` — what becomes of it, and that later sources have no influence.
-/

import Mathlib.Data.List.TakeWhile
import StyleBaseline.Proofs.Files.Ancestors
import StyleBaseline.Proofs.Run.Agreement

namespace StyleBaseline

/-! ### The nearest package -/

/-- The nearest directory with the package, from a directory upwards. -/
inductive NearestPackage (files : FileSystem) : Path → Path → Prop where
  | here {directory : Path} (isFile : files.isFile (directory.join packagePath) = true) :
      NearestPackage files directory directory
  | above {directory parent nearest : Path}
      (noFile : files.isFile (directory.join packagePath) = false)
      (isAbove : directory.parent? = some parent) (found : NearestPackage files parent nearest) :
      NearestPackage files directory nearest

section Package

variable {files : FileSystem} {root path nearest : Path}

theorem nearestPackage_of_isFile (isFile : files.isFile (root.join packagePath) = true) :
    NearestPackage files root nearest ↔ nearest = root := by
  constructor
  · intro found
    cases found with
    | here => rfl
    | above noFile => exact absurd isFile (by rw [noFile]; exact Bool.false_ne_true)
  · rintro rfl
    exact .here isFile

theorem nearestPackage_of_noFile (noFile : files.isFile (root.join packagePath) = false) :
    NearestPackage files root nearest ↔
      ∃ parent, root.parent? = some parent ∧ NearestPackage files parent nearest := by
  constructor
  · intro found
    cases found with
    | here isFile => exact absurd isFile (by rw [noFile]; exact Bool.false_ne_true)
    | above _ isAbove found => exact ⟨_, isAbove, found⟩
  · rintro ⟨parent, isAbove, found⟩
    exact .above noFile isAbove found

/-- **The search upwards** finds the nearest package. -/
theorem find?_ancestors_eq_some_iff :
    (root.ancestors.map (·.join packagePath)).find? files.isFile = some path ↔
      ∃ directory, NearestPackage files root directory ∧ directory.join packagePath = path := by
  induction length : root.components.length using Nat.strongRecOn generalizing root with
  | _ n ih =>
    rw [Path.ancestors_eq, List.map_cons]
    cases isFile : files.isFile (root.join packagePath) with
    | true =>
        simp only [List.find?_cons_of_pos isFile, nearestPackage_of_isFile isFile, exists_eq_left,
          Option.some.injEq]
    | false =>
        rw [List.find?_cons_of_neg (by rw [isFile]; exact Bool.false_ne_true)]
        simp only [nearestPackage_of_noFile isFile]
        cases isAbove : root.parent? with
        | none => simp
        | some parent =>
            obtain ⟨any, components⟩ := Path.components_parent? isAbove
            have shorter : parent.components.length < n := by
              rw [← length, components, List.length_dropLast]
              exact Nat.sub_lt (List.length_pos_of_ne_nil any) Nat.one_pos
            simpa using ih _ shorter rfl

end Package

/-! ### Blank values -/

theorem trimBoth_eq_nil_iff {cs : List Char} : trimBoth cs = [] ↔ ∀ c ∈ cs, isBlank c = true := by
  rw [trimBoth, trimEnd, trimStart, List.reverse_eq_nil_iff, List.dropWhile_eq_nil_iff]
  constructor
  · intro blank c member
    rw [← List.takeWhile_append_dropWhile (p := isBlank) (l := cs), List.mem_append] at member
    rcases member with inFront | behind
    · exact List.mem_takeWhile_imp inFront
    · exact blank c (List.mem_reverse.mpr behind)
  · intro blank c member
    exact blank c ((List.dropWhile_suffix _).subset (List.mem_reverse.mp member))

/-! ### The first source -/

/-- **The path of the first source that is there**: what the arguments give, else what the
configuration gives, else what the environment gives, if that is not blank, else the nearest
package. The first two are paths in the workspace. -/
inductive FirstSource (surroundings : Surroundings) (arguments : Arguments) (config : Config) :
    Path → Prop where
  | arguments {path : Path} (given : arguments.featuresPath = some path) :
      FirstSource surroundings arguments config ((surroundings.workspace arguments).join path)
  | config {text : String} (notGiven : arguments.featuresPath = none)
      (configured : config.featuresPath = some text) :
      FirstSource surroundings arguments config ((surroundings.workspace arguments).join ⟨text⟩)
  | environment {value : String} (notGiven : arguments.featuresPath = none)
      (notConfigured : config.featuresPath = none)
      (isSet : surroundings.datasetVariable = some value)
      (filled : ∃ c ∈ value.toList, isBlank c = false) :
      FirstSource surroundings arguments config ⟨value⟩
  | package {directory : Path} (notGiven : arguments.featuresPath = none)
      (notConfigured : config.featuresPath = none)
      (notSet : ∀ value, surroundings.datasetVariable = some value →
        ∀ c ∈ value.toList, isBlank c = true)
      (nearest : NearestPackage surroundings.files (surroundings.workspace arguments) directory) :
      FirstSource surroundings arguments config (directory.join packagePath)

section Source

variable {surroundings : Surroundings} {arguments : Arguments} {config : Config} {path : Path}

theorem isEmpty_trimBoth_iff {value : String} :
    (trimBoth value.toList).isEmpty = true ↔ ∀ c ∈ value.toList, isBlank c = true := by
  rw [List.isEmpty_iff, trimBoth_eq_nil_iff]

theorem environmentPath?_of_filled {source : DatasetSource} {value : String}
    (isSet : source.environment = some value) (filled : ∃ c ∈ value.toList, isBlank c = false) :
    source.environmentPath? = some ⟨value⟩ := by
  obtain ⟨c, member, visible⟩ := filled
  have notEmpty : ¬(trimBoth value.toList).isEmpty = true := fun empty =>
    absurd (isEmpty_trimBoth_iff.mp empty c member) (by rw [visible]; exact Bool.false_ne_true)
  rw [DatasetSource.environmentPath?, isSet, Option.bind_some, if_neg notEmpty]

theorem environmentPath?_of_blank {source : DatasetSource}
    (notSet : ∀ value, source.environment = some value → ∀ c ∈ value.toList, isBlank c = true) :
    source.environmentPath? = none := by
  rw [DatasetSource.environmentPath?]
  cases isSet : source.environment with
  | none => rfl
  | some value => exact if_pos (isEmpty_trimBoth_iff.mpr (notSet value isSet))

theorem packagePath?_source (surroundings : Surroundings) (arguments : Arguments)
    (config : Config) :
    (Session.source surroundings (surroundings.workspace arguments) config arguments).packagePath?
        surroundings.files =
      ((surroundings.workspace arguments).ancestors.map (·.join packagePath)).find?
        surroundings.files.isFile := by
  rw [DatasetSource.packagePath?, Session.source, Option.bind_some]

/-- The first source is taken. -/
theorem locate_of_firstSource (isFirst : FirstSource surroundings arguments config path) :
    (Session.source surroundings (surroundings.workspace arguments) config arguments).locate
      surroundings.files = some path := by
  rw [DatasetSource.locate]
  cases isFirst with
  | arguments given =>
      simp only [Session.source, given]
      rfl
  | config notGiven configured =>
      simp only [Session.source, Config.datasetPath?, notGiven, configured]
      rfl
  | environment notGiven notConfigured isSet filled =>
      rw [environmentPath?_of_filled isSet filled]
      simp only [Session.source, Config.datasetPath?, notGiven, notConfigured]
      rfl
  | package notGiven notConfigured notSet nearest =>
      rw [environmentPath?_of_blank notSet, packagePath?_source,
        find?_ancestors_eq_some_iff.mpr ⟨_, nearest, rfl⟩]
      simp only [Session.source, Config.datasetPath?, notGiven, notConfigured]
      rfl

/-- Nothing else is taken. -/
theorem exists_firstSource
    (found : ((Session.source surroundings (surroundings.workspace arguments) config
      arguments).locate surroundings.files).isSome = true) :
    ∃ path, FirstSource surroundings arguments config path := by
  cases given : arguments.featuresPath with
  | some path => exact ⟨_, .arguments given⟩
  | none =>
      cases configured : config.featuresPath with
      | some text => exact ⟨_, .config given configured⟩
      | none =>
          by_cases filled : ∃ value, surroundings.datasetVariable = some value ∧
              ∃ c ∈ value.toList, isBlank c = false
          · obtain ⟨value, isSet, filled⟩ := filled
            exact ⟨_, .environment given configured isSet filled⟩
          · have notSet : ∀ value, surroundings.datasetVariable = some value →
                ∀ c ∈ value.toList, isBlank c = true := by
              intro value isSet c member
              by_contra visible
              exact filled ⟨value, isSet, c, member, Bool.eq_false_iff.mpr visible⟩
            rw [DatasetSource.locate, environmentPath?_of_blank notSet, packagePath?_source]
              at found
            simp only [Session.source, Config.datasetPath?, given, configured, Option.map_none,
              Option.orElse_eq_orElse, Option.orElse_eq_or, Option.none_or] at found
            obtain ⟨path, package⟩ := Option.isSome_iff_exists.mp found
            obtain ⟨directory, nearest, _⟩ := find?_ancestors_eq_some_iff.mp package
            exact ⟨_, .package given configured notSet nearest⟩

/-- **The path of the dataset** is that of the first source. -/
theorem locate_eq_some_iff :
    (Session.source surroundings (surroundings.workspace arguments) config arguments).locate
        surroundings.files = some path ↔ FirstSource surroundings arguments config path := by
  refine ⟨fun found => ?_, locate_of_firstSource⟩
  obtain ⟨other, isFirst⟩ := exists_firstSource (by rw [found]; rfl)
  obtain rfl : path = other := Option.some.inj (found.symm.trans (locate_of_firstSource isFirst))
  exact isFirst

theorem firstSource_of_given (given : Path) (isGiven : arguments.featuresPath = some given) :
    FirstSource surroundings arguments config path ↔
      (surroundings.workspace arguments).join given = path := by
  constructor
  · intro isFirst
    have given_isFirst : FirstSource surroundings arguments config
        ((surroundings.workspace arguments).join given) := .arguments isGiven
    exact Option.some.inj
      ((locate_of_firstSource given_isFirst).symm.trans (locate_of_firstSource isFirst))
  · rintro rfl
    exact .arguments isGiven

/-! ### What becomes of it -/

/-- The dataset at the path of the first source, whatever becomes of it. -/
theorem dataset_of_firstSource (isFirst : FirstSource surroundings arguments config path) :
    surroundings.dataset arguments config = LoadedIndex.ofPath surroundings.files (some path) := by
  rw [Surroundings.dataset, LoadedIndex.ofSource, locate_of_firstSource isFirst]

theorem dataset_of_noSource
    (noSource : ∀ path, ¬FirstSource surroundings arguments config path) :
    surroundings.dataset arguments config = ⟨.empty, .missing⟩ := by
  have none : (Session.source surroundings (surroundings.workspace arguments) config
      arguments).locate surroundings.files = none :=
    Option.eq_none_iff_forall_ne_some.mpr fun path found =>
      noSource path (locate_eq_some_iff.mp found)
  rw [Surroundings.dataset, LoadedIndex.ofSource, none, LoadedIndex.ofPath]

/-- Two runs have the same first source, and read the same from it. -/
structure SameFirstSource (first second : Surroundings) (arguments : Arguments)
    (otherPath : Option Path) : Prop where
  path : ∀ config otherConfig, first.config arguments = .ok config →
    second.config arguments = .ok otherConfig → ∀ path,
      FirstSource first arguments config path ↔
        FirstSource second (arguments.withDataset otherPath) otherConfig path
  text : ∀ config path, first.config arguments = .ok config →
    FirstSource first arguments config path →
      second.files.readText path = first.files.readText path

theorem dataset_congr {second : Surroundings} {otherPath : Option Path} {otherConfig : Config}
    (same : SameFirstSource surroundings second arguments otherPath)
    (loads : surroundings.config arguments = .ok config)
    (otherLoads : second.config arguments = .ok otherConfig) :
    second.dataset (arguments.withDataset otherPath) otherConfig =
      surroundings.dataset arguments config := by
  have samePath := same.path config otherConfig loads otherLoads
  by_cases anySource : ∃ path, FirstSource surroundings arguments config path
  · obtain ⟨path, isFirst⟩ := anySource
    rw [dataset_of_firstSource isFirst, dataset_of_firstSource ((samePath path).mp isFirst),
      LoadedIndex.ofPath, LoadedIndex.ofPath, readDataset, readDataset,
      same.text config path loads isFirst]
  · have noSource := not_exists.mp anySource
    rw [dataset_of_noSource noSource,
      dataset_of_noSource fun path isFirst => noSource path ((samePath path).mpr isFirst)]

/-- **The first source counts.** The dataset of a run is the one at the path of the first source
that is there, and the run has none if that cannot be read or is malformed. Runs with the same first
source, of which they read the same, and that differ only in what else could be taken for the
dataset, have the same dataset and the same result. -/
theorem run_firstSource [GlobEngine] (surroundings : Surroundings) (arguments : Arguments) :
    (∀ session, Session.prepare surroundings arguments = .ok session →
      (∀ path, FirstSource surroundings arguments session.config path →
        (∀ database, readDataset surroundings.files path = .ok database →
          session.dataset = ⟨.ofDatabase database, .loaded path database.features.size⟩) ∧
        ∀ fault, readDataset surroundings.files path = .error fault →
          session.dataset = ⟨.empty, .invalid path fault⟩) ∧
      ((∀ path, ¬FirstSource surroundings arguments session.config path) →
        session.dataset = ⟨.empty, .missing⟩)) ∧
    ∀ (second : Surroundings) (otherPath : Option Path),
      SameButDataset surroundings second arguments otherPath →
      SameFirstSource surroundings second arguments otherPath →
      (Session.prepare second (arguments.withDataset otherPath)).map (·.dataset) =
          (Session.prepare surroundings arguments).map (·.dataset) ∧
        run surroundings arguments = run second (arguments.withDataset otherPath) := by
  constructor
  · intro session prepares
    obtain ⟨_, isDataset⟩ := dataset_of_prepare prepares
    rw [isDataset]
    refine ⟨fun path isFirst => ?_, dataset_of_noSource⟩
    rw [dataset_of_firstSource isFirst, LoadedIndex.ofPath]
    constructor
    · intro database reads
      rw [reads]
    · intro fault fails
      rw [fails]
  · intro second otherPath same sameSource
    have sameDataset : ∀ session other, Session.prepare surroundings arguments = .ok session →
        Session.prepare second (arguments.withDataset otherPath) = .ok other →
        other.dataset = session.dataset := by
      intro session other prepares otherPrepares
      obtain ⟨loads, isDataset⟩ := dataset_of_prepare prepares
      obtain ⟨otherLoads, isOtherDataset⟩ := dataset_of_prepare otherPrepares
      rw [isDataset, isOtherDataset]
      exact dataset_congr sameSource loads otherLoads
    refine ⟨?_, run_eq_of_index same fun session other prepares otherPrepares =>
      congrArg LoadedIndex.index (sameDataset session other prepares otherPrepares)⟩
    rcases prepare_agree same with ⟨fault, fails, otherFails⟩ |
      ⟨session, other, prepares, otherPrepares, _⟩
    · rw [fails, otherFails]
    · rw [prepares, otherPrepares]
      exact congrArg Except.ok (sameDataset session other prepares otherPrepares)

/-- To check the stylesheet with a dataset that is not there. -/
def strayArguments : Arguments :=
  sheetArguments.withDataset (some ⟨"x.json"⟩)

/-- A path that leads nowhere keeps the environment from being looked at. -/
theorem run_firstSource_sheets :
    SameButDataset sheetAlone sheetAndDataset strayArguments (some ⟨"x.json"⟩) ∧
      SameFirstSource sheetAlone sheetAndDataset strayArguments (some ⟨"x.json"⟩) ∧
      run sheetAlone strayArguments =
        run sheetAndDataset (strayArguments.withDataset (some ⟨"x.json"⟩)) := by
  have same : SameButDataset sheetAlone sheetAndDataset strayArguments (some ⟨"x.json"⟩) :=
    sameButDataset_sheets (by decide +kernel) (by decide +kernel)
  have sameSource : SameFirstSource sheetAlone sheetAndDataset strayArguments
      (some ⟨"x.json"⟩) := by
    constructor
    · intro config otherConfig _ _ path
      rw [firstSource_of_given ⟨"x.json"⟩ rfl, firstSource_of_given ⟨"x.json"⟩ rfl,
        Surroundings.workspace_withDataset, same.workspace_eq]
    · intro config path _ isFirst
      rw [← (firstSource_of_given ⟨"x.json"⟩ rfl).mp isFirst]
      decide +kernel
  exact ⟨same, sameSource, ((run_firstSource sheetAlone strayArguments).2 sheetAndDataset _ same
    sameSource).2⟩

end Source

end StyleBaseline
