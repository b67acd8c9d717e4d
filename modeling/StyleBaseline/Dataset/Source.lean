/-
**Where the dataset comes from.** From a path that is given, else from the environment, else from a
package in the workspace or above it. Whatever goes wrong then, there is an index: an empty one.

* `DatasetSource.locate` — the path of the dataset.
* `LoadedIndex.ofSource` — the index of the dataset, and what became of it.
-/
import StyleBaseline.Dataset.Index
import StyleBaseline.Files.Tree
import StyleBaseline.Text.CharacterClasses

namespace StyleBaseline

/-- The ways to the dataset, in the order in which they are tried. -/
structure DatasetSource where
  explicit : Option Path
  /-- The value of the environment variable. -/
  environment : Option String
  /-- The directory at which the search begins. -/
  searchRoot : Option Path
deriving DecidableEq, Repr

/-- The variable of the environment that names a dataset. -/
def datasetVariable : String := "BASELINE_CHECK_FEATURES_DB"

/-- The path of the dataset inside a directory that has the package. -/
def packagePath : Path := ⟨"node_modules/web-features/data.json"⟩

namespace DatasetSource

/-- The path that the environment gives. A blank value gives none. -/
def environmentPath? (source : DatasetSource) : Option Path :=
  source.environment.bind fun value =>
    if (trimBoth value.toList).isEmpty then none else some ⟨value⟩

/-- The package that is nearest to the directory at which the search begins. -/
def packagePath? (source : DatasetSource) (files : FileSystem) : Option Path :=
  source.searchRoot.bind fun root =>
    (root.ancestors.map (·.join packagePath)).find? files.isFile

/-- The path of the dataset. A path that is given counts even if it leads nowhere. -/
def locate (source : DatasetSource) (files : FileSystem) : Option Path :=
  source.explicit <|> source.environmentPath? <|> source.packagePath? files

end DatasetSource

/-- Why a dataset cannot be used. -/
inductive DatasetFault where
  | unreadable (path : Path) (fault : FileFault)
  | malformed (fault : Json.Fault)
deriving DecidableEq, Repr

/-- The wording of a fault. -/
def DatasetFault.message : DatasetFault → String
  | unreadable path fault =>
      "failed to read feature database " ++ path.text ++ ": " ++ fault.message
  | malformed fault => Database.faultMessage fault

/-- What became of the dataset. -/
inductive DatasetState where
  /-- There is none. -/
  | missing
  /-- It is read, with so many readable features. -/
  | loaded (path : Path) (features : Nat)
  /-- It cannot be used. -/
  | invalid (path : Path) (fault : DatasetFault)
deriving DecidableEq, Repr

/-- Whether the dataset is read. -/
def DatasetState.isLoaded : DatasetState → Bool
  | loaded .. => true
  | _ => false

/-- Reads the dataset at a path. -/
def readDataset (files : FileSystem) (path : Path) : Except DatasetFault Database := do
  let text ← (files.readText path).mapError (DatasetFault.unreadable path)
  (Database.ofText text).mapError DatasetFault.malformed

/-- An index, and what became of the dataset that it is made from. -/
structure LoadedIndex where
  index : Index
  state : DatasetState
deriving DecidableEq

namespace LoadedIndex

/-- The index of the dataset at a path, if there is one. It is empty if the dataset cannot be
used. -/
def ofPath (files : FileSystem) : Option Path → LoadedIndex
  | none => ⟨.empty, .missing⟩
  | some path =>
      match readDataset files path with
      | .ok database => ⟨.ofDatabase database, .loaded path database.features.size⟩
      | .error fault => ⟨.empty, .invalid path fault⟩

/-- The index of the dataset that a source leads to. -/
def ofSource (files : FileSystem) (source : DatasetSource) : LoadedIndex :=
  ofPath files (source.locate files)

end LoadedIndex

end StyleBaseline
