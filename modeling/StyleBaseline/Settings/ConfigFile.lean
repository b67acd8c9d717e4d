/-
**The configuration file.** It is the one that is given, or else a file of a fixed name in the
workspace, if there is such a file.

* `Config.load` — the configuration of a workspace.
-/
import StyleBaseline.Files.Tree
import StyleBaseline.Settings.Config

namespace StyleBaseline

/-- Why a configuration file cannot be used. -/
inductive ConfigFault where
  | unreadable (path : Path) (fault : FileFault)
  | malformed (path : Path) (fault : Json.Fault)
deriving DecidableEq, Repr

/-- The wording of a fault. -/
def ConfigFault.message : ConfigFault → String
  | unreadable path fault => "failed to read config " ++ path.text ++ ": " ++ fault.message
  | malformed path fault => "invalid config " ++ path.text ++ ": " ++ fault.message

/-- The name of the configuration file in a workspace. -/
def configName : Path := ⟨".baselinerc.json"⟩

/-- Reads the configuration file at a path. -/
def readConfigFile (files : FileSystem) (path : Path) : Except ConfigFault Config := do
  let text ← (files.readText path).mapError (ConfigFault.unreadable path)
  (Config.ofText text).mapError (ConfigFault.malformed path)

namespace Config

/-- The path of the configuration file, if there is one. A path that is given counts even if it
leads nowhere. -/
def path? (files : FileSystem) (workspace : Path) (explicit : Option Path) : Option Path :=
  match explicit with
  | some path => some path
  | none =>
      let path := workspace.join configName
      if files.isFile path then some path else none

/-- The configuration of a workspace. -/
def load (files : FileSystem) (workspace : Path) (explicit : Option Path) :
    Except ConfigFault Config :=
  match path? files workspace explicit with
  | none => .ok default
  | some path => readConfigFile files path

/-- The path of the dataset in a workspace. -/
def datasetPath? (config : Config) (workspace : Path) : Option Path :=
  config.featuresPath.map fun path => workspace.join ⟨path⟩

end Config

end StyleBaseline
