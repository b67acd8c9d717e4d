/-
**The configuration of a project.** A JSON text with three members, each of which may be missing:
the levels of the rules, the path of the dataset, and patterns of files to ignore. It is an object,
or an array of the three values in this order.

* `Config.ofText` — the configuration that a text writes.
* `Config.severity` — the severity that it gives to the rule on support.
-/
import StyleBaseline.Json.Reader
import StyleBaseline.Settings.RuleLevel

namespace StyleBaseline

open Json (Cursor Cause Stop)

/-- A configuration. -/
structure Config where
  levels : Table RuleLevel
  featuresPath : Option String
  ignored : List String
deriving DecidableEq

/-- What is expected of the top of a configuration. -/
def expectedConfig : Json.Expected := .record "BaselineConfig"

/-- The members of a configuration. -/
def configMembers : List String :=
  ["rules", "featuresDb", "ignore"]

/-- A configuration of which some members are read. -/
structure ConfigDraft where
  levels : Option (Table RuleLevel)
  featuresPath : Option (Option String)
  ignored : Option (List String)

namespace ConfigDraft

/-- Before the first member. -/
def empty : ConfigDraft :=
  ⟨none, none, none⟩

/-- The configuration in which all members that are not read are missing. -/
def config (draft : ConfigDraft) : Config :=
  ⟨draft.levels.getD Table.empty, draft.featuresPath.getD none, draft.ignored.getD []⟩

end ConfigDraft

/-! ### The members -/

/-- Goes on behind the name of a rule. -/
def readLevel (levels : Table RuleLevel) (name : String) (cursor : Cursor) :
    Except Stop (Table RuleLevel × Cursor) := do
  let (value, behind) ← (← cursor.readColon).readValue (Json.levelLimit - 2)
  match RuleLevel.ofValue value with
  | .ok level => .ok (levels.insert name level, behind)
  | .error fault => behind.stopInObject (.refused fault.message)

/-- Reads the levels of the rules. -/
def readLevels (cursor : Cursor) : Except Stop (Table RuleLevel × Cursor) :=
  let here := cursor.skipPadding
  match here.rest with
  | '\x7b' :: _ => do
      let inside := here.skip 1
      let (levels, behind) ← Cursor.readMembers readLevel inside.rounds true Table.empty inside
      let behind ← behind.closeObject
      .ok (levels, behind)
  | _ => here.refuseType .map

/-- Reads the path of the dataset, or null. -/
def readFeaturesPath (cursor : Cursor) : Except Stop (Option String × Cursor) :=
  let here := cursor.skipPadding
  match here.rest with
  | 'n' :: _ => do
      let behind ← (here.skip 1).readLiteral ['u', 'l', 'l']
      .ok (none, behind)
  | _ => do
      let (path, behind) ← here.readText .path
      .ok (some path, behind)

/-- Reads the patterns of files to ignore. -/
def readIgnored (cursor : Cursor) : Except Stop (List String × Cursor) :=
  let here := cursor.skipPadding
  match here.rest with
  | '[' :: _ => Cursor.readList (Cursor.readText .string) (here.skip 1)
  | _ => here.refuseType .sequence

/-! ### The whole -/

/-- Goes on behind the name of a member. -/
def readConfigMember (draft : ConfigDraft) (name : String) (cursor : Cursor) :
    Except Stop (ConfigDraft × Cursor) := do
  if name = "rules" then
    if draft.levels.isSome then cursor.stopInObject (.repeatedMember name)
    else
      let (levels, behind) ← readLevels (← cursor.readColon)
      .ok ({ draft with levels := some levels }, behind)
  else if name = "featuresDb" then
    if draft.featuresPath.isSome then cursor.stopInObject (.repeatedMember name)
    else
      let (path, behind) ← readFeaturesPath (← cursor.readColon)
      .ok ({ draft with featuresPath := some path }, behind)
  else if name = "ignore" then
    if draft.ignored.isSome then cursor.stopInObject (.repeatedMember name)
    else
      let (patterns, behind) ← readIgnored (← cursor.readColon)
      .ok ({ draft with ignored := some patterns }, behind)
  else cursor.stopInObject (.unknownMember name configMembers)

/-- Reads a configuration that is an object, from behind its brace. -/
def readConfigObject (cursor : Cursor) : Except Stop (Config × Cursor) := do
  let (draft, behind) ←
    Cursor.readMembers readConfigMember cursor.rounds true ConfigDraft.empty cursor
  let behind ← behind.closeObject
  .ok (draft.config, behind)

/-- Reads the next value of an array, if there is one. -/
def readIfPresent {α : Type} (readOne : Cursor → Except Stop (α × Cursor)) (isFirst : Bool)
    (cursor : Cursor) : Except Stop (Option α × Cursor) := do
  match ← cursor.nextItem isFirst with
  | none => .ok (none, cursor)
  | some here =>
      let (value, behind) ← readOne here
      .ok (some value, behind)

/-- Reads a configuration that is an array, from behind its bracket. -/
def readConfigList (cursor : Cursor) : Except Stop (Config × Cursor) := do
  let (levels, behind) ← readIfPresent readLevels true cursor
  let (path, behind) ←
    if levels.isSome then readIfPresent readFeaturesPath false behind else .ok (none, behind)
  let (patterns, behind) ←
    if path.isSome then readIfPresent readIgnored false behind else .ok (none, behind)
  let behind ← behind.closeList
  .ok (ConfigDraft.config ⟨levels, path, patterns⟩, behind)

/-- Reads a configuration. -/
def readConfig (cursor : Cursor) : Except Stop (Config × Cursor) :=
  let here := cursor.skipPadding
  match here.rest with
  | '\x7b' :: _ => readConfigObject (here.skip 1)
  | '[' :: _ => readConfigList (here.skip 1)
  | _ => here.refuseType expectedConfig

namespace Config

/-- The configuration of a project that has none. -/
def default : Config :=
  ConfigDraft.empty.config

/-- The configuration that a text writes. -/
def ofText (text : String) : Except Json.Fault Config :=
  Json.readWhole readConfig text

/-- The severity of the rule on support: a warning if nothing else is set, and none if the rule is
off. -/
def severity (config : Config) : Option Severity :=
  match config.levels.find? baselineRule.id with
  | none => some .warning
  | some level => level.severity

end Config

end StyleBaseline
