/-
**Features.** An entry of the dataset has a name, a status and a list of the capabilities it covers,
each of which may be missing. An entry is read leniently: whatever is of another form counts as
missing. Only a list of capabilities that is something else than a list makes the entry unreadable.

* `Tier` — how widely a feature is supported.
* `Feature.ofValue?` — the feature that a JSON value describes.
-/
import StyleBaseline.Calendar.BaselineDate
import StyleBaseline.Json.Value

namespace StyleBaseline

/-- How widely a feature is supported across the core browsers. -/
inductive Tier where
  /-- Not yet by all of them. -/
  | noBaseline
  /-- By all of them since recently. -/
  | low
  /-- By all of them for long. -/
  | high
deriving DecidableEq, Repr

/-- The status of a feature. -/
structure FeatureStatus where
  tier : Tier
  lowSince : Option BaselineDate
deriving DecidableEq

/-- An entry of the dataset. -/
structure Feature where
  name : Option String
  status : Option FeatureStatus
  /-- The dotted paths of the capabilities, if there is a list of them. -/
  capabilities : Option (List String)
deriving DecidableEq

namespace Json.Value

/-- The text of a string. -/
def string? : Value → Option String
  | .string text => some text
  | _ => none

end Json.Value

open Json (Value)

namespace Tier

/-- The tier that a status names; any other value stands for no support. -/
def ofValue (value : Option Value) : Tier :=
  match value.bind Value.string? with
  | some "high" => .high
  | some "low" => .low
  | _ => .noBaseline

end Tier

namespace FeatureStatus

/-- The status with the given parts. -/
def ofParts (tier lowSince : Option Value) : FeatureStatus where
  tier := Tier.ofValue tier
  lowSince := (lowSince.bind Value.string?).bind fun text => (BaselineDate.parse text).toOption

/-- The status that a value describes: an object, or an array of at most two parts. -/
def ofValue? : Value → Option FeatureStatus
  | .object members =>
      some (ofParts (members.lookup "baseline") (members.lookup "baseline_low_date"))
  | .array items => if items.length ≤ 2 then some (ofParts items[0]? items[1]?) else none
  | _ => none

end FeatureStatus

namespace Feature

/-- The capabilities that a value lists: of an array the strings, and no list if there is no value
or null. Any other value is unreadable. -/
def capabilitiesOf? : Option Value → Option (Option (List String))
  | none | some .null => some none
  | some (.array items) => some (some (items.filterMap Value.string?))
  | some _ => none

/-- The feature with the given parts. -/
def ofParts? (name status capabilities : Option Value) : Option Feature :=
  (capabilitiesOf? capabilities).map fun paths =>
    ⟨name.bind Value.string?, status.bind FeatureStatus.ofValue?, paths⟩

/-- The feature that a value describes: an object, or an array of at most three parts. -/
def ofValue? : Value → Option Feature
  | .object members =>
      ofParts? (members.lookup "name") (members.lookup "status") (members.lookup "compat_features")
  | .array items =>
      if items.length ≤ 3 then ofParts? items[0]? items[1]? items[2]? else none
  | _ => none

/-- The tier of a feature, which without a status is the lowest. -/
def tier (feature : Feature) : Tier :=
  (feature.status.map (·.tier)).getD .noBaseline

/-- The paths of the capabilities. -/
def paths (feature : Feature) : List String :=
  feature.capabilities.getD []

end Feature

end StyleBaseline
