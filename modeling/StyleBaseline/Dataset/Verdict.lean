/-
**Verdicts.** A property has the support of the best supported feature behind it, and the features
of that tier make up its verdict.

* `Index.verdict` — the verdict on a property.
* `Verdict.isReportable` — whether the property is to be reported.
-/
import StyleBaseline.Dataset.Index

namespace StyleBaseline

/-- The support of a property. -/
inductive Support where
  /-- No feature is known behind the property. -/
  | unknown
  | noBaseline
  | low
  | high
deriving DecidableEq, Repr

/-- The support that features of a tier give. -/
def Tier.support : Tier → Support
  | .noBaseline => .noBaseline
  | .low => .low
  | .high => .high

/-- The tiers, the best first. -/
def Tier.bestFirst : List Tier :=
  [.high, .low, .noBaseline]

/-- The support of a property and the features that give it. -/
structure Verdict where
  support : Support
  contributing : List FeatureRecord
deriving DecidableEq

namespace Verdict

/-- The verdict on a property without known features. -/
def unknown : Verdict :=
  ⟨.unknown, []⟩

/-- The verdict that the features of one tier give, if there are any. -/
def ofTier? (records : List FeatureRecord) (tier : Tier) : Option Verdict :=
  let group := records.filter (·.tier = tier)
  if group.isEmpty then none else some ⟨tier.support, group⟩

/-- The verdict on a property with the given features: that of the best tier among them. -/
def ofRecords (records : List FeatureRecord) : Verdict :=
  (Tier.bestFirst.findSome? (ofTier? records)).getD unknown

/-- A property is reported if all its features are of the two lower tiers. -/
def isReportable (verdict : Verdict) : Bool :=
  match verdict.support with
  | .low | .noBaseline => true
  | .high | .unknown => false

/-- The names of the contributing features. -/
def featureNames (verdict : Verdict) : String :=
  String.intercalate ", " (verdict.contributing.map (·.displayName))

/-- What is said about a property, if there is anything to say. -/
def message? (verdict : Verdict) (property : String) : Option String :=
  match verdict.support with
  | .noBaseline =>
      some ("Property '" ++ property ++ "' has no baseline support (" ++ verdict.featureNames
        ++ "). Browser support is very limited.")
  | .low =>
      some ("Property '" ++ property ++ "' has low baseline status (" ++ verdict.featureNames
        ++ "). Consider providing fallbacks.")
  | .high | .unknown => none

end Verdict

/-- The verdict on a property, whose name is in lower case. -/
def Index.verdict (index : Index) (property : String) : Verdict :=
  match index.find? property with
  | none => .unknown
  | some records => .ofRecords records

end StyleBaseline
