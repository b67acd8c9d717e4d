/-
**The index of properties.** Each property that a capability of some feature names, with the
features behind it. Properties stand in the order in which they are first named, and the features of
a property in the order of the database, each once.

* `propertyNamed?` — the property that a capability names.
* `Index.ofDatabase` — the index of a database.
* `Index.find?` — the features behind a property.
-/
import StyleBaseline.Dataset.Database

namespace StyleBaseline

/-- What the paths of properties begin with. -/
def propertyPathStart : String := "css.properties."

/-- The rest of a text behind the one it begins with. -/
def behind? : List Char → List Char → Option (List Char)
  | [], cs => some cs
  | _ :: _, [] => none
  | b :: bs, c :: cs => if b = c then behind? bs cs else none

/-- The property that a capability names: the part of its path behind `css.properties.` and before
the next dot, if that is not empty. -/
def propertyNamed? (path : String) : Option String := do
  let rest ← behind? propertyPathStart.toList path.toList
  let name := rest.takeWhile (· ≠ '.')
  if name.isEmpty then none else some (String.ofList name)

/-- A feature behind a property. -/
structure FeatureRecord where
  key : String
  displayName : String
  tier : Tier
  lowSince : Option BaselineDate
deriving DecidableEq

namespace FeatureRecord

/-- The record of a feature. It is shown by its key if it has no name. -/
def ofFeature (key : String) (feature : Feature) : FeatureRecord where
  key := key
  displayName := feature.name.getD key
  tier := feature.tier
  lowSince := feature.status.bind (·.lowSince)

end FeatureRecord

/-- The features behind each property. -/
structure Index where
  properties : Catalog (List FeatureRecord)
deriving DecidableEq

namespace Index

/-- The index without properties. -/
def empty : Index :=
  ⟨Catalog.empty⟩

/-- Adds a record to those of a property, unless there is one with its key. -/
def addRecord (record : FeatureRecord) (records : Option (List FeatureRecord)) :
    List FeatureRecord :=
  match records with
  | none => [record]
  | some known => if known.any (·.key == record.key) then known else known ++ [record]

/-- Adds a record to the property that a capability names, if it names one. -/
def addCapability (record : FeatureRecord) (index : Index) (path : String) : Index :=
  match propertyNamed? path with
  | none => index
  | some property => ⟨index.properties.alter property (addRecord record)⟩

/-- Adds a feature to every property that it names. -/
def addFeature (index : Index) (entry : String × Feature) : Index :=
  entry.2.paths.foldl (addCapability (.ofFeature entry.1 entry.2)) index

/-- The index of a database. -/
def ofDatabase (database : Database) : Index :=
  database.features.entries.foldl addFeature empty

/-- The features behind a property. -/
def find? (index : Index) (property : String) : Option (List FeatureRecord) :=
  index.properties.find? property

/-- The number of properties. -/
def size (index : Index) : Nat :=
  index.properties.size

/-- Whether there are no properties. -/
def isEmpty (index : Index) : Bool :=
  index.properties.isEmpty

/-- Whether two indexes have the same properties with the same features. The order of the properties
does not count. -/
def same (a b : Index) : Bool :=
  a.properties.sameEntries b.properties

end Index

end StyleBaseline
