/-
**The feature database.** A JSON text whose top is an object with a map of features, or an array of
that map alone. The top has to be right in every detail; a feature that is not readable is left out.

* `Database.ofMembers` — the readable ones of a list of features, each key once.
* `Database.ofText` — the database that a text writes.
-/
import StyleBaseline.Catalog
import StyleBaseline.Dataset.Feature
import StyleBaseline.Json.Skim

namespace StyleBaseline

open Json (Value Cursor Cause Stop)

/-- The readable features by their keys, in the order of the text. -/
structure Database where
  features : Catalog Feature
deriving DecidableEq

/-- What is expected of the top of a database. -/
def expectedDatabase : Json.Expected := .record "RawDatabase"

/-- The member of the top that holds the features. -/
def featuresMember : String := "features"

/-- Reads the map of features. Two levels of nesting are already open. -/
def readFeatures (cursor : Cursor) : Except Stop (Catalog Value × Cursor) :=
  let here := cursor.skipPadding
  match here.rest with
  | '\x7b' :: _ =>
      Cursor.readMap Catalog.insert Catalog.empty (Cursor.readValue (Json.levelLimit - 2))
        (here.skip 1)
  | _ => here.refuseType .map

/-- Goes on behind a name at the top of a database. -/
def readDatabaseMember (found : Option (Catalog Value)) (name : String) (cursor : Cursor) :
    Except Stop (Option (Catalog Value) × Cursor) := do
  if name = featuresMember then
    match found with
    | some _ => cursor.stopInObject (.repeatedMember featuresMember)
    | none =>
        let (features, behind) ← readFeatures (← cursor.readColon)
        .ok (some features, behind)
  else
    let behind ← (← cursor.readColon).skimValue
    .ok (found, behind)

/-- Reads the features of a database that is an object, from behind its brace. -/
def readDatabaseObject (cursor : Cursor) : Except Stop (Catalog Value × Cursor) := do
  let (found, behind) ← Cursor.readMembers readDatabaseMember cursor.rounds true none cursor
  match found with
  | none => behind.stopInObject (.missingMember featuresMember)
  | some features =>
      let behind ← behind.closeObject
      .ok (features, behind)

/-- Reads the features of a database that is an array, from behind its bracket. -/
def readDatabaseList (cursor : Cursor) : Except Stop (Catalog Value × Cursor) := do
  match ← cursor.nextItem true with
  | none =>
      let behind ← cursor.closeList
      behind.stopHere (.emptyRecord expectedDatabase)
  | some here =>
      let (features, behind) ← readFeatures here
      let behind ← behind.closeList
      .ok (features, behind)

/-- Reads the values of all features of a database. -/
def readDatabase (cursor : Cursor) : Except Stop (Catalog Value × Cursor) :=
  let here := cursor.skipPadding
  match here.rest with
  | '\x7b' :: _ => readDatabaseObject (here.skip 1)
  | '[' :: _ => readDatabaseList (here.skip 1)
  | _ => here.refuseType expectedDatabase

namespace Database

/-- The database without features. -/
def empty : Database :=
  ⟨Catalog.empty⟩

/-- The database of a list of keys with values. A key stands where it comes first and has the value
that comes last. -/
def ofMembers (members : List (String × Value)) : Database :=
  ⟨(Catalog.ofList members).filterMap Feature.ofValue?⟩

/-- The database that a text writes. -/
def ofText (text : String) : Except Json.Fault Database :=
  (Json.readWhole readDatabase text).map fun values => ⟨values.filterMap Feature.ofValue?⟩

/-- The wording of the fault of a text that is no database. -/
def faultMessage (fault : Json.Fault) : String :=
  "malformed feature database: " ++ fault.message

end Database

end StyleBaseline
