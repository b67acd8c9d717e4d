/-
**What becomes of a feature.** A feature is written as a record: an object with named members, or
an array with the parts in a fixed order. Each part is taken by itself, and what is not of the form
that is looked for counts as missing. Only two things spoil the feature: capabilities that are there
and no list, and an array with too many parts.

* `Describes` — which feature a value stands for, part by part.
* `Feature.ofValue?_eq_some_iff` — that feature is what is made of the value.
* `Database.differOnlyAt` — the value of one key decides on the entry of that key only.
* `Database.ofText_features` — the features of a text.
-/

import Mathlib.Data.List.Forall2
import StyleBaseline.Proofs.Dataset.DatabaseText

namespace StyleBaseline

open Json (Value Phrase Blank)

/-! ### Parts of records -/

namespace Json.Value

/-- A part of a record: an object has it under its name, an array at its place. -/
def part? (name : String) (place : Nat) : Value → Option Value
  | .object members => members.lookup name
  | .array items => items[place]?
  | _ => none

/-- A value can be read as a record: it is an object, or an array without surplus parts. -/
def IsRecord (most : Nat) : Value → Prop
  | .object _ => True
  | .array items => items.length ≤ most
  | _ => False

def isString : Value → Bool
  | .string _ => true
  | _ => false

theorem string?_eq_some_iff {value : Value} {text : String} :
    value.string? = some text ↔ value = .string text := by
  cases value <;> simp [string?]

theorem bind_string?_eq_some_iff {part : Option Value} {text : String} :
    part.bind string? = some text ↔ part = some (.string text) := by
  rw [Option.bind_eq_some_iff]
  simp only [string?_eq_some_iff, exists_eq_right]

theorem map_string_filterMap_string? (items : List Value) :
    (items.filterMap string?).map string = items.filter isString := by
  induction items with
  | nil => rfl
  | cons item items ih =>
      rw [List.filterMap_cons, List.filter_cons]
      cases item <;> simp [string?, isString, ih]

theorem filterMap_string?_eq_iff {items : List Value} {texts : List String} :
    items.filterMap string? = texts ↔ texts.map string = items.filter isString := by
  have injective : Function.Injective string := fun _ _ same => string.inj same
  rw [← map_string_filterMap_string?, (List.map_injective_iff.mpr injective).eq_iff, eq_comm]

end Json.Value

/-! ### The status -/

/-- What the tier of a status is written as: two tiers have a name, and all else is the third. -/
def Tier.WrittenAs (part : Option Value) : Tier → Prop
  | .high => part = some (.string "high")
  | .low => part = some (.string "low")
  | .noBaseline => part ≠ some (.string "high") ∧ part ≠ some (.string "low")

theorem Tier.ofValue_eq_iff {part : Option Value} {tier : Tier} :
    Tier.ofValue part = tier ↔ tier.WrittenAs part := by
  have high := @Value.bind_string?_eq_some_iff part "high"
  have low := @Value.bind_string?_eq_some_iff part "low"
  rw [Tier.ofValue]
  cases tier <;> simp only [Tier.WrittenAs, ← high, ← low] <;> split <;> simp_all

/-- **Which status a value stands for.** -/
structure DescribesStatus (value : Value) (status : FeatureStatus) : Prop where
  tier : status.tier.WrittenAs (value.part? "baseline" 0)
  lowSince : ∀ date, status.lowSince = some date ↔
    ∃ text, value.part? "baseline_low_date" 1 = some (.string text) ∧
      BaselineDate.parse text = .ok date

namespace FeatureStatus

theorem describesStatus_ofParts (value : Value) :
    DescribesStatus value
      (ofParts (value.part? "baseline" 0) (value.part? "baseline_low_date" 1)) where
  tier := Tier.ofValue_eq_iff.mp rfl
  lowSince date := by
    rw [ofParts, Option.bind_eq_some_iff]
    simp only [Value.bind_string?_eq_some_iff, Json.toOption_eq_some_iff]

theorem eq_of_describesStatus {value : Value} {a b : FeatureStatus}
    (left : DescribesStatus value a) (right : DescribesStatus value b) : a = b := by
  have tiers : a.tier = b.tier :=
    (Tier.ofValue_eq_iff.mpr left.tier).symm.trans (Tier.ofValue_eq_iff.mpr right.tier)
  have dates : a.lowSince = b.lowSince :=
    Option.ext fun date => (left.lowSince date).trans (right.lowSince date).symm
  cases a
  cases b
  exact congrArg₂ mk tiers dates

theorem ofValue?_eq_some_iff {value : Value} {status : FeatureStatus} :
    ofValue? value = some status ↔ value.IsRecord 2 ∧ DescribesStatus value status := by
  have same : DescribesStatus value status ↔
      ofParts (value.part? "baseline" 0) (value.part? "baseline_low_date" 1) = status :=
    ⟨eq_of_describesStatus (describesStatus_ofParts value),
      fun same => same ▸ describesStatus_ofParts value⟩
  rw [same]
  cases value with
  | array items =>
      by_cases short : items.length ≤ 2 <;> simp [ofValue?, Value.IsRecord, Value.part?, short]
  | _ => simp [ofValue?, Value.IsRecord, Value.part?]

theorem isSome_ofValue?_iff {value : Value} : (ofValue? value).isSome ↔ value.IsRecord 2 := by
  rw [Option.isSome_iff_exists]
  simp only [ofValue?_eq_some_iff]
  constructor
  · rintro ⟨_, isRecord, _⟩
    exact isRecord
  · exact fun isRecord => ⟨_, isRecord, describesStatus_ofParts value⟩

end FeatureStatus

/-! ### The feature -/

/-- What a list of capabilities stands for: the strings in it, in their order. There need not be
one. -/
inductive Lists : Option Value → Option (List String) → Prop
  | absent : Lists none none
  | null : Lists (some .null) none
  | list (items : List Value) (paths : List String)
      (strings : paths.map .string = items.filter Value.isString) :
      Lists (some (.array items)) (some paths)

/-- A value can be read as a feature: it is a record, and its capabilities are a list or missing. -/
structure IsReadable (value : Value) : Prop where
  isRecord : value.IsRecord 3
  capabilities : value.part? "compat_features" 2 = none ∨
    value.part? "compat_features" 2 = some .null ∨
      ∃ items, value.part? "compat_features" 2 = some (.array items)

/-- **Which feature a value stands for.** -/
structure Describes (value : Value) (feature : Feature) : Prop where
  name : ∀ text, feature.name = some text ↔ value.part? "name" 0 = some (.string text)
  hasStatus : feature.status.isSome ↔ ∃ part, value.part? "status" 1 = some part ∧ part.IsRecord 2
  status : ∀ status, feature.status = some status ↔
    ∃ part, value.part? "status" 1 = some part ∧ part.IsRecord 2 ∧ DescribesStatus part status
  capabilities : Lists (value.part? "compat_features" 2) feature.capabilities

namespace Feature

theorem capabilitiesOf?_eq_some_iff {part : Option Value} {capabilities : Option (List String)} :
    capabilitiesOf? part = some capabilities ↔ Lists part capabilities := by
  constructor
  · intro known
    unfold capabilitiesOf? at known
    split at known
    · obtain rfl := Option.some.inj known
      exact .absent
    · obtain rfl := Option.some.inj known
      exact .null
    · obtain rfl := Option.some.inj known
      exact .list _ _ (Value.map_string_filterMap_string? _)
    · exact nomatch known
  · rintro (_ | _ | ⟨items, paths, strings⟩)
    · rfl
    · rfl
    · rw [capabilitiesOf?, Value.filterMap_string?_eq_iff.mpr strings]

theorem isSome_capabilitiesOf?_iff {part : Option Value} :
    (capabilitiesOf? part).isSome ↔
      part = none ∨ part = some .null ∨ ∃ items, part = some (.array items) := by
  cases part with
  | none => simp [capabilitiesOf?]
  | some value => cases value <;> simp [capabilitiesOf?]

theorem ofParts?_eq_some_iff {value : Value} {feature : Feature} :
    ofParts? (value.part? "name" 0) (value.part? "status" 1) (value.part? "compat_features" 2) =
      some feature ↔ Describes value feature := by
  rw [ofParts?, Option.map_eq_some_iff]
  simp only [capabilitiesOf?_eq_some_iff]
  have status (status : FeatureStatus) :
      (value.part? "status" 1).bind FeatureStatus.ofValue? = some status ↔
        ∃ part, value.part? "status" 1 = some part ∧ part.IsRecord 2 ∧
          DescribesStatus part status := by
    rw [Option.bind_eq_some_iff]
    simp only [FeatureStatus.ofValue?_eq_some_iff]
  constructor
  · rintro ⟨paths, listed, rfl⟩
    refine ⟨fun _ => Value.bind_string?_eq_some_iff, ?_, status, listed⟩
    rw [Option.isSome_bind, Option.any_eq_true]
    simp only [FeatureStatus.isSome_ofValue?_iff]
  · rintro ⟨named, _, known, listed⟩
    refine ⟨feature.capabilities, listed, ?_⟩
    have names : (value.part? "name" 0).bind Value.string? = feature.name :=
      Option.ext fun text => Value.bind_string?_eq_some_iff.trans (named text).symm
    have statuses : (value.part? "status" 1).bind FeatureStatus.ofValue? = feature.status :=
      Option.ext fun found => (status found).trans (known found).symm
    rw [names, statuses]

theorem ofValue?_eq_ofParts? {value : Value} (isRecord : value.IsRecord 3) :
    ofValue? value =
      ofParts? (value.part? "name" 0) (value.part? "status" 1)
        (value.part? "compat_features" 2) := by
  cases value with
  | array items => exact if_pos isRecord
  | object members => rfl
  | _ => exact isRecord.elim

theorem isRecord_of_ofValue? {value : Value} {feature : Feature}
    (made : ofValue? value = some feature) : value.IsRecord 3 := by
  cases value with
  | array items =>
      by_contra long
      exact nomatch made.symm.trans (if_neg long)
  | object members => trivial
  | _ => exact nomatch made

/-- **What is made of a value**: the feature that it stands for, if it can be read. -/
theorem ofValue?_eq_some_iff {value : Value} {feature : Feature} :
    ofValue? value = some feature ↔ value.IsRecord 3 ∧ Describes value feature := by
  constructor
  · intro made
    have isRecord := isRecord_of_ofValue? made
    rw [ofValue?_eq_ofParts? isRecord, ofParts?_eq_some_iff] at made
    exact ⟨isRecord, made⟩
  · rintro ⟨isRecord, described⟩
    rw [ofValue?_eq_ofParts? isRecord, ofParts?_eq_some_iff]
    exact described

theorem isSome_ofValue?_iff {value : Value} : (ofValue? value).isSome ↔ IsReadable value := by
  constructor
  · intro made
    obtain ⟨feature, made⟩ := Option.isSome_iff_exists.mp made
    obtain ⟨isRecord, described⟩ := ofValue?_eq_some_iff.mp made
    refine ⟨isRecord, isSome_capabilitiesOf?_iff.mp ?_⟩
    rw [capabilitiesOf?_eq_some_iff.mpr described.capabilities]
    rfl
  · rintro ⟨isRecord, listed⟩
    rw [ofValue?_eq_ofParts? isRecord, ofParts?, Option.isSome_map]
    exact isSome_capabilitiesOf?_iff.mpr listed

end Feature

/-! ### One key -/

/-- Two lists of members have the same keys, and the same values except under one key. -/
def AgreeBut (key : String) : List (String × Value) → List (String × Value) → Prop :=
  List.Forall₂ fun a b => a.1 = b.1 ∧ (a.1 ≠ key → a.2 = b.2)

/-- Two catalogs list the same entries in the same order, except for the entry of one key. -/
def Catalog.DifferOnlyAt {α : Type} (key : String) (a b : Catalog α) : Prop :=
  ∃ before after : List (String × α),
    a.entries = before ++ (((a.find? key).map (key, ·)).toList ++ after) ∧
      b.entries = before ++ (((b.find? key).map (key, ·)).toList ++ after)

theorem exists_split_filterMap {α : Type} {names : List String} (distinct : names.Nodup)
    {key : String} {f g : String → Option α} (absent : key ∉ names → f key = none ∧ g key = none)
    (agree : ∀ name ≠ key, f name = g name) :
    ∃ before after, names.filterMap f = before ++ ((f key).toList ++ after) ∧
      names.filterMap g = before ++ ((g key).toList ++ after) := by
  have elsewhere (names : List String) (apart : key ∉ names) :
      names.filterMap f = names.filterMap g :=
    List.filterMap_congr fun name member => agree name fun same => apart (same ▸ member)
  by_cases known : key ∈ names
  · obtain ⟨before, after, rfl⟩ := List.append_of_mem known
    obtain ⟨_, tail, apart⟩ := List.nodup_append.mp distinct
    have notBefore : key ∉ before := fun member =>
      apart key member key (List.mem_cons_self ..) rfl
    have notAfter : key ∉ after := (List.nodup_cons.mp tail).1
    have split (h : String → Option α) : (before ++ key :: after).filterMap h =
        before.filterMap h ++ ((h key).toList ++ after.filterMap h) := by
      rw [List.filterMap_append, List.filterMap_cons]
      cases h key <;> rfl
    refine ⟨before.filterMap g, after.filterMap g, ?_, split g⟩
    rw [split f, elsewhere before notBefore, elsewhere after notAfter]
  · obtain ⟨noneLeft, noneRight⟩ := absent known
    refine ⟨names.filterMap g, [], ?_, ?_⟩
    · rw [noneLeft, elsewhere names known]
      exact (List.append_nil _).symm
    · rw [noneRight]
      exact (List.append_nil _).symm

namespace AgreeBut

variable {key : String} {entries others : List (String × Value)}

theorem map_fst (agree : AgreeBut key entries others) :
    entries.map (·.1) = others.map (·.1) := by
  induction agree with
  | nil => rfl
  | cons both _ ih => rw [List.map_cons, List.map_cons, both.1, ih]

theorem lookup (agree : AgreeBut key entries others) {name : String} (other : name ≠ key) :
    entries.lookup name = others.lookup name := by
  induction agree with
  | nil => rfl
  | @cons a b _ _ both _ ih =>
      rw [lookup_cons_eq_ite, lookup_cons_eq_ite, ih, ← both.1]
      by_cases here : name = a.1
      · rw [if_pos here, if_pos here, both.2 (here ▸ other)]
      · rw [if_neg here, if_neg here]

theorem reverse (agree : AgreeBut key entries others) :
    AgreeBut key entries.reverse others.reverse :=
  List.forall₂_reverse_iff.mpr agree

end AgreeBut

namespace Database

variable {entries others : List (String × Value)}

/-- The features are listed in the order in which their keys come first. -/
theorem entries_ofMembers (entries : List (String × Value)) :
    (ofMembers entries).features.entries = (entries.map (·.1)).eraseDups.filterMap fun key =>
      ((ofMembers entries).features.find? key).map (key, ·) := by
  show (Catalog.ofList entries).entries.filterMap _ = _
  rw [Catalog.entries_ofList, List.filterMap_filterMap]
  refine List.filterMap_congr fun key _ => ?_
  rw [find?_ofMembers]
  cases entries.reverse.lookup key <;> rfl

theorem find?_ofMembers_of_notMem {key : String}
    (absent : key ∉ (entries.map (·.1)).eraseDups) :
    (ofMembers entries).features.find? key = none := by
  rw [← Catalog.map_fst_ofList, Catalog.mem_map_fst_iff, Option.not_isSome_iff_eq_none,
    Catalog.find?_ofList] at absent
  rw [find?_ofMembers, absent, Option.bind_none]

/-- **The value of one key decides on the entry of that key only.** -/
theorem differOnlyAt {key : String} (agree : AgreeBut key entries others) :
    (ofMembers entries).features.DifferOnlyAt key (ofMembers others).features := by
  rw [Catalog.DifferOnlyAt, entries_ofMembers entries, entries_ofMembers others, ← agree.map_fst]
  refine exists_split_filterMap (Catalog.nodup_eraseDups entries) (fun absent => ?_)
    fun name other => ?_
  · have absentThere := absent
    rw [agree.map_fst] at absentThere
    rw [find?_ofMembers_of_notMem absent, find?_ofMembers_of_notMem absentThere]
    exact ⟨rfl, rfl⟩
  · rw [find?_ofMembers, find?_ofMembers, agree.reverse.lookup other]

end Database

/-! ### Whole texts -/

/-- The keys and values of the features that a text writes, in its order. -/
def WritesFeatures (text : String) (entries : List (String × Value)) : Prop :=
  ∃ members features, HoldsFeatures text members features ∧
    (∀ member ∈ members, member.1.word.value?.isSome) ∧
      Phrase.memberValues? features featureLevels = some entries

namespace Database

variable {text : String} {entries : List (String × Value)}

theorem ofText_of_writesFeatures (writes : WritesFeatures text entries) :
    ofText text = .ok (ofMembers entries) := by
  obtain ⟨members, features, holds, names, values⟩ := writes
  exact (ofText_eq_ok_iff holds).mpr ⟨names, entries, values, rfl⟩

/-- **The features of a text.** They stand in the order in which their keys come first. Of each key
the value that comes last counts: if it can be read, the feature is the one that it stands for, and
if not, there is none. Another value for one key changes the entry of that key only. -/
theorem ofText_features (writes : WritesFeatures text entries) :
    ∃ database, ofText text = .ok database ∧
      (database.features.entries = (entries.map (·.1)).eraseDups.filterMap fun key =>
        (database.features.find? key).map (key, ·)) ∧
      (∀ key, (database.features.find? key).isSome ↔
        ∃ value, entries.reverse.lookup key = some value ∧ IsReadable value) ∧
      (∀ key feature, database.features.find? key = some feature ↔
        ∃ value, entries.reverse.lookup key = some value ∧ IsReadable value ∧
          Describes value feature) ∧
      ∀ key otherText others, WritesFeatures otherText others → AgreeBut key entries others →
        ∃ other, ofText otherText = .ok other ∧
          database.features.DifferOnlyAt key other.features := by
  refine ⟨ofMembers entries, ofText_of_writesFeatures writes, entries_ofMembers entries,
    fun key => ?_, fun key feature => ?_, fun key otherText others alsoWrites agree => ?_⟩
  · rw [find?_ofMembers, Option.isSome_bind, Option.any_eq_true]
    simp only [Feature.isSome_ofValue?_iff]
  · rw [find?_ofMembers, Option.bind_eq_some_iff]
    refine exists_congr fun value => and_congr_right fun _ => ?_
    rw [← Feature.isSome_ofValue?_iff]
    constructor
    · intro made
      exact ⟨Option.isSome_of_eq_some made, (Feature.ofValue?_eq_some_iff.mp made).2⟩
    · rintro ⟨readable, described⟩
      obtain ⟨isRecord, _⟩ := Feature.isSome_ofValue?_iff.mp readable
      exact Feature.ofValue?_eq_some_iff.mpr ⟨isRecord, described⟩
  · exact ⟨ofMembers others, ofText_of_writesFeatures alsoWrites, differOnlyAt agree⟩

end Database

/-! ### A key that comes twice -/

/-- An array, and around it two values of one key. -/
def gridAmongGaps (last : Phrase) : WrittenMembers :=
  [plainMember "gap" .null,
    plainMember "grid" (.array Blank.none
      [unpadded (.string (plainForm "Grid")),
        unpadded (.array Blank.none [unpadded (.string (plainForm "high"))])]),
    plainMember "gap" last]

/-- The entry of a feature that has a name only. -/
def nameOnly (name : String) : Phrase :=
  .object Blank.none [plainMember "name" (.string (plainForm name))]

def gridAmongGapValues (last : Value) : List (String × Value) :=
  [("gap", .null), ("grid", .array [.string "Grid", .array [.string "high"]]), ("gap", last)]

theorem writesFeatures_gridAmongGaps {last : Phrase} {value : Value}
    (written : last.value? featureLevels = some value) :
    WritesFeatures (databaseText (gridAmongGaps last)) (gridAmongGapValues value) := by
  have features : (plainForm featuresMember).value?.isSome := by decide
  have gap : (plainForm "gap").value? = some "gap" := by decide
  refine ⟨_, _, holdsFeatures_databaseText _, ?_, ?_⟩
  · exact List.forall_mem_cons.mpr ⟨features, List.forall_mem_nil _⟩
  · have entry : Phrase.memberValue? (·.value? featureLevels) (plainMember "gap" last) =
        some ("gap", value) := by
      show ((plainForm "gap").value?.bind fun name => (last.value? featureLevels).map (name, ·)) = _
      rw [gap, written]
      rfl
    rw [Phrase.memberValues?_eq_mapM, gridAmongGaps, List.mapM_cons, List.mapM_cons,
      List.mapM_cons, entry]
    rfl

theorem ofText_gridAmongGaps :
    ∃ database, Database.ofText (databaseText (gridAmongGaps (nameOnly "Gap"))) = .ok database ∧
      database.features.entries =
        [("gap", ⟨some "Gap", none, none⟩), ("grid", ⟨some "Grid", some ⟨.high, none⟩, none⟩)] ∧
      ∃ other, Database.ofText (databaseText (gridAmongGaps .null)) = .ok other ∧
        database.features.DifferOnlyAt "gap" other.features := by
  have named : (nameOnly "Gap").value? featureLevels = some (.object [("name", .string "Gap")]) :=
    rfl
  have null : Phrase.null.value? featureLevels = some .null := rfl
  obtain ⟨database, read, order, _, each, replaced⟩ :=
    Database.ofText_features (writesFeatures_gridAmongGaps named)
  have gap : database.features.find? "gap" = some ⟨some "Gap", none, none⟩ := by
    have made : Feature.ofValue? (.object [("name", .string "Gap")]) =
        some ⟨some "Gap", none, none⟩ := by decide
    exact (each _ _).mpr ⟨_, rfl, Feature.isSome_ofValue?_iff.mp (Option.isSome_of_eq_some made),
      (Feature.ofValue?_eq_some_iff.mp made).2⟩
  have grid : database.features.find? "grid" = some ⟨some "Grid", some ⟨.high, none⟩, none⟩ := by
    have made : Feature.ofValue? (.array [.string "Grid", .array [.string "high"]]) =
        some ⟨some "Grid", some ⟨.high, none⟩, none⟩ := by decide
    exact (each _ _).mpr ⟨_, rfl, Feature.isSome_ofValue?_iff.mp (Option.isSome_of_eq_some made),
      (Feature.ofValue?_eq_some_iff.mp made).2⟩
  have keys : ((gridAmongGapValues (.object [("name", .string "Gap")])).map (·.1)).eraseDups =
      ["gap", "grid"] := by decide
  refine ⟨database, read, ?_, replaced "gap" _ _ (writesFeatures_gridAmongGaps null) ?_⟩
  · rw [order, keys, List.filterMap_cons, gap, List.filterMap_cons, grid]
    rfl
  · exact .cons ⟨rfl, fun _ => rfl⟩ (.cons ⟨rfl, fun _ => rfl⟩ (.cons ⟨rfl, fun other =>
      absurd rfl other⟩ .nil))

end StyleBaseline
