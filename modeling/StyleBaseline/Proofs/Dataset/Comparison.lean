/-
**Databases compared.** An index and its verdicts do not follow everything in the database. What
counts for a property is which features name it, in which order they stand, and of which tier they
are.

* `Verdict.support_ofRecords_le`, `Verdict.ofRecords_perm` — better features, and another order.
* `Index.verdict_grows` — more support in the database never takes any from a property.
* `Index.ofDatabase_reordered` — another order of the features: what shows of it and what does not.
* `Index.same_ofDatabase` — indexes are the same if they answer alike; how the paths of a feature
  are listed does not show.
-/

import Mathlib.Data.List.Forall2
import StyleBaseline.Proofs.Dataset.PlainScan

namespace StyleBaseline

/-! ### More support -/

namespace Support

/-- The place of a support, counted from the lowest. -/
def rank : Support → Nat
  | .unknown => 0
  | .noBaseline => 1
  | .low => 2
  | .high => 3

theorem rank_injective : Function.Injective rank := by
  intro first second same
  cases first <;> cases second <;> first | rfl | exact absurd same (by decide)

/-- Unknown is below no baseline, that below low, and low below high. -/
instance : LinearOrder Support :=
  LinearOrder.lift' rank rank_injective

example : Support.unknown < .noBaseline ∧ Support.noBaseline < .low ∧ Support.low < .high := by
  decide

theorem unknown_le (support : Support) : .unknown ≤ support :=
  Nat.zero_le support.rank

end Support

/-- Better tiers give more support. -/
theorem Tier.support_monotone : Monotone Tier.support := by
  have rank_support (tier : Tier) : tier.support.rank = tier.rank + 1 := by cases tier <;> rfl
  intro first second below
  show first.support.rank ≤ second.support.rank
  rw [rank_support, rank_support]
  exact Nat.succ_le_succ below

/-- Features that are each outdone by one of the others do not give more support than these. -/
theorem Verdict.support_ofRecords_le {records others : List FeatureRecord}
    (outdone : ∀ record ∈ records, ∃ other ∈ others, record.tier ≤ other.tier) :
    (ofRecords records).support ≤ (ofRecords others).support := by
  by_cases nothing : records = []
  · rw [nothing]
    exact Support.unknown_le _
  · obtain ⟨best, greatest⟩ := Tier.exists_greatest (·.tier) nothing
    obtain ⟨record, member, isBest⟩ := greatest.1
    obtain ⟨other, inOthers, above⟩ := outdone record member
    obtain ⟨top, isTop⟩ := Tier.exists_greatest (·.tier) (List.ne_nil_of_mem inOthers)
    have below : best ≤ top := by
      calc best = record.tier := isBest.symm
        _ ≤ other.tier := above
        _ ≤ top := isTop.2 ⟨other, inOthers, rfl⟩
    rw [ofRecords_of_greatest greatest, ofRecords_of_greatest isTop]
    exact Tier.support_monotone below

/-- **A feature grows** if its tier does not fall and its paths name no property less. -/
structure Feature.Grows (old new : Feature) : Prop where
  tier : old.tier ≤ new.tier
  named : ∀ property, (∃ path ∈ old.paths, Names path property) →
    ∃ path ∈ new.paths, Names path property

/-- **A database grows** if its features are kept under their keys, each the same or grown. Others
may be added, and the order is free. -/
def Database.Grows (old new : Database) : Prop :=
  ∀ entry ∈ old.features.entries, ∃ feature,
    (entry.1, feature) ∈ new.features.entries ∧ entry.2.Grows feature

/-- **More support in the database never takes any from a property**, nor the property from the
index. -/
theorem Index.verdict_grows {old new : Database} (grows : old.Grows new) (property : String) :
    ((ofDatabase old).verdict property).support ≤ ((ofDatabase new).verdict property).support ∧
      (((ofDatabase old).find? property).isSome → ((ofDatabase new).find? property).isSome) := by
  constructor
  · rw [verdict_ofDatabase, verdict_ofDatabase]
    refine Verdict.support_ofRecords_le fun record member => ?_
    obtain ⟨entry, listed, concerns, rfl⟩ := mem_recordsBehind.mp member
    obtain ⟨feature, stillListed, grown⟩ := grows entry listed
    exact ⟨.ofFeature entry.1 feature,
      mem_recordsBehind.mpr ⟨_, stillListed, grown.named property concerns, rfl⟩, grown.tier⟩
  · rw [isSome_find?_ofDatabase, isSome_find?_ofDatabase]
    rintro ⟨entry, listed, concerns⟩
    obtain ⟨feature, stillListed, grown⟩ := grows entry listed
    exact ⟨_, stillListed, grown.named property concerns⟩

/-- A database with one feature, of the lower tier. -/
def gapDatabase : Database :=
  ⟨Catalog.ofList [("gap", ⟨some "Gap", some ⟨.low, none⟩, some ["css.properties.gap"]⟩)]⟩

/-- The same feature with a better tier and behind another one. -/
def widerGapDatabase : Database :=
  ⟨Catalog.ofList [("zoom", ⟨none, none, some ["css.properties.zoom", "css.properties.gap"]⟩),
    ("gap", ⟨none, some ⟨.high, none⟩, some ["css.selectors.has", "css.properties.gap.flex"]⟩)]⟩

theorem verdict_grows_gap :
    gapDatabase.Grows widerGapDatabase ∧
      Support.low ≤ ((Index.ofDatabase widerGapDatabase).verdict "gap").support ∧
      ((Index.ofDatabase widerGapDatabase).find? "gap").isSome := by
  have grows : gapDatabase.Grows widerGapDatabase := by
    intro entry listed
    obtain rfl := List.mem_singleton.mp listed
    refine ⟨_, List.mem_cons_of_mem _ (List.mem_singleton_self _), by decide, ?_⟩
    rintro property ⟨path, isPath, names⟩
    obtain rfl := List.mem_singleton.mp isPath
    rw [← propertyNamed?_eq_some_iff] at names
    obtain rfl : "gap" = property := Option.some.inj names
    decide
  have isLow : ((Index.ofDatabase gapDatabase).verdict "gap").support = .low := by decide
  have known : ((Index.ofDatabase gapDatabase).find? "gap").isSome := by decide
  obtain ⟨support, found⟩ := Index.verdict_grows grows "gap"
  exact ⟨grows, isLow ▸ support, found known⟩

/-! ### Another order -/

/-- The order of features decides in which order they are named, and nothing else. -/
theorem Verdict.ofRecords_perm {records others : List FeatureRecord} (same : records.Perm others) :
    (ofRecords records).support = (ofRecords others).support ∧
      (ofRecords records).contributing.Perm (ofRecords others).contributing := by
  by_cases nothing : records = []
  · subst nothing
    rw [List.nil_perm.mp same]
    exact ⟨rfl, .refl _⟩
  · obtain ⟨best, greatest⟩ := Tier.exists_greatest (·.tier) nothing
    have tiers : {tier | ∃ record ∈ records, record.tier = tier} =
        {tier | ∃ record ∈ others, record.tier = tier} := by
      simp only [same.mem_iff]
    rw [ofRecords_of_greatest greatest, ofRecords_of_greatest (tiers ▸ greatest)]
    exact ⟨rfl, same.filter _⟩

/-- Items that are all different stand in the order of their places. -/
theorem pairwise_idxOf_lt {α : Type} [BEq α] [LawfulBEq α] {items : List α}
    (distinct : items.Nodup) :
    items.Pairwise fun first second => items.idxOf first < items.idxOf second := by
  rw [List.pairwise_iff_getElem]
  intro i j _ _ before
  rwa [distinct.idxOf_getElem, distinct.idxOf_getElem]

/-- **The features that name a property stand in the order in which another database has them**: of
two of them the one that comes first does so there too. -/
def Database.NamedInOrderOf (first second : Database) (property : String) : Prop :=
  ∀ entry ∈ first.featuresNaming property, ∀ other ∈ first.featuresNaming property,
    first.features.entries.idxOf entry < first.features.entries.idxOf other →
      second.features.entries.idxOf entry < second.features.entries.idxOf other

instance (first second : Database) (property : String) :
    Decidable (first.NamedInOrderOf second property) :=
  inferInstanceAs (Decidable (∀ entry ∈ first.featuresNaming property,
    ∀ other ∈ first.featuresNaming property, _ < _ → _ < _))

/-- Then they are the same list. -/
theorem featuresNaming_eq {first second : Database} {property : String}
    (same : first.features.entries.Perm second.features.entries)
    (inOrder : first.NamedInOrderOf second property) :
    first.featuresNaming property = second.featuresNaming property := by
  have perm : (first.featuresNaming property).Perm (second.featuresNaming property) :=
    same.filter _
  have ascending (database : Database) : (database.featuresNaming property).Pairwise
      fun entry other => database.features.entries.idxOf entry <
        database.features.entries.idxOf other :=
    (pairwise_idxOf_lt database.features.distinct.of_map).sublist List.filter_sublist
  have reordered : (first.featuresNaming property).Pairwise
      fun entry other => second.features.entries.idxOf entry <
        second.features.entries.idxOf other :=
    (ascending first).imp_of_mem fun isEntry isOther => inOrder _ isEntry _ isOther
  exact perm.eq_of_pairwise (fun _ _ _ _ below above => absurd below (Nat.lt_asymm above))
    reordered (ascending second)

namespace Index

theorem names_ofDatabase_perm {first second : Database}
    (same : first.features.entries.Perm second.features.entries) :
    (names (ofDatabase first)).Perm (names (ofDatabase second)) := by
  refine (List.perm_ext_iff_of_nodup (ofDatabase first).properties.distinct
    (ofDatabase second).properties.distinct).mpr fun property => ?_
  rw [Catalog.mem_map_fst_iff, Catalog.mem_map_fst_iff]
  show (find? _ property).isSome ↔ (find? _ property).isSome
  simp only [isSome_find?_ofDatabase, same.mem_iff]

/-- **The order of the features** in the database. Whatever it is, the same properties are indexed,
each has the same support, and the same features contribute to it. It shows in the verdict on a
property, and in what is said of it, only if it is another one among the features that name the
property. -/
theorem ofDatabase_reordered {first second : Database}
    (same : first.features.entries.Perm second.features.entries) :
    let one := ofDatabase first
    let other := ofDatabase second
    (one.properties.entries.map (·.1)).Perm (other.properties.entries.map (·.1)) ∧
    one.size = other.size ∧
    ∀ property,
      (one.verdict property).support = (other.verdict property).support ∧
      (one.verdict property).contributing.Perm (other.verdict property).contributing ∧
      (first.NamedInOrderOf second property →
        one.verdict property = other.verdict property ∧
        (one.verdict property).message? property = (other.verdict property).message? property) := by
  intro one other
  have names : (one.properties.entries.map (·.1)).Perm (other.properties.entries.map (·.1)) :=
    names_ofDatabase_perm same
  refine ⟨names, ?_, fun property => ?_⟩
  · have lengths := names.length_eq
    rwa [List.length_map, List.length_map] at lengths
  · have verdicts := Verdict.ofRecords_perm (recordsBehind_perm same property)
    rw [← verdict_ofDatabase, ← verdict_ofDatabase] at verdicts
    refine ⟨verdicts.1, verdicts.2, fun inOrder => ?_⟩
    have equal : one.verdict property = other.verdict property := by
      show (ofDatabase first).verdict property = (ofDatabase second).verdict property
      rw [verdict_eq_ofRecords, verdict_eq_ofRecords, featuresNaming_eq same inOrder]
    exact ⟨equal, congrArg (·.message? property) equal⟩

end Index

/-- A feature of the lower tier with the given paths. -/
def lowFeature (paths : List String) : Feature :=
  ⟨none, some ⟨.low, none⟩, some paths⟩

/-- A database with two properties, each of which is named by two features. -/
def chainDatabase : Database :=
  ⟨Catalog.ofList [("a", lowFeature ["css.properties.gap"]),
    ("b", lowFeature ["css.properties.gap", "css.properties.zoom"]),
    ("c", lowFeature ["css.properties.zoom"])]⟩

/-- The same features in another order, in which those of one property change places. -/
def swappedChainDatabase : Database :=
  ⟨Catalog.ofList [("b", lowFeature ["css.properties.gap", "css.properties.zoom"]),
    ("a", lowFeature ["css.properties.gap"]), ("c", lowFeature ["css.properties.zoom"])]⟩

theorem ofDatabase_reordered_chain :
    chainDatabase.features.entries.Perm swappedChainDatabase.features.entries ∧
      ((Index.ofDatabase chainDatabase).verdict "gap").contributing.Perm
        ((Index.ofDatabase swappedChainDatabase).verdict "gap").contributing ∧
      (Index.ofDatabase chainDatabase).verdict "gap" ≠
        (Index.ofDatabase swappedChainDatabase).verdict "gap" ∧
      (Index.ofDatabase chainDatabase).verdict "zoom" =
        (Index.ofDatabase swappedChainDatabase).verdict "zoom" := by
  have same : chainDatabase.features.entries.Perm swappedChainDatabase.features.entries :=
    .swap _ _ _
  obtain ⟨_, _, each⟩ := Index.ofDatabase_reordered same
  exact ⟨same, (each "gap").2.1, by decide, ((each "zoom").2.2 (by decide)).1⟩

/-! ### Equal indexes -/

/-- **Lists of paths that differ in the writing only**: paths are put in another order, repeated, or
replaced by others that name the same properties, by none where they name none; and so on, in any
number of steps. -/
inductive Rearranged : List String → List String → Prop
  | reordered {old new : List String} (same : old.Perm new) : Rearranged old new
  | repeated {path : String} {paths : List String} (listed : path ∈ paths) :
      Rearranged paths (path :: paths)
  | replaced (front back : List String) {old new : List String}
      (alike : ∀ property, (∃ path ∈ old, Names path property) ↔
        ∃ path ∈ new, Names path property) :
      Rearranged (front ++ old ++ back) (front ++ new ++ back)
  | followed {old between new : List String} (first : Rearranged old between)
      (second : Rearranged between new) : Rearranged old new

/-- They name the same properties. -/
theorem Rearranged.names_iff {old new : List String} (rearranged : Rearranged old new)
    (property : String) :
    (∃ path ∈ old, Names path property) ↔ ∃ path ∈ new, Names path property := by
  induction rearranged with
  | reordered same => simp only [same.mem_iff]
  | @repeated path paths listed =>
      refine ⟨fun ⟨other, isListed, names⟩ => ⟨other, List.mem_cons_of_mem _ isListed, names⟩, ?_⟩
      rintro ⟨other, isListed, names⟩
      rcases List.mem_cons.mp isListed with rfl | isListed
      · exact ⟨other, listed, names⟩
      · exact ⟨other, isListed, names⟩
  | replaced front back alike =>
      simp only [List.mem_append, or_and_right, exists_or, alike]
  | followed _ _ first second => exact first.trans second

/-- Features under one key that differ in the writing of their paths only. -/
structure SameButPaths (entry other : String × Feature) : Prop where
  key : entry.1 = other.1
  name : entry.2.name = other.2.name
  status : entry.2.status = other.2.status
  paths : Rearranged entry.2.paths other.2.paths

theorem SameButPaths.concerns_iff {entry other : String × Feature} (same : SameButPaths entry other)
    (property : String) : Concerns entry.2 property ↔ Concerns other.2 property :=
  same.paths.names_iff property

/-- A record does not tell of paths. -/
theorem SameButPaths.ofFeature_eq {entry other : String × Feature}
    (same : SameButPaths entry other) :
    FeatureRecord.ofFeature entry.1 entry.2 = FeatureRecord.ofFeature other.1 other.2 := by
  simp only [FeatureRecord.ofFeature, Feature.tier, same.key, same.name, same.status]

theorem recordsBehind_of_sameButPaths {entries others : List (String × Feature)}
    (same : List.Forall₂ SameButPaths entries others) (property : String) :
    recordsBehind entries property = recordsBehind others property := by
  induction same with
  | nil => rfl
  | @cons entry other entries others here _ ih =>
      rw [recordsBehind_cons, recordsBehind_cons, ih, here.ofFeature_eq]
      simp only [here.concerns_iff property]

namespace Index

/-- Indexes are the same if they answer alike. -/
theorem same_iff {one other : Index} :
    one.same other = true ↔ ∀ property, one.find? property = other.find? property :=
  Catalog.sameEntries_iff

/-- **The same index.** The indexes of two databases are the same if and only if they have the same
answer for every property; in which order they have the properties does not count. How the features
of a database write down their paths does not count either. -/
theorem same_ofDatabase (first second : Database) :
    ((ofDatabase first).same (ofDatabase second) = true ↔
      ∀ property, (ofDatabase first).find? property = (ofDatabase second).find? property) ∧
    (List.Forall₂ SameButPaths first.features.entries second.features.entries →
      (ofDatabase first).same (ofDatabase second) = true) := by
  refine ⟨same_iff, fun same => same_iff.mpr fun property => ?_⟩
  rw [find?_ofDatabase, find?_ofDatabase, recordsBehind_of_sameButPaths same property]

end Index

theorem exists_names_iff {paths : List String} {property : String} :
    (∃ path ∈ paths, Names path property) ↔ property ∈ paths.filterMap propertyNamed? := by
  simp only [List.mem_filterMap, propertyNamed?_eq_some_iff]

/-- A feature with paths at two properties. -/
def gridDatabase : Database :=
  ⟨Catalog.ofList
    [("grid", ⟨some "Grid", none, some ["css.properties.gap", "css.properties.zoom.x"]⟩)]⟩

/-- The same feature with its paths in another order, one of them twice, one of them written in
another way, and one that names no property. -/
def rewrittenGridDatabase : Database :=
  ⟨Catalog.ofList [("grid", ⟨some "Grid", none, some
    ["css.properties.zoom", "css.properties.zoom", "css.selectors.has", "css.properties.gap"]⟩)]⟩

theorem same_ofDatabase_grid :
    List.Forall₂ SameButPaths gridDatabase.features.entries rewrittenGridDatabase.features.entries ∧
      Index.ofDatabase gridDatabase ≠ Index.ofDatabase rewrittenGridDatabase ∧
      (Index.ofDatabase gridDatabase).same (Index.ofDatabase rewrittenGridDatabase) = true := by
  have alike (property : String) :
      (∃ path ∈ ["css.properties.zoom.x"], Names path property) ↔
        ∃ path ∈ ["css.properties.zoom", "css.selectors.has"], Names path property := by
    rw [exists_names_iff, exists_names_iff]
    rfl
  have paths : Rearranged ["css.properties.gap", "css.properties.zoom.x"]
      ["css.properties.zoom", "css.properties.zoom", "css.selectors.has", "css.properties.gap"] :=
    .followed (.reordered (.swap _ _ []))
      (.followed (.replaced [] ["css.properties.gap"] alike) (.repeated List.mem_cons_self))
  have same : List.Forall₂ SameButPaths gridDatabase.features.entries
      rewrittenGridDatabase.features.entries :=
    .cons ⟨rfl, rfl, rfl, paths⟩ .nil
  exact ⟨same, by decide, (Index.same_ofDatabase _ _).2 same⟩

end StyleBaseline
