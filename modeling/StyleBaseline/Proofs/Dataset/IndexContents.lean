/-
**What an index holds.** An index is built path by path. What it comes to hold can be read off the
database: behind each property the features that name it, each once and in the order of the
database, and the properties in the order in which paths first name them.

* `propertyNamed?_eq_some_iff` — the paths that name a property.
* `Index.find?_addFeature` — the step: a feature is added to what it names and nowhere else.
* `Index.find?_ofDatabase` — the features behind a property, by induction from the step.
* `Index.names_ofDatabase` — the order of the properties, in the same way.
* `Index.size_ofDatabase` — their number.
-/

import Mathlib.Data.List.Induction
import Mathlib.Data.List.TakeWhile
import StyleBaseline.Dataset.Index
import StyleBaseline.Proofs.Catalog

namespace StyleBaseline

/-! ### The paths that name a property -/

/-- A path lies at a property if it is that of the property itself or of something below it. -/
def LiesAt (path property : String) : Prop :=
  path = "css.properties." ++ property ∨ ∃ rest, path = "css.properties." ++ property ++ "." ++ rest

/-- A path names a property if it lies at it, and the name of the property is not empty and has no
dot. -/
def Names (path property : String) : Prop :=
  property ≠ "" ∧ '.' ∉ property.toList ∧ LiesAt path property

theorem exists_append_iff {text start : String} :
    (∃ rest, text = start ++ rest) ↔ start.toList <+: text.toList := by
  constructor
  · rintro ⟨rest, rfl⟩
    rw [String.toList_append]
    exact List.prefix_append _ _
  · rintro ⟨rest, split⟩
    refine ⟨String.ofList rest, String.toList_inj.mp ?_⟩
    rw [String.toList_append, String.toList_ofList, split]

instance (path property : String) : Decidable (LiesAt path property) :=
  decidable_of_iff
    (path = "css.properties." ++ property ∨
      ("css.properties." ++ property ++ ".").toList <+: path.toList)
    (or_congr_right exists_append_iff.symm)

theorem behind?_eq_some_iff {start cs rest : List Char} :
    behind? start cs = some rest ↔ cs = start ++ rest := by
  induction start generalizing cs with
  | nil => simp [behind?]
  | cons b start ih =>
      cases cs with
      | nil => simp [behind?]
      | cons c cs =>
          rw [behind?, List.cons_append, List.cons.injEq]
          by_cases same : b = c
          · rw [if_pos same, ih]
            exact (and_iff_right same.symm).symm
          · rw [if_neg same]
            exact iff_of_false (by simp) fun split => same split.1.symm

/-- The part before the first dot: it has no dot, and with it the text ends or a dot follows. -/
theorem takeWhile_ne_dot_eq_iff {cs name : List Char} :
    cs.takeWhile (· ≠ '.') = name ↔
      '.' ∉ name ∧ (cs = name ∨ ∃ rest, cs = name ++ '.' :: rest) := by
  constructor
  · rintro rfl
    have split := List.takeWhile_append_dropWhile (p := (· ≠ '.')) (l := cs)
    refine ⟨fun member => ?_, ?_⟩
    · simpa using List.mem_takeWhile_imp member
    · cases behind : cs.dropWhile (· ≠ '.') with
      | nil =>
          rw [behind, List.append_nil] at split
          exact Or.inl split.symm
      | cons c rest =>
          have stops := List.head?_dropWhile_not (· ≠ '.') cs
          rw [behind] at stops split
          obtain rfl : c = '.' := by simpa using stops
          exact Or.inr ⟨rest, split.symm⟩
  · rintro ⟨dotless, whole⟩
    have kept : ∀ c ∈ name, decide (c ≠ '.') = true := by
      intro c member
      exact decide_eq_true fun isDot => dotless (isDot ▸ member)
    rcases whole with rfl | ⟨rest, rfl⟩
    · exact List.takeWhile_eq_self_iff.mpr kept
    · rw [List.takeWhile_append_of_pos kept]
      simp

theorem propertyNamed?_eq_some_iff_takeWhile {path property : String} :
    propertyNamed? path = some property ↔
      property ≠ "" ∧ ∃ rest, path.toList = propertyPathStart.toList ++ rest ∧
        rest.takeWhile (· ≠ '.') = property.toList := by
  unfold propertyNamed?
  simp only [Option.bind_eq_bind, Option.bind_eq_some_iff, behind?_eq_some_iff]
  constructor
  · rintro ⟨rest, split, named⟩
    by_cases isEmpty : (rest.takeWhile (· ≠ '.')).isEmpty
    · rw [if_pos isEmpty] at named
      exact nomatch named
    · rw [if_neg isEmpty, Option.some.injEq] at named
      subst named
      refine ⟨fun nothing => isEmpty ?_, rest, split, (String.toList_ofList ..).symm⟩
      rw [← String.toList_ofList (l := rest.takeWhile _), nothing]
      rfl
  · rintro ⟨nonempty, rest, split, named⟩
    refine ⟨rest, split, ?_⟩
    rw [named, if_neg, String.ofList_toList]
    rwa [List.isEmpty_iff, String.toList_eq_nil_iff]

/-- **The property that a path names**, if it names one. -/
theorem propertyNamed?_eq_some_iff {path property : String} :
    propertyNamed? path = some property ↔ Names path property := by
  have itself : path = "css.properties." ++ property ↔
      path.toList = propertyPathStart.toList ++ property.toList := by
    rw [← String.toList_inj, String.toList_append, propertyPathStart]
  have below (rest : String) : path = "css.properties." ++ property ++ "." ++ rest ↔
      path.toList = propertyPathStart.toList ++ (property.toList ++ '.' :: rest.toList) := by
    rw [← String.toList_inj, propertyPathStart]
    simp only [String.toList_append, List.append_assoc]
    rfl
  rw [propertyNamed?_eq_some_iff_takeWhile, Names, LiesAt, itself]
  simp only [takeWhile_ne_dot_eq_iff, below]
  refine and_congr_right fun _ => ?_
  constructor
  · rintro ⟨rest, split, dotless, rfl | ⟨more, rfl⟩⟩
    · exact ⟨dotless, Or.inl split⟩
    · exact ⟨dotless, Or.inr ⟨String.ofList more, by rw [String.toList_ofList, split]⟩⟩
  · rintro ⟨dotless, split | ⟨rest, split⟩⟩
    · exact ⟨_, split, dotless, Or.inl rfl⟩
    · exact ⟨_, split, dotless, Or.inr ⟨rest.toList, rfl⟩⟩

instance (path property : String) : Decidable (Names path property) :=
  decidable_of_iff _ propertyNamed?_eq_some_iff

example : propertyNamed? "css.properties.gap.flex_context" = some "gap" := by decide

/-! ### The features behind a property -/

/-- A feature concerns a property if one of its paths names it. -/
def Concerns (feature : Feature) (property : String) : Prop :=
  ∃ path ∈ feature.paths, Names path property

instance (feature : Feature) (property : String) : Decidable (Concerns feature property) :=
  inferInstanceAs (Decidable (∃ path ∈ feature.paths, Names path property))

/-- The records of the features that concern a property, in the order of the entries. -/
def recordsBehind (entries : List (String × Feature)) (property : String) : List FeatureRecord :=
  (entries.filter fun entry => Concerns entry.2 property).map fun entry =>
    .ofFeature entry.1 entry.2

theorem recordsBehind_cons (entry : String × Feature) (entries : List (String × Feature))
    (property : String) :
    recordsBehind (entry :: entries) property =
      (if Concerns entry.2 property then [.ofFeature entry.1 entry.2] else []) ++
        recordsBehind entries property := by
  rw [recordsBehind, List.filter_cons]
  simp only [decide_eq_true_eq]
  split <;> rfl

theorem recordsBehind_concat (entries : List (String × Feature)) (entry : String × Feature)
    (property : String) :
    recordsBehind (entries ++ [entry]) property =
      recordsBehind entries property ++
        if Concerns entry.2 property then [.ofFeature entry.1 entry.2] else [] := by
  rw [recordsBehind, List.filter_append, List.map_append, List.filter_cons, List.filter_nil]
  simp only [decide_eq_true_eq]
  split <;> rfl

theorem recordsBehind_eq_nil_iff {entries : List (String × Feature)} {property : String} :
    recordsBehind entries property = [] ↔ ∀ entry ∈ entries, ¬ Concerns entry.2 property := by
  rw [recordsBehind, List.map_eq_nil_iff, List.filter_eq_nil_iff]
  simp only [decide_eq_true_eq]

theorem mem_recordsBehind {entries : List (String × Feature)} {property : String}
    {record : FeatureRecord} :
    record ∈ recordsBehind entries property ↔
      ∃ entry ∈ entries, Concerns entry.2 property ∧ .ofFeature entry.1 entry.2 = record := by
  simp only [recordsBehind, List.mem_map, List.mem_filter, decide_eq_true_eq, and_assoc]

theorem recordsBehind_perm {entries others : List (String × Feature)} (same : entries.Perm others)
    (property : String) : (recordsBehind entries property).Perm (recordsBehind others property) :=
  (same.filter _).map _

/-- The keys behind a property are keys of the entries, in their order. -/
theorem map_key_recordsBehind_sublist (entries : List (String × Feature)) (property : String) :
    ((recordsBehind entries property).map (·.key)).Sublist (entries.map (·.1)) := by
  rw [recordsBehind, List.map_map]
  exact List.Sublist.map Prod.fst List.filter_sublist

namespace Index

/-! ### One feature more -/

theorem addRecord_addRecord (record : FeatureRecord) (records : Option (List FeatureRecord)) :
    addRecord record (some (addRecord record records)) = addRecord record records := by
  have known : (addRecord record records).any (·.key == record.key) = true := by
    cases records with
    | none => simp [addRecord]
    | some records =>
        rw [addRecord]
        split
        · assumption
        · simp
  rw [addRecord, if_pos known]

/-- A record with a new key comes last. -/
theorem addRecord_of_new {record : FeatureRecord} {records : List FeatureRecord}
    (isNew : record.key ∉ records.map (·.key)) :
    addRecord record (if records = [] then none else some records) = records ++ [record] := by
  by_cases nothing : records = []
  · rw [if_pos nothing, nothing]
    rfl
  · have unknown : ¬ records.any (·.key == record.key) := by
      rw [List.any_eq_true]
      rintro ⟨known, member, same⟩
      exact isNew (List.mem_map.mpr ⟨known, member, beq_iff_eq.mp same⟩)
    rw [if_neg nothing, addRecord, if_neg unknown]

/-- A path adds the record to the property that it names and to no other. -/
theorem find?_addCapability (record : FeatureRecord) (index : Index) (path property : String) :
    (addCapability record index path).find? property =
      if Names path property then some (addRecord record (index.find? property))
      else index.find? property := by
  rw [addCapability]
  cases named : propertyNamed? path with
  | none =>
      have other : ¬ Names path property := by
        rw [← propertyNamed?_eq_some_iff, named]
        exact Option.some_ne_none property ∘ Eq.symm
      rw [if_neg other]
  | some name =>
      have same : Names path property ↔ property = name := by
        rw [← propertyNamed?_eq_some_iff, named, Option.some.injEq, eq_comm]
      simp only [find?, Catalog.find?_alter, same]
      split
      · rename_i isName
        rw [isName]
      · rfl

/-- However many paths name the property and wherever they stand, the record is added once. -/
theorem find?_foldl_addCapability (record : FeatureRecord) (paths : List String) (index : Index)
    (property : String) :
    (paths.foldl (addCapability record) index).find? property =
      if ∃ path ∈ paths, Names path property then some (addRecord record (index.find? property))
      else index.find? property := by
  induction paths generalizing index with
  | nil => simp
  | cons path paths ih =>
      rw [List.foldl_cons, ih, find?_addCapability]
      simp only [List.mem_cons, exists_eq_or_imp]
      by_cases here : Names path property
      · rw [if_pos here, if_pos (Or.inl here), addRecord_addRecord, ite_self]
      · rw [if_neg here]
        simp only [here, false_or]

/-- **The step.** A feature is added to the properties that it concerns and to no other. -/
theorem find?_addFeature (index : Index) (entry : String × Feature) (property : String) :
    (addFeature index entry).find? property =
      if Concerns entry.2 property then
        some (addRecord (.ofFeature entry.1 entry.2) (index.find? property))
      else index.find? property :=
  find?_foldl_addCapability _ _ index property

/-! ### The whole index -/

theorem find?_foldl_addFeature (entries : List (String × Feature))
    (distinct : (entries.map (·.1)).Nodup) (property : String) :
    (entries.foldl addFeature empty).find? property =
      if recordsBehind entries property = [] then none
      else some (recordsBehind entries property) := by
  induction entries using List.reverseRecOn with
  | nil => rfl
  | append_singleton entries entry ih =>
      rw [List.map_append, List.map_singleton, List.nodup_append] at distinct
      have isNew : entry.1 ∉ (recordsBehind entries property).map (·.key) := fun member =>
        distinct.2.2 entry.1 ((map_key_recordsBehind_sublist entries property).subset member)
          entry.1 (List.mem_singleton_self _) rfl
      rw [List.foldl_append, List.foldl_cons, List.foldl_nil, find?_addFeature, ih distinct.1,
        recordsBehind_concat]
      by_cases concerns : Concerns entry.2 property
      · rw [if_pos concerns, if_pos concerns, addRecord_of_new isNew, if_neg]
        exact List.append_ne_nil_of_right_ne_nil _ (List.cons_ne_nil _ _)
      · rw [if_neg concerns, if_neg concerns, List.append_nil]

/-- **The features behind a property** in the index of a database are those that concern it, in the
order of the database. -/
theorem find?_ofDatabase (database : Database) (property : String) :
    (ofDatabase database).find? property =
      if recordsBehind database.features.entries property = [] then none
      else some (recordsBehind database.features.entries property) :=
  find?_foldl_addFeature database.features.entries database.features.distinct property

theorem isSome_find?_ofDatabase (database : Database) (property : String) :
    ((ofDatabase database).find? property).isSome ↔
      ∃ entry ∈ database.features.entries, Concerns entry.2 property := by
  rw [find?_ofDatabase]
  split
  · rename_i nothing
    rw [recordsBehind_eq_nil_iff] at nothing
    refine iff_of_false (by decide) ?_
    rintro ⟨entry, member, concerns⟩
    exact nothing entry member concerns
  · rename_i something
    rw [recordsBehind_eq_nil_iff] at something
    push Not at something
    exact iff_of_true rfl something

/-! ### The order of the properties -/

/-- The properties of an index, in their order. -/
def names (index : Index) : List String :=
  index.properties.entries.map (·.1)

theorem names_addCapability {record : FeatureRecord} {index : Index} {met : List String}
    (known : names index = met.eraseDups) (path : String) :
    names (addCapability record index path) =
      (met ++ (propertyNamed? path).toList).eraseDups := by
  rw [addCapability]
  cases propertyNamed? path with
  | none =>
      rw [Option.toList_none, List.append_nil]
      exact known
  | some name =>
      rw [Option.toList_some, eraseDups_concat, ← known]
      exact Catalog.map_fst_alter index.properties name (addRecord record)

theorem names_foldl_addCapability {record : FeatureRecord} {index : Index} {met : List String}
    (known : names index = met.eraseDups) (paths : List String) :
    names (paths.foldl (addCapability record) index) =
      (met ++ paths.filterMap propertyNamed?).eraseDups := by
  induction paths generalizing index met with
  | nil =>
      rw [List.foldl_nil, List.filterMap_nil, List.append_nil, known]
  | cons path paths ih =>
      rw [List.foldl_cons, ih (names_addCapability known path), List.append_assoc]
      congr 2
      rw [List.filterMap_cons]
      cases propertyNamed? path <;> rfl

/-- A feature adds the properties that its paths name and that are not there, in the order of its
paths. -/
theorem names_addFeature {index : Index} {met : List String} (known : names index = met.eraseDups)
    (entry : String × Feature) :
    names (addFeature index entry) = (met ++ entry.2.paths.filterMap propertyNamed?).eraseDups :=
  names_foldl_addCapability known entry.2.paths

/-- **The properties of an index** stand in the order in which paths first name them. -/
theorem names_ofDatabase (database : Database) :
    names (ofDatabase database) =
      ((database.features.entries.flatMap (·.2.paths)).filterMap propertyNamed?).eraseDups := by
  have onward : ∀ (entries : List (String × Feature)) (index : Index) (met : List String),
      names index = met.eraseDups → names (entries.foldl addFeature index) =
        (met ++ (entries.flatMap (·.2.paths)).filterMap propertyNamed?).eraseDups := by
    intro entries
    induction entries with
    | nil =>
        intro index met known
        rw [List.foldl_nil, List.flatMap_nil, List.filterMap_nil, List.append_nil, known]
    | cons entry entries ih =>
        intro index met known
        rw [List.foldl_cons, ih _ _ (names_addFeature known entry), List.flatMap_cons,
          List.filterMap_append, List.append_assoc]
  exact onward database.features.entries empty [] rfl

/-! ### The whole contents -/

/-- **The size of an index** is the number of properties that are named. -/
theorem size_ofDatabase (database : Database) :
    (ofDatabase database).size = Set.ncard
      {property | ∃ entry ∈ database.features.entries, Concerns entry.2 property} := by
  rw [size, Catalog.size_eq_ncard]
  congr 1
  ext property
  exact isSome_find?_ofDatabase database property

/-- **What the index of a database holds**: the properties that paths name, in the order in which
they are first named, and behind each of them one record for every feature that names it, in the
order of the database. -/
theorem contents_ofDatabase (database : Database) :
    let entries := database.features.entries
    let index := ofDatabase database
    (∀ property, (index.find? property).isSome ↔
      ∃ entry ∈ entries, ∃ path ∈ entry.2.paths, Names path property) ∧
    (∀ property records, index.find? property = some records →
      records =
        (entries.filter fun entry => ∃ path ∈ entry.2.paths, Names path property).map fun entry =>
          ⟨entry.1, entry.2.name.getD entry.1, entry.2.tier, entry.2.status.bind (·.lowSince)⟩) ∧
    (∀ listed ∈ index.properties.entries,
      index.find? listed.1 = some listed.2 ∧ listed.2 ≠ [] ∧ (listed.2.map (·.key)).Nodup) ∧
    index.size = Set.ncard
      {property | ∃ entry ∈ entries, ∃ path ∈ entry.2.paths, Names path property} ∧
    (∀ path property, propertyNamed? path = some property ↔ Names path property) ∧
    index.properties.entries.map (·.1) =
      ((entries.flatMap (·.2.paths)).filterMap propertyNamed?).eraseDups := by
  intro entries index
  have behind {property : String} {records : List FeatureRecord}
      (found : index.find? property = some records) :
      records ≠ [] ∧ records = recordsBehind entries property := by
    rw [find?_ofDatabase, Option.ite_none_left_eq_some, Option.some.injEq] at found
    obtain ⟨nonempty, rfl⟩ := found
    exact ⟨nonempty, rfl⟩
  refine ⟨isSome_find?_ofDatabase database, fun property records found => (behind found).2, ?_,
    size_ofDatabase database, fun path property => propertyNamed?_eq_some_iff,
    names_ofDatabase database⟩
  intro listed member
  have found : index.find? listed.1 = some listed.2 := index.properties.mem_entries_iff.mp member
  obtain ⟨nonempty, same⟩ := behind found
  refine ⟨found, nonempty, ?_⟩
  rw [same]
  exact database.features.distinct.sublist (map_key_recordsBehind_sublist entries listed.1)

end Index

end StyleBaseline
