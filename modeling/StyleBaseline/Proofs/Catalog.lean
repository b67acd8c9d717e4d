/-
**Catalogs, name by name.** What is found under a name after a change, and that what is listed is
what is found.

* `Catalog.find?_alter`, `Catalog.find?_insert` — a change is seen under its own name and nowhere
  else.
* `Catalog.map_fst_alter` — the names keep their order, and a new one comes last.
* `Catalog.mem_entries_iff` — an entry is listed if it is found.
* `Catalog.entries_ofList` — of a list of entries each name is kept where it comes first, with the
  value that comes last.
* `Catalog.size_eq_ncard` — the size is the number of names under which something is found.
* `Catalog.sameEntries_iff` — catalogs are equal but for their order if they answer alike.
-/

import Mathlib.Data.List.Induction
import Mathlib.Data.Set.Card
import StyleBaseline.Catalog

namespace StyleBaseline

variable {α : Type}

@[grind =]
theorem lookup_cons_eq_ite (name key : String) (value : α) (rest : List (String × α)) :
    ((key, value) :: rest).lookup name = if name = key then some value else rest.lookup name := by
  by_cases here : name = key
  · rw [if_pos here, here, List.lookup_cons_self]
  · rw [if_neg here, List.lookup_cons, beq_eq_false_iff_ne.mpr here]

@[simp, grind =]
theorem lookup_alterAmong (name other : String) (change : Option α → α)
    (entries : List (String × α)) :
    (alterAmong name change entries).lookup other =
      if other = name then some (change (entries.lookup name)) else entries.lookup other := by
  induction entries with
  | nil => exact lookup_cons_eq_ite other name (change none) []
  | cons first rest ih =>
      obtain ⟨key, value⟩ := first
      rw [alterAmong]
      grind

theorem eraseDups_concat (met : List String) (name : String) :
    (met ++ [name]).eraseDups =
      if name ∈ met.eraseDups then met.eraseDups else met.eraseDups ++ [name] := by
  rw [List.eraseDups_append, List.removeAll, List.filter_cons, List.filter_nil]
  by_cases known : name ∈ met
  · simp [known]
  · simp [known, List.eraseDups_cons]

/-- Where no name is listed twice, an entry is listed if it is found. -/
theorem mem_iff_lookup_eq_some {entries : List (String × α)}
    (distinct : (entries.map (·.1)).Nodup) {name : String} {value : α} :
    (name, value) ∈ entries ↔ entries.lookup name = some value := by
  rw [List.lookup_eq_some_iff]
  constructor
  · intro member
    obtain ⟨before, after, rfl⟩ := List.append_of_mem member
    refine ⟨before, after, rfl, ?_⟩
    rw [List.map_append, List.nodup_append] at distinct
    intro entry inBefore
    have apart := distinct.2.2 entry.1 (List.mem_map_of_mem inBefore) name
      (List.mem_map_of_mem (List.mem_cons_self ..))
    exact bne_iff_ne.mpr apart.symm
  · rintro ⟨before, after, rfl, -⟩
    exact List.mem_append_right before (List.mem_cons_self ..)

namespace Catalog

/-- A change is seen under its own name and nowhere else. -/
@[simp, grind =]
theorem find?_alter (catalog : Catalog α) (name other : String) (change : Option α → α) :
    (catalog.alter name change).find? other =
      if other = name then some (change (catalog.find? name)) else catalog.find? other :=
  lookup_alterAmong name other change catalog.entries

@[simp, grind =]
theorem find?_insert (catalog : Catalog α) (name other : String) (value : α) :
    (catalog.insert name value).find? other =
      if other = name then some value else catalog.find? other :=
  catalog.find?_alter name other fun _ => value

/-- The names keep their order, and a new one comes last. -/
theorem map_fst_alter (catalog : Catalog α) (name : String) (change : Option α → α) :
    (catalog.alter name change).entries.map (·.1) =
      if name ∈ catalog.entries.map (·.1) then catalog.entries.map (·.1)
      else catalog.entries.map (·.1) ++ [name] :=
  map_fst_alterAmong name change catalog.entries

/-- An entry is listed if it is found. -/
theorem mem_entries_iff (catalog : Catalog α) {name : String} {value : α} :
    (name, value) ∈ catalog.entries ↔ catalog.find? name = some value :=
  mem_iff_lookup_eq_some catalog.distinct

theorem mem_map_fst_iff (catalog : Catalog α) {name : String} :
    name ∈ catalog.entries.map (·.1) ↔ (catalog.find? name).isSome := by
  rw [find?, List.lookup_isSome_iff, List.mem_map]
  simp only [beq_iff_eq, eq_comm (a := name)]

/-- The size is the number of names under which something is found. -/
theorem size_eq_ncard (catalog : Catalog α) :
    catalog.size = Set.ncard {name | (catalog.find? name).isSome} := by
  have found : {name | (catalog.find? name).isSome} =
      ((catalog.entries.map (·.1)).toFinset : Set String) := by
    ext name
    rw [List.coe_toFinset]
    exact catalog.mem_map_fst_iff.symm
  rw [found, Set.ncard_coe_finset, List.toFinset_card_of_nodup catalog.distinct, List.length_map,
    size]

/-- What a partial map makes of a value is found where the value was. -/
@[simp, grind =]
theorem find?_filterMap {β : Type} (catalog : Catalog α) (pick : α → Option β) (name : String) :
    (catalog.filterMap pick).find? name = (catalog.find? name).bind pick := by
  ext value
  rw [← mem_entries_iff, filterMap, List.mem_filterMap, Option.bind_eq_some_iff]
  constructor
  · rintro ⟨⟨key, old⟩, member, made⟩
    obtain ⟨new, picked, same⟩ := Option.map_eq_some_iff.mp made
    obtain ⟨rfl, rfl⟩ := Prod.mk.inj same
    exact ⟨old, catalog.mem_entries_iff.mp member, picked⟩
  · rintro ⟨old, found, picked⟩
    exact ⟨(name, old), catalog.mem_entries_iff.mpr found, Option.map_eq_some_iff.mpr
      ⟨value, picked, rfl⟩⟩

/-! ### Equality but for the order -/

/-- If there are as many names on both sides, and all of the one side are known on the other, then
no others are. -/
theorem names_subset_of_size {a b : Catalog α} (sizes : a.size = b.size)
    (known : a.entries.map (·.1) ⊆ b.entries.map (·.1)) :
    b.entries.map (·.1) ⊆ a.entries.map (·.1) := by
  have counts : (b.entries.map (·.1)).length ≤ (a.entries.map (·.1)).length := by
    rw [List.length_map, List.length_map]
    exact sizes.symm.le
  exact ((a.distinct.subperm known).perm_of_length_le counts).symm.subset

section SameEntries

variable [BEq α] [LawfulBEq α] {a b : Catalog α}

theorem sameEntries_eq_true_iff : a.sameEntries b = true ↔
    a.size = b.size ∧ ∀ entry ∈ a.entries, b.find? entry.1 = some entry.2 := by
  rw [sameEntries, Bool.and_eq_true, beq_iff_eq, List.all_eq_true]
  refine and_congr_right fun _ => forall₂_congr fun entry _ => ?_
  cases b.find? entry.1 with
  | none => exact iff_of_false Bool.false_ne_true (Option.some_ne_none _).symm
  | some value => rw [beq_iff_eq, Option.some.injEq, eq_comm]

/-- **Catalogs are equal but for their order** if and only if they answer alike. -/
theorem sameEntries_iff : a.sameEntries b = true ↔ ∀ name, a.find? name = b.find? name := by
  rw [sameEntries_eq_true_iff]
  constructor
  · rintro ⟨sizes, each⟩ name
    cases found : a.find? name with
    | some value => exact (each (name, value) (a.mem_entries_iff.mpr found)).symm
    | none =>
        -- a name that only the second side has would make it the longer one
        have known : a.entries.map (·.1) ⊆ b.entries.map (·.1) := by
          intro other member
          obtain ⟨entry, listed, rfl⟩ := List.mem_map.mp member
          rw [b.mem_map_fst_iff, each entry listed]
          rfl
        have absent : name ∉ b.entries.map (·.1) := by
          intro member
          have isFound := a.mem_map_fst_iff.mp (names_subset_of_size sizes known member)
          rw [found] at isFound
          exact absurd isFound Bool.false_ne_true
        rw [b.mem_map_fst_iff, Option.not_isSome_iff_eq_none] at absent
        exact absent.symm
  · intro alike
    refine ⟨?_, fun entry listed => ?_⟩
    · simp only [size_eq_ncard, alike]
    · rw [← alike]
      exact a.mem_entries_iff.mp listed

end SameEntries

/-! ### The catalog of a list -/

@[simp, grind =]
theorem find?_ofList (entries : List (String × α)) (name : String) :
    (ofList entries).find? name = entries.reverse.lookup name := by
  induction entries using List.reverseRecOn with
  | nil => rfl
  | append_singleton entries entry ih =>
      rw [ofList, List.foldl_concat, List.reverse_concat]
      show ((ofList entries).insert entry.1 entry.2).find? name = _
      rw [find?_insert, lookup_cons_eq_ite, ih]

@[simp]
theorem map_fst_ofList (entries : List (String × α)) :
    (ofList entries).entries.map (·.1) = (entries.map (·.1)).eraseDups := by
  induction entries using List.reverseRecOn with
  | nil => rfl
  | append_singleton entries entry ih =>
      rw [ofList, List.foldl_concat, List.map_append, List.map_singleton, eraseDups_concat, ← ih]
      exact map_fst_alter (ofList entries) entry.1 fun _ => entry.2

theorem nodup_eraseDups (entries : List (String × α)) :
    (entries.map (·.1)).eraseDups.Nodup := by
  rw [← map_fst_ofList]
  exact (ofList entries).distinct

/-- A catalog lists what is found under its names. -/
theorem entries_eq_filterMap (catalog : Catalog α) :
    catalog.entries = (catalog.entries.map (·.1)).filterMap fun name =>
      (catalog.find? name).map (name, ·) := by
  have each : ∀ entry ∈ catalog.entries,
      (catalog.find? entry.1).map (entry.1, ·) = some entry := by
    intro entry member
    rw [catalog.mem_entries_iff.mp member]
    rfl
  rw [List.filterMap_map]
  exact ((List.filterMap_congr each).trans List.filterMap_some).symm

/-- **The catalog of a list**: each name where it comes first, with the value that comes last. -/
theorem entries_ofList (entries : List (String × α)) :
    (ofList entries).entries = (entries.map (·.1)).eraseDups.filterMap fun name =>
      (entries.reverse.lookup name).map (name, ·) := by
  rw [entries_eq_filterMap, map_fst_ofList]
  simp only [find?_ofList]

end Catalog

end StyleBaseline
