/-
**Tables from lists.** Entries that are put in their places one after another: what is then found
under a name, and that entries which are in order already stay as they are.

* `Table.lookup_placed` — under each name stands what came last.
* `Table.placed_of_ascending` — entries in order.
* `Table.ofList_entries` — a table is the one of its entries.
* `Table.insert_insert` — a later value takes the place of an earlier one.
* `Table.eq_of_find?` — a table is what is found in it.
* `Table.find?_merge`, `Table.merge_assoc` — what is found in a merged table, and the laws of
  merging.
-/

import Mathlib.Data.List.Sort
import StyleBaseline.Proofs.Catalog
import StyleBaseline.Table

namespace StyleBaseline.Table

variable {α : Type}

/-- Entries in the order of their names; of two with one name the later one counts. -/
def placed (entries : List (String × α)) : List (String × α) :=
  entries.foldl (fun known entry => insertAmong entry.1 entry.2 known) []

@[simp]
theorem placed_concat (entries : List (String × α)) (entry : String × α) :
    placed (entries ++ [entry]) = insertAmong entry.1 entry.2 (placed entries) :=
  List.foldl_concat ..

@[simp, grind =]
theorem lookup_insertAmong (name other : String) (value : α) (entries : List (String × α)) :
    (insertAmong name value entries).lookup other =
      if other = name then some value else entries.lookup other := by
  induction entries with
  | nil => exact lookup_cons_eq_ite other name value []
  | cons first rest ih =>
      obtain ⟨key, old⟩ := first
      rw [insertAmong]
      grind

/-- **What is found under a name** is what came last. -/
@[simp, grind =]
theorem lookup_placed (entries : List (String × α)) (name : String) :
    (placed entries).lookup name = entries.reverse.lookup name := by
  induction entries using List.reverseRecOn with
  | nil => rfl
  | append_singleton entries entry ih =>
      rw [placed_concat, List.reverse_concat, lookup_insertAmong, lookup_cons_eq_ite, ih]

/-- A name behind all others comes last. -/
theorem insertAmong_of_behind {name : String} (value : α) {entries : List (String × α)}
    (behind : ∀ entry ∈ entries, entry.1 < name) :
    insertAmong name value entries = entries ++ [(name, value)] := by
  induction entries with
  | nil => rfl
  | cons first rest ih =>
      obtain ⟨before, others⟩ := List.forall_mem_cons.mp behind
      rw [insertAmong, if_neg (String.lt_asymm before), if_neg (Std.ne_of_lt before).symm,
        ih others, List.cons_append]

/-- **Entries in order** stay as they are. -/
theorem placed_of_ascending {entries : List (String × α)}
    (ascending : entries.Pairwise fun first second => first.1 < second.1) :
    placed entries = entries := by
  induction entries using List.reverseRecOn with
  | nil => rfl
  | append_singleton entries entry ih =>
      obtain ⟨earlier, _, behind⟩ := List.pairwise_append.mp ascending
      rw [placed_concat, ih earlier]
      exact insertAmong_of_behind entry.2 fun other member =>
        behind other member entry (List.mem_singleton_self entry)

@[simp]
theorem entries_ofList (entries : List (String × α)) : (ofList entries).entries = placed entries := by
  induction entries using List.reverseRecOn with
  | nil => rfl
  | append_singleton entries entry ih =>
      rw [ofList, List.foldl_concat, placed_concat, ← ih]
      rfl

/-- **A table is the one of its entries.** -/
@[simp]
theorem ofList_entries (table : Table α) : ofList table.entries = table := by
  obtain ⟨entries, ascending⟩ := table
  have same : (ofList entries).entries = entries := by
    simp [placed_of_ascending ascending]
  revert same
  generalize ofList entries = other
  rintro rfl
  rfl

/-! ### One name -/

theorem eq_of_entries {table other : Table α} (same : table.entries = other.entries) :
    table = other := by
  cases table
  cases other
  cases same
  rfl

@[simp]
theorem insertAmong_insertAmong (name : String) (value later : α) (entries : List (String × α)) :
    insertAmong name later (insertAmong name value entries) = insertAmong name later entries := by
  induction entries with
  | nil => simp [insertAmong]
  | cons first rest ih => grind [insertAmong]

/-- **A later value takes the place of an earlier one.** -/
@[simp, grind =]
theorem insert_insert (table : Table α) (name : String) (value later : α) :
    (table.insert name value).insert name later = table.insert name later :=
  eq_of_entries (insertAmong_insertAmong name value later table.entries)

/-! ### A table by what is found in it -/

theorem distinct (table : Table α) : (table.entries.map (·.1)).Nodup :=
  List.pairwise_map.mpr (table.ascending.imp fun before => Std.ne_of_lt before)

/-- An entry is listed if it is found. -/
theorem mem_entries_iff (table : Table α) {name : String} {value : α} :
    (name, value) ∈ table.entries ↔ table.find? name = some value :=
  mem_iff_lookup_eq_some table.distinct

/-- Entries in the order of their names are those of a table if they are found in it. -/
theorem eq_entries_of_ascending (table : Table α) {entries : List (String × α)}
    (ascending : entries.Pairwise fun first second => first.1 < second.1)
    (found : ∀ name value, (name, value) ∈ entries ↔ table.find? name = some value) :
    entries = table.entries := by
  let before : String × α → String × α → Prop := fun first second => first.1 < second.1
  have antisymm : Std.Antisymm before := ⟨fun _ _ below above =>
    absurd above (String.lt_asymm below)⟩
  have irrefl : Std.Irrefl before := ⟨fun _ => String.lt_irrefl _⟩
  refine List.Pairwise.eq_of_mem_iff (r := before) ascending table.ascending fun entry => ?_
  rw [found, table.mem_entries_iff]

/-- **A table is what is found in it.** -/
theorem eq_of_find? {table other : Table α} (alike : ∀ name, table.find? name = other.find? name) :
    table = other := by
  refine eq_of_entries (eq_entries_of_ascending other table.ascending fun name value => ?_)
  rw [table.mem_entries_iff, alike]

/-! ### Merging -/

@[simp, grind =]
theorem find?_insert (table : Table α) (name other : String) (value : α) :
    (table.insert name value).find? other =
      if other = name then some value else table.find? other :=
  lookup_insertAmong name other value table.entries

@[simp, grind =]
theorem find?_ofList (entries : List (String × α)) (name : String) :
    (ofList entries).find? name = entries.reverse.lookup name := by
  simp [find?]

/-- **What is found in a merged table** is what is found in the second one, and else what is found
in the first one. -/
@[simp, grind =]
theorem find?_merge (table other : Table α) (name : String) :
    (table.merge other).find? name = (other.find? name).or (table.find? name) := by
  have onward (entries : List (String × α)) :
      (entries.foldl (fun known entry => known.insert entry.1 entry.2) table).find? name =
        (entries.reverse.lookup name).or (table.find? name) := by
    induction entries using List.reverseRecOn with
    | nil => rfl
    | append_singleton entries entry ih =>
        rw [List.foldl_concat, find?_insert, ih, List.reverse_concat, lookup_cons_eq_ite]
        split <;> rfl
  rw [merge, onward, ← find?_ofList, ofList_entries]

theorem merge_assoc (first second third : Table α) :
    (first.merge second).merge third = first.merge (second.merge third) := by
  refine eq_of_find? fun name => ?_
  simp [Option.or_assoc]

@[simp]
theorem merge_empty (table : Table α) : table.merge empty = table :=
  rfl

@[simp]
theorem empty_merge (table : Table α) : empty.merge table = table :=
  ofList_entries table

/-- **To merge the tables of two lists** is to write the one list and then the other. -/
theorem ofList_append (entries more : List (String × α)) :
    ofList (entries ++ more) = (ofList entries).merge (ofList more) := by
  refine eq_of_find? fun name => ?_
  simp [List.lookup_append]

end StyleBaseline.Table
