/-
**Tables: finite maps in the order of their names.** A table holds each name once, in the order of
code points, which is also the order of the bytes of the UTF-8 form.

* `Table.insert` — adds a name, or gives a name that is there a new value.
* `Table.merge` — inserts all entries of another table.
* `Table.find?` — the value of a name.
-/
namespace StyleBaseline

/-- A finite map from names to values, in the order of the names. -/
structure Table (α : Type) where
  entries : List (String × α)
  ascending : entries.Pairwise fun a b => a.1 < b.1

namespace Table

variable {α : Type}

instance [DecidableEq α] : DecidableEq (Table α) := fun a b =>
  decidable_of_iff (a.entries = b.entries) <| by
    cases a
    cases b
    simp

instance [Repr α] : Repr (Table α) := ⟨fun table => reprPrec table.entries⟩

/-- The table without names. -/
def empty : Table α :=
  ⟨[], .nil⟩

instance : Inhabited (Table α) := ⟨empty⟩

/-- Puts a name and its value at its place among ordered entries. -/
def insertAmong (name : String) (value : α) : List (String × α) → List (String × α)
  | [] => [(name, value)]
  | entry :: rest =>
      if name < entry.1 then (name, value) :: entry :: rest
      else if name = entry.1 then (name, value) :: rest
      else entry :: insertAmong name value rest

theorem mem_insertAmong {name : String} {value : α} {entries : List (String × α)}
    {entry : String × α} (member : entry ∈ insertAmong name value entries) :
    entry = (name, value) ∨ entry ∈ entries := by
  induction entries with
  | nil => simpa [insertAmong] using member
  | cons first rest ih =>
      simp only [insertAmong] at member
      split at member
      · simpa using member
      · split at member
        · rcases List.mem_cons.1 member with here | there
          · exact .inl here
          · exact .inr (List.mem_cons_of_mem _ there)
        · rcases List.mem_cons.1 member with here | there
          · exact .inr (by simp [here])
          · exact (ih there).imp id (List.mem_cons_of_mem _)

theorem insertAmong_ascending (name : String) (value : α) {entries : List (String × α)}
    (ascending : entries.Pairwise fun a b => a.1 < b.1) :
    (insertAmong name value entries).Pairwise fun a b => a.1 < b.1 := by
  induction entries with
  | nil => simp [insertAmong]
  | cons first rest ih =>
      obtain ⟨below, restAscending⟩ := List.pairwise_cons.1 ascending
      simp only [insertAmong]
      split
      · rename_i before
        refine List.pairwise_cons.2 ⟨fun entry member => ?_, ascending⟩
        rcases List.mem_cons.1 member with rfl | later
        · exact before
        · exact String.lt_trans before (below entry later)
      · split
        · rename_i same
          exact List.pairwise_cons.2 ⟨fun entry member => same ▸ below entry member, restAscending⟩
        · rename_i notBefore different
          refine List.pairwise_cons.2 ⟨fun entry member => ?_, ih restAscending⟩
          rcases mem_insertAmong member with rfl | later
          · exact Std.lt_of_le_of_ne (String.not_lt.1 notBefore) (Ne.symm different)
          · exact below entry later

/-- Adds a name with its value, in place of the value it has. -/
def insert (table : Table α) (name : String) (value : α) : Table α :=
  ⟨insertAmong name value table.entries, insertAmong_ascending name value table.ascending⟩

/-- The value of a name. -/
def find? (table : Table α) (name : String) : Option α :=
  table.entries.lookup name

/-- Whether a table has no names. -/
def isEmpty (table : Table α) : Bool :=
  table.entries.isEmpty

/-- The table of a list of entries; of two entries with one name the later one counts. -/
def ofList (entries : List (String × α)) : Table α :=
  entries.foldl (fun table entry => table.insert entry.1 entry.2) empty

/-- A table with the entries of another one inserted. -/
def merge (table other : Table α) : Table α :=
  other.entries.foldl (fun table entry => table.insert entry.1 entry.2) table

end Table

end StyleBaseline
