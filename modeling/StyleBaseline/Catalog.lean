/-
**Catalogs: finite maps in the order of arrival.** A catalog holds each name once and lists the
names in the order in which they were first added.

* `Catalog.alter` — gives a name a value made from the one it has; a new name goes to the end.
* `Catalog.insert` — the same with a value that does not depend on the old one.
* `Catalog.find?` — the value of a name.
* `Catalog.sameEntries` — equality of two catalogs when their order is left out.
-/
namespace StyleBaseline

/-- Gives a name a value made from the one it has; a new name goes to the end. -/
def alterAmong {α : Type} (name : String) (change : Option α → α) :
    List (String × α) → List (String × α)
  | [] => [(name, change none)]
  | entry :: rest =>
      if entry.1 = name then (entry.1, change (some entry.2)) :: rest
      else entry :: alterAmong name change rest

/-- The names are those of before, with a new one behind them. -/
theorem map_fst_alterAmong {α : Type} (name : String) (change : Option α → α)
    (entries : List (String × α)) :
    (alterAmong name change entries).map (·.1)
      = if name ∈ entries.map (·.1) then entries.map (·.1) else entries.map (·.1) ++ [name] := by
  induction entries with
  | nil => simp [alterAmong]
  | cons first rest ih =>
      simp only [alterAmong]
      by_cases same : first.1 = name
      · simp [same]
      · simp only [if_neg same, List.map_cons, ih, List.mem_cons, Ne.symm same, false_or]
        split <;> simp

/-- A finite map from names to values, in the order in which the names were first added. -/
structure Catalog (α : Type) where
  entries : List (String × α)
  distinct : (entries.map (·.1)).Nodup

namespace Catalog

variable {α : Type}

instance [DecidableEq α] : DecidableEq (Catalog α) := fun a b =>
  decidable_of_iff (a.entries = b.entries) <| by
    cases a
    cases b
    simp

instance [Repr α] : Repr (Catalog α) := ⟨fun catalog => reprPrec catalog.entries⟩

/-- The catalog without names. -/
def empty : Catalog α :=
  ⟨[], .nil⟩

instance : Inhabited (Catalog α) := ⟨empty⟩

/-- Gives a name a value made from the one it has, if it has one. -/
def alter (catalog : Catalog α) (name : String) (change : Option α → α) : Catalog α :=
  ⟨alterAmong name change catalog.entries, by
    rw [map_fst_alterAmong]
    split
    · exact catalog.distinct
    · rename_i absent
      refine List.nodup_append.2 ⟨catalog.distinct, by simp, fun a member b isNew => ?_⟩
      rw [List.mem_singleton.1 isNew]
      exact fun same => absent (same ▸ member)⟩

/-- Gives a name a value. A name that is there keeps its place. -/
def insert (catalog : Catalog α) (name : String) (value : α) : Catalog α :=
  catalog.alter name fun _ => value

/-- The catalog of a list of entries: a name stands where it comes first and has the value that
comes last. -/
def ofList (entries : List (String × α)) : Catalog α :=
  entries.foldl (fun catalog entry => catalog.insert entry.1 entry.2) empty

/-- The value of a name. -/
def find? (catalog : Catalog α) (name : String) : Option α :=
  catalog.entries.lookup name

/-- The number of names. -/
def size (catalog : Catalog α) : Nat :=
  catalog.entries.length

/-- Whether a catalog has no names. -/
def isEmpty (catalog : Catalog α) : Bool :=
  catalog.entries.isEmpty

/-- A catalog with only the names whose values pass a partial map, with what it makes of them. -/
def filterMap {β : Type} (catalog : Catalog α) (pick : α → Option β) : Catalog β :=
  ⟨catalog.entries.filterMap fun entry => (pick entry.2).map (entry.1, ·), by
    have sublist : ∀ entries : List (String × α),
        ((entries.filterMap fun entry => (pick entry.2).map (entry.1, ·)).map (·.1)).Sublist
          (entries.map (·.1)) := by
      intro entries
      induction entries with
      | nil => simp
      | cons first rest ih =>
          cases kept : pick first.2 with
          | none => simpa [kept] using ih.cons first.1
          | some value => simpa [kept] using ih.cons_cons first.1
    exact (sublist catalog.entries).nodup catalog.distinct⟩

/-- Whether two catalogs have the same names with the same values, in any order. -/
def sameEntries [BEq α] (a b : Catalog α) : Bool :=
  a.size == b.size && a.entries.all fun entry =>
    match b.find? entry.1 with
    | some value => entry.2 == value
    | none => false

end Catalog

end StyleBaseline
