/-
**Statistics by their history.** Statistics come about by recording numbers under names and by
merging other statistics that have come about in the same way. Of such a history only the last
number that is written under each name remains, where a merge writes all that its second part wrote;
and the names stand in the order of their bytes.

* `Table.History` — how a table comes about, and what is written on the way.
* `Table.LastWrite` — what is written last under a name.
* `Table.History.table_eq_ofList` — the table of a history is that of its writes in turn.
* `statistics_ofHistory` — what a history leaves, and how it is printed.
-/

import StyleBaseline.Proofs.Table
import StyleBaseline.Proofs.Text.ByteOrder
import StyleBaseline.Report.Rendering

namespace StyleBaseline

namespace Table

variable {α : Type}

/-- **How a table comes about.** -/
inductive History (α : Type) where
  | start
  /-- A value is recorded under a name. -/
  | record (before : History α) (name : String) (value : α)
  /-- A table with a history of its own is merged. -/
  | merge (before other : History α)
deriving Repr

namespace History

/-- The table of a history. -/
def table : History α → Table α
  | start => empty
  | record before name value => before.table.insert name value
  | merge before other => before.table.merge other.table

/-- All that is written in a history, in turn. A merge writes what the other history wrote. -/
def writes : History α → List (String × α)
  | start => []
  | record before name value => before.writes ++ [(name, value)]
  | merge before other => before.writes ++ other.writes

end History

/-- A value is written under a name, and no other one is written there later. -/
def LastWrite (writes : List (String × α)) (name : String) (value : α) : Prop :=
  ∃ earlier later, writes = earlier ++ (name, value) :: later ∧ ∀ write ∈ later, write.1 ≠ name

/-- What comes last under a name is found first from behind. -/
theorem lookup_reverse_eq_some_iff {writes : List (String × α)} {name : String} {value : α} :
    writes.reverse.lookup name = some value ↔ LastWrite writes name value := by
  rw [List.lookup_eq_some_iff]
  constructor
  · rintro ⟨behind, before, split, others⟩
    refine ⟨before.reverse, behind.reverse, ?_, fun write member => ?_⟩
    · rw [← List.reverse_reverse writes, split, List.reverse_append, List.reverse_cons,
        List.append_assoc, List.singleton_append]
    · exact (bne_iff_ne.mp (others write (List.mem_reverse.mp member))).symm
  · rintro ⟨earlier, later, rfl, others⟩
    refine ⟨later.reverse, earlier.reverse, ?_, fun write member => ?_⟩
    · rw [List.reverse_append, List.reverse_cons, List.append_assoc, List.singleton_append]
    · exact bne_iff_ne.mpr (others write (List.mem_reverse.mp member)).symm

namespace History

/-- **The table of a history** is that of its writes in turn. -/
theorem table_eq_ofList (history : History α) : history.table = ofList history.writes := by
  induction history with
  | start => rfl
  | record before name value ih =>
      rw [table, writes, ih, ofList, ofList, List.foldl_concat]
  | merge before other ih otherIh => rw [table, writes, ih, otherIh, ofList_append]

theorem find?_table_eq_some_iff (history : History α) {name : String} {value : α} :
    history.table.find? name = some value ↔ LastWrite history.writes name value := by
  simp [table_eq_ofList, lookup_reverse_eq_some_iff]

/-- A table is empty if nothing was ever written. -/
theorem isEmpty_table_iff (history : History α) :
    history.table.isEmpty = true ↔ history.writes = [] := by
  constructor
  · intro isEmpty
    rcases List.eq_nil_or_concat' history.writes with none | ⟨earlier, ⟨name, value⟩, some⟩
    · exact none
    · have last : LastWrite history.writes name value :=
        ⟨earlier, [], some, List.forall_mem_nil _⟩
      have listed := history.table.mem_entries_iff.mpr (history.find?_table_eq_some_iff.mpr last)
      rw [List.isEmpty_iff.mp isEmpty] at listed
      exact absurd listed List.not_mem_nil
  · intro none
    rw [table_eq_ofList, none]
    rfl

end History

end Table

open Table in
/-- **What remains of a history.** The statistics have each name that was ever written once, in the
order of the bytes of the names, with what was written last under it, and the same is found when
one asks for a name; they are empty only if nothing was written. Statistics can be merged in any
grouping, and to merge empty ones changes nothing. They are printed as one line for each name, with
its number in decimal digits. -/
theorem statistics_ofHistory (history : History Nat) :
    let statistics : Statistics := history.table
    let inOrder : List (String × Nat) → Prop := fun entries =>
      entries.Pairwise fun first second =>
        encodeUtf8 first.1.toList < encodeUtf8 second.1.toList
    inOrder statistics.entries ∧
      (∀ name value, (name, value) ∈ statistics.entries ↔ LastWrite history.writes name value) ∧
      (∀ name value,
        statistics.find? name = some value ↔ LastWrite history.writes name value) ∧
      (statistics.isEmpty = true ↔ history.writes = []) ∧
      (∀ first second third : Statistics,
        (first.merge second).merge third = first.merge (second.merge third)) ∧
      (∀ other : Statistics, other.merge .empty = other ∧ Table.empty.merge other = other) ∧
      ∀ entries, inOrder entries →
        (∀ name value, (name, value) ∈ entries ↔ LastWrite history.writes name value) →
          statisticsText statistics = String.join (entries.map fun entry =>
            entry.1 ++ ": " ++ String.ofList (Nat.toDigits 10 entry.2) ++ "\n") := by
  intro statistics inOrder
  have ascending : inOrder statistics.entries :=
    statistics.ascending.imp fun before => lt_iff_encodeUtf8_lt.mp before
  have listed (name : String) (value : Nat) :
      (name, value) ∈ statistics.entries ↔ LastWrite history.writes name value :=
    statistics.mem_entries_iff.trans history.find?_table_eq_some_iff
  refine ⟨ascending, listed, fun name value => history.find?_table_eq_some_iff,
    history.isEmpty_table_iff, merge_assoc, fun other => ⟨merge_empty other, empty_merge other⟩,
    fun entries entriesInOrder written => ?_⟩
  have same : entries = statistics.entries :=
    statistics.eq_entries_of_ascending
      (entriesInOrder.imp fun before => lt_iff_encodeUtf8_lt.mpr before)
      fun name value => (written name value).trans history.find?_table_eq_some_iff.symm
  rw [same]
  rfl

example : (Table.History.merge (.record (.record .start "é" 1) "z" 2)
    (.record .start "é" 3)).table.entries = [("z", 2), ("é", 3)] := by
  decide +kernel

end StyleBaseline
