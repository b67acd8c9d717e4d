/-
**The document of a report, read back.** A report is looked up in a document name by name: the
diagnostics one after another, each with both its places, and the statistics as they stand. The
document of a report gives that very report, whatever its texts are made of, if its numbers are in
the range of the reader.

* `Report.ofText?` — the report that a document tells of.
* `Report.ofText?_text` — the document of a report.
* `document_readBack` — the document of the diagnostics of a file.
-/

import StyleBaseline.Dataset.Feature
import StyleBaseline.Proofs.Json.Writing
import StyleBaseline.Proofs.Text.Positions
import StyleBaseline.Report.Document

namespace StyleBaseline

open Json (Value Writable)

/-! ### Looking up -/

namespace Json.Value

/-- The member of an object with a name. -/
def member? (name : String) : Value → Option Value
  | .object members => members.lookup name
  | _ => none

/-- The number of a whole number. -/
def natural? : Value → Option Nat
  | .number (.natural value) => some value
  | _ => none

/-- The items of an array. -/
def items? : Value → Option (List Value)
  | .array items => some items
  | _ => none

/-- The members of an object. -/
def members? : Value → Option (List (String × Value))
  | .object members => some members
  | _ => none

end Json.Value

namespace Json

@[simp]
theorem orderedItems_eq_map (items : List Value) : orderedItems items = items.map Value.ordered := by
  induction items with
  | nil => rfl
  | cons item items ih => rw [orderedItems, List.map_cons, ih]

@[simp]
theorem orderedMembers_eq_map (members : List (String × Value)) :
    orderedMembers members = members.map fun member => (member.1, member.2.ordered) := by
  induction members with
  | nil => rfl
  | cons member members ih => rw [orderedMembers, List.map_cons, ih]

theorem lookup_map {α β : Type} (change : α → β) (entries : List (String × α)) (name : String) :
    (entries.map fun entry => (entry.1, change entry.2)).lookup name =
      (entries.lookup name).map change := by
  induction entries with
  | nil => rfl
  | cons entry entries ih =>
      rw [List.map_cons, lookup_cons_eq_ite, lookup_cons_eq_ite, ih]
      split <;> rfl

/-- To put the members in order does not change what is found under their names. -/
theorem Value.member?_ordered (members : List (String × Value)) (name : String) :
    (Value.object members).ordered.member? name =
      (members.reverse.lookup name).map Value.ordered := by
  rw [Value.ordered, Value.member?, Table.lookup_placed, orderedMembers_eq_map, ← List.map_reverse,
    lookup_map]

theorem mapM_map_eq_some {α β : Type} {write : α → β} {read : β → Option α} {items : List α}
    (each : ∀ item ∈ items, read (write item) = some item) :
    (items.map write).mapM read = some items := by
  induction items with
  | nil => rfl
  | cons item items ih =>
      obtain ⟨here, others⟩ := List.forall_mem_cons.mp each
      rw [List.map_cons, mapM_cons_eq_bind, here, ih others]
      rfl

end Json

/-! ### Places -/

namespace Place

/-- The place that a value tells of. -/
def ofValue? (value : Value) : Option Place := do
  let line ← (value.member? "line").bind Value.natural?
  let column ← (value.member? "column").bind Value.natural?
  let offset ← (value.member? "offset").bind Value.natural?
  return ⟨line, column, offset⟩

theorem ofValue?_ordered (place : Place) : ofValue? place.value.ordered = some place := by
  simp only [ofValue?, value, Value.member?_ordered]
  rfl

/-- The numbers of a place are in the range of the reader. -/
def InRange (place : Place) : Prop :=
  place.line ≤ Json.greatestNatural ∧ place.column ≤ Json.greatestNatural ∧
    place.offset ≤ Json.greatestNatural

theorem writable_value {place : Place} (inRange : place.InRange) (levels : Nat) :
    Writable (levels + 1) place.value := by
  obtain ⟨line, column, offset⟩ := inRange
  refine .object ?_
  simp only [List.forall_mem_cons]
  exact ⟨.natural _ line, .natural _ column, .natural _ offset, List.forall_mem_nil _⟩

end Place

/-! ### Entries -/

namespace ReportEntry

/-- The entry that a value tells of. -/
def ofValue? (value : Value) : Option ReportEntry := do
  let severity ← (value.member? "type").bind Value.string?
  let path ← (value.member? "filename").bind Value.string?
  let start ← (value.member? "start").bind Place.ofValue?
  let stop ← (value.member? "end").bind Place.ofValue?
  let message ← (value.member? "message").bind Value.string?
  let code ← (value.member? "code").bind Value.string?
  return ⟨severity, path, start, stop, message, code⟩

theorem ofValue?_ordered (entry : ReportEntry) : ofValue? entry.value.ordered = some entry := by
  simp only [ofValue?, value, Value.member?_ordered]
  show (Place.ofValue? entry.start.value.ordered).bind _ = _
  rw [Place.ofValue?_ordered]
  show (Place.ofValue? entry.stop.value.ordered).bind _ = _
  rw [Place.ofValue?_ordered]
  rfl

theorem writable_value {entry : ReportEntry} (start : entry.start.InRange)
    (stop : entry.stop.InRange) (levels : Nat) : Writable (levels + 2) entry.value := by
  refine .object ?_
  simp only [List.forall_mem_cons]
  exact ⟨.string .., .string .., Place.writable_value start _, Place.writable_value stop _,
    .string .., .string .., List.forall_mem_nil _⟩

end ReportEntry

/-! ### Reports -/

namespace Report

/-- The report that a value tells of. -/
def ofValue? (value : Value) : Option Report := do
  let items ← (value.member? "diagnostics").bind Value.items?
  let members ← (value.member? "stats").bind Value.members?
  let entries ← items.mapM ReportEntry.ofValue?
  let numbers ← members.mapM fun member => member.2.natural?.map (member.1, ·)
  return ⟨entries, Table.ofList numbers⟩

/-- The report that a document tells of. -/
def ofText? (text : String) : Option Report :=
  (Value.ofText text).toOption.bind ofValue?

/-- The numbers of a report are in the range of the reader. -/
structure InRange (report : Report) : Prop where
  starts : ∀ entry ∈ report.entries, entry.start.InRange
  stops : ∀ entry ∈ report.entries, entry.stop.InRange
  numbers : ∀ entry ∈ report.statistics.entries, entry.2 ≤ Json.greatestNatural

theorem writable_value {report : Report} (inRange : report.InRange) (levels : Nat) :
    Writable (levels + 4) report.value := by
  refine .object (List.forall_mem_cons.mpr ⟨?_, List.forall_mem_singleton.mpr ?_⟩)
  · refine .array (List.forall_mem_map.mpr fun entry member => ?_)
    exact ReportEntry.writable_value (inRange.starts entry member) (inRange.stops entry member) _
  · refine .object (List.forall_mem_map.mpr fun entry member => ?_)
    exact .natural _ (inRange.numbers entry member)

/-- The value of a report in order: the two parts, and the statistics, are in order already. -/
theorem ordered_value (report : Report) :
    report.value.ordered =
      .object [("diagnostics", .array (report.entries.map fun entry => entry.value.ordered)),
        ("stats", .object (report.statistics.entries.map fun entry =>
          (entry.1, numberValue entry.2)))] := by
  have statistics : Table.placed (Json.orderedMembers
      (report.statistics.entries.map fun entry => (entry.1, numberValue entry.2))) =
      report.statistics.entries.map fun entry => (entry.1, numberValue entry.2) := by
    rw [Json.orderedMembers_eq_map, List.map_map]
    exact Table.placed_of_ascending (List.pairwise_map.mpr report.statistics.ascending)
  have parts (diagnostics stats : Value) :
      Table.placed [("diagnostics", diagnostics), ("stats", stats)] =
        [("diagnostics", diagnostics), ("stats", stats)] :=
    Table.placed_of_ascending
      (List.pairwise_pair.mpr (show "diagnostics" < "stats" by decide))
  rw [value, Value.ordered]
  simp only [Json.orderedMembers, Value.ordered, Json.orderedItems_eq_map, List.map_map, statistics]
  exact congrArg Value.object (parts _ _)

theorem ofValue?_ordered (report : Report) : ofValue? report.value.ordered = some report := by
  let natural? (member : String × Value) : Option (String × Nat) :=
    member.2.natural?.map (member.1, ·)
  have entries : (report.entries.map fun entry => entry.value.ordered).mapM ReportEntry.ofValue? =
      some report.entries :=
    Json.mapM_map_eq_some fun entry _ => entry.ofValue?_ordered
  have numbers : (report.statistics.entries.map fun entry =>
      (entry.1, numberValue entry.2)).mapM natural? = some report.statistics.entries :=
    Json.mapM_map_eq_some fun entry _ => rfl
  rw [ordered_value]
  show ((report.entries.map fun entry => entry.value.ordered).mapM ReportEntry.ofValue?).bind
    (fun known => ((report.statistics.entries.map fun entry =>
      (entry.1, numberValue entry.2)).mapM natural?).bind fun counts =>
        some (⟨known, Table.ofList counts⟩ : Report)) = _
  simp [entries, numbers]

/-- **The document of a report** is well formed, and tells of that report. -/
theorem ofText?_text {report : Report} (inRange : report.InRange) :
    (∃ phrase, Json.Writes report.text phrase) ∧
      Value.ofText report.text = .ok report.value.ordered ∧ ofText? report.text = some report := by
  obtain ⟨wellFormed, read⟩ := Value.ofText_layout (writable_value inRange 123)
  refine ⟨wellFormed, read, ?_⟩
  rw [ofText?]
  show (Value.ofText report.value.layout).toOption.bind ofValue? = _
  rw [read]
  exact ofValue?_ordered report

end Report

/-! ### The diagnostics of a file -/

/-- The numbers of a diagnostic take 32 bits. -/
structure Diagnostic.InRange (diagnostic : Diagnostic) : Prop where
  line : diagnostic.line < 2 ^ 32
  column : diagnostic.column < 2 ^ 32
  start : diagnostic.span.start < 2 ^ 32
  stop : diagnostic.span.stop < 2 ^ 32

/-- An end that is found in the source is no further on than its offset. -/
theorem Diagnostic.InRange.entry {diagnostic : Diagnostic} (inRange : diagnostic.InRange)
    (path source : String) :
    (ReportEntry.ofDiagnostic path (LineTable.ofText source) diagnostic).start.InRange ∧
      (ReportEntry.ofDiagnostic path (LineTable.ofText source) diagnostic).stop.InRange := by
  obtain ⟨line, column, start, stop⟩ := inRange
  have enough : 2 ^ 32 ≤ Json.greatestNatural := by decide
  refine ⟨⟨line.le.trans enough, column.le.trans enough, start.le.trans enough⟩, ?_⟩
  rw [ReportEntry.ofDiagnostic]
  cases found : (LineTable.ofText source).position? diagnostic.span.stop with
  | none => exact ⟨line.le.trans enough, column.le.trans enough, stop.le.trans enough⟩
  | some position =>
      obtain ⟨stopLine, stopColumn⟩ := position?_le found
      exact ⟨stopLine.trans (Nat.succ_le_of_lt stop |>.trans enough),
        stopColumn.trans (Nat.succ_le_of_lt stop |>.trans enough), stop.le.trans enough⟩

/-- **The document of the diagnostics of a file.** It is well formed. What is read of it is an object
with two members: an array with a value for each diagnostic, in order, that tells of the entry of
that diagnostic, and the statistics as they stand. So it tells of the very report that is written,
whatever the texts in it are made of. -/
theorem document_readBack (path source : String) {diagnostics : List Diagnostic}
    {statistics : Statistics} (places : ∀ diagnostic ∈ diagnostics, diagnostic.InRange)
    (numbers : ∀ entry ∈ statistics.entries, entry.2 < 2 ^ 64) :
    let entries := ReportEntry.ofFile path source diagnostics
    let text := (Report.mk entries statistics).text
    (∃ phrase, Json.Writes text phrase) ∧
    (∃ items,
      Value.ofText text = .ok (.object [("diagnostics", .array items),
        ("stats", .object (statistics.entries.map fun entry => (entry.1, numberValue entry.2)))]) ∧
      items.map ReportEntry.ofValue? =
        diagnostics.map fun diagnostic =>
          some (ReportEntry.ofDiagnostic path (LineTable.ofText source) diagnostic)) ∧
    Report.ofText? text = some ⟨entries, statistics⟩ := by
  intro entries text
  have inRange : (Report.mk entries statistics).InRange := {
    starts := List.forall_mem_map.mpr fun diagnostic member =>
      ((places diagnostic member).entry path source).1
    stops := List.forall_mem_map.mpr fun diagnostic member =>
      ((places diagnostic member).entry path source).2
    numbers := fun entry member => Nat.le_of_lt_succ (numbers entry member) }
  obtain ⟨wellFormed, read, told⟩ := Report.ofText?_text inRange
  rw [Report.ordered_value] at read
  refine ⟨wellFormed, ⟨_, read, ?_⟩, told⟩
  simp only [List.map_map, Function.comp_def, ReportEntry.ofValue?_ordered, entries,
    ReportEntry.ofFile]

theorem document_readBack_hardTexts :
    let diagnostic : Diagnostic :=
      ⟨.baselineCheck, .warning, "\"\\\n\x00\x1f\x7fü", ⟨0, 4294967295⟩, 1, 4294967295⟩
    let report : Report :=
      ⟨ReportEntry.ofFile "a\"\\b.css" "ü\n" [diagnostic],
        Table.empty.insert "\t" 18446744073709551615⟩
    diagnostic.InRange ∧ (∀ entry ∈ report.statistics.entries, entry.2 < 2 ^ 64) ∧
      Report.ofText? report.text = some report := by
  intro diagnostic report
  have inRange : diagnostic.InRange := ⟨by decide, by decide, by decide, by decide⟩
  have places : ∀ other ∈ [diagnostic], other.InRange := List.forall_mem_singleton.mpr inRange
  have numbers : ∀ entry ∈ report.statistics.entries, entry.2 < 2 ^ 64 := by decide
  exact ⟨inRange, numbers, (document_readBack "a\"\\b.css" "ü\n" places numbers).2.2⟩

end StyleBaseline
