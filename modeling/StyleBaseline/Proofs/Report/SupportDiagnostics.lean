/-
**What is reported on support.** Each declaration is looked at by itself and reported where it
stands, if features are known behind its property and none of them is widely supported. Putting the
reports in order and mixing them with others does not move them among themselves.

* `diagnostics_ofEvents` — a run of events, by induction from one of them.
* `supportDiagnostics_check` — of all that is reported on a stylesheet, what concerns support.
* `diagnose?_ofDatabase` — what is reported of one declaration.
-/

import StyleBaseline.Proofs.Dataset.Verdicts
import StyleBaseline.Proofs.Sorting
import StyleBaseline.Proofs.Stylesheet.PropertyNames
import StyleBaseline.Report.Check

namespace StyleBaseline

/-! ### A run of events -/

/-- The declaration that an event tells of. -/
def SheetEvent.declaration? : SheetEvent → Option Declaration
  | .declaration declared => some declared
  | .endOfSheet => none

@[simp]
theorem Outline.filterMap_declaration?_events (outline : Outline) :
    outline.events.filterMap SheetEvent.declaration? = outline.declarations := by
  rw [Outline.events, List.filterMap_append, List.filterMap_map]
  show outline.declarations.filterMap some ++ [] = _
  rw [List.filterMap_some, List.append_nil]

theorem diagnostics_foldl_step (index : Index) (severity : Severity) (events : List SheetEvent)
    (findings : Findings) :
    (events.foldl (Findings.step index severity) findings).diagnostics =
      findings.diagnostics ++
        (events.filterMap SheetEvent.declaration?).filterMap (diagnose? index severity) := by
  induction events generalizing findings with
  | nil => exact (List.append_nil _).symm
  | cons event events ih =>
      rw [List.foldl_cons, ih]
      cases event with
      | endOfSheet => rfl
      | declaration declaration =>
          rw [List.filterMap_cons, SheetEvent.declaration?, List.filterMap_cons, Findings.step,
            List.append_assoc]
          cases diagnose? index severity declaration <;> rfl

/-- **A run of events** is reported declaration by declaration. -/
theorem diagnostics_ofEvents (index : Index) (severity : Severity) (events : List SheetEvent) :
    (Findings.ofEvents index severity events).diagnostics =
      (events.filterMap SheetEvent.declaration?).filterMap (diagnose? index severity) :=
  diagnostics_foldl_step index severity events .empty

@[simp]
theorem diagnostics_supportFindings (index : Index) (outline : Outline) (severity : Severity) :
    (supportFindings index outline (some severity)).diagnostics =
      outline.declarations.filterMap (diagnose? index severity) := by
  simp [supportFindings, diagnostics_ofEvents]

@[simp]
theorem statistics_foldl_declarations (index : Index) (severity : Severity)
    (declarations : List Declaration) (findings : Findings) :
    ((declarations.map SheetEvent.declaration).foldl (Findings.step index severity)
      findings).statistics = findings.statistics := by
  induction declarations generalizing findings with
  | nil => rfl
  | cons declaration declarations ih =>
      rw [List.map_cons, List.foldl_cons, ih]
      rfl

/-- The end of the sheet alone counts, whatever is declared. -/
@[simp]
theorem statistics_supportFindings (index : Index) (outline : Outline) (severity : Severity) :
    (supportFindings index outline (some severity)).statistics =
      Table.empty.insert propertiesTracked index.size := by
  rw [supportFindings, Findings.ofEvents, Outline.events, List.foldl_append]
  show (Table.insert _ propertiesTracked index.size) = _
  rw [statistics_foldl_declarations]
  rfl

/-! ### The diagnostics of a stylesheet -/

/-- A report tells of the place of its declaration and comes from the rule on support. -/
theorem diagnose?_eq_some {index : Index} {severity : Severity} {declaration : Declaration}
    {diagnostic : Diagnostic} (reported : diagnose? index severity declaration = some diagnostic) :
    diagnostic.code = .baselineCheck ∧ diagnostic.span = declaration.span := by
  obtain ⟨message, _, rfl⟩ := Option.map_eq_some_iff.mp reported
  exact ⟨rfl, rfl⟩

/-- Reports on support stand in the order of the source. -/
theorem filterMap_diagnose?_ascending (source : String) (index : Index) (severity : Severity) :
    ((Outline.ofSource source).declarations.filterMap (diagnose? index severity)).Pairwise
      fun first second => first.span.start < second.span.start := by
  rw [List.pairwise_filterMap]
  refine (declarations_ascending source).imp fun before first isFirst second isSecond => ?_
  rw [(diagnose?_eq_some isFirst).2, (diagnose?_eq_some isSecond).2]
  exact before

/-- Unmatched braces are not reported by the rule on support. -/
theorem filter_faults (table : LineTable) (faults : List BlockFault) (parseErrors : Bool) :
    (if parseErrors then faults.map (BlockFault.diagnostic table) else []).filter
      (·.code = .baselineCheck) = [] := by
  rw [List.filter_eq_nil_iff]
  intro diagnostic member
  cases parseErrors with
  | false => exact absurd member List.not_mem_nil
  | true =>
      obtain ⟨fault, _, rfl⟩ := List.mem_map.mp member
      exact of_decide_eq_false rfl

/-- **What is reported on support** of a stylesheet are the reports on its declarations, in their
order, whether unmatched braces are reported or not. -/
theorem supportDiagnostics_check (source : String) (index : Index) (severity : Severity)
    (parseErrors : Bool) :
    (check source index ⟨some severity, parseErrors⟩).diagnostics.filter
        (·.code = .baselineCheck) =
      (Outline.ofSource source).declarations.filterMap (diagnose? index severity) := by
  let faults := if parseErrors then
    (Outline.ofSource source).faults.map (BlockFault.diagnostic (LineTable.ofText source)) else []
  let reports := (Outline.ofSource source).declarations.filterMap (diagnose? index severity)
  have own : reports.filter (·.code = .baselineCheck) = reports := by
    rw [List.filter_eq_self]
    intro diagnostic member
    obtain ⟨declaration, _, reported⟩ := List.mem_filterMap.mp member
    exact decide_eq_true (diagnose?_eq_some reported).1
  have picked : (faults ++ reports).filter (·.code = .baselineCheck) = reports := by
    rw [List.filter_append, filter_faults, own, List.nil_append]
  rw [check, diagnostics_supportFindings]
  show (sortByKey (·.span.start) (faults ++ reports)).filter (·.code = .baselineCheck) = reports
  rw [filter_sortByKey, picked]
  rw [picked]
  exact (filterMap_diagnose?_ascending source index severity).imp Nat.le_of_lt

/-! ### What is reported of a declaration -/

/-- The features with a path at a property, with their keys, in the order of the database. -/
def Database.featuresAt (database : Database) (property : String) : List (String × Feature) :=
  database.features.entries.filter fun entry => ∃ path ∈ entry.2.paths, LiesAt path property

/-- The names by which features are shown: a feature without a name is shown by its key. -/
def displayNames (features : List (String × Feature)) : List String :=
  features.map fun entry => entry.2.name.getD entry.1

/-- Support is wanting if features are known and none of them is of the highest tier. -/
def SupportWanting (features : List (String × Feature)) : Prop :=
  features ≠ [] ∧ ∀ entry ∈ features, entry.2.tier ≠ .high

instance : DecidablePred SupportWanting := fun features =>
  inferInstanceAs (Decidable (features ≠ [] ∧ ∀ entry ∈ features, entry.2.tier ≠ .high))

/-- What is said of a property when support is wanting: the features of the lower tier are named,
and if there are none, all. -/
def supportText (property : String) (features : List (String × Feature)) : String :=
  if ∃ entry ∈ features, entry.2.tier = .low then
    Verdict.lowBaselineText property (displayNames (features.filter (·.2.tier = .low)))
  else Verdict.noBaselineText property (displayNames features)

/-- The report on a declaration. -/
def supportDiagnostic (database : Database) (severity : Severity) (declaration : Declaration) :
    Diagnostic :=
  let property := lowercase declaration.property
  ⟨.baselineCheck, severity, supportText property (database.featuresAt property), declaration.span,
    declaration.line, declaration.column⟩

theorem recordsBehind_eq_map (database : Database) {property : String}
    (proper : property ≠ "" ∧ '.' ∉ property.toList) :
    recordsBehind database.features.entries property =
      (database.featuresAt property).map fun entry => .ofFeature entry.1 entry.2 := by
  rw [recordsBehind, Database.featuresAt]
  congr 1
  refine List.filter_congr fun entry _ => decide_eq_decide.mpr ?_
  refine exists_congr fun path => and_congr_right fun _ => ?_
  rw [Names, and_iff_right proper.1, and_iff_right proper.2]

theorem message?_verdict_ofDatabase (database : Database) {property : String}
    (proper : property ≠ "" ∧ '.' ∉ property.toList) :
    ((Index.ofDatabase database).verdict property).message? property =
      if SupportWanting (database.featuresAt property) then
        some (supportText property (database.featuresAt property))
      else none := by
  let record (entry : String × Feature) : FeatureRecord := .ofFeature entry.1 entry.2
  let features := database.featuresAt property
  have wanting : (features.map record ≠ [] ∧ ∀ known ∈ features.map record, known.tier ≠ .high) ↔
      SupportWanting features := by
    rw [SupportWanting, List.forall_mem_map, ne_eq, List.map_eq_nil_iff]
    rfl
  have low : (∃ known ∈ features.map record, known.tier = .low) ↔
      ∃ entry ∈ features, entry.2.tier = .low := by
    simp only [List.mem_map, exists_exists_and_eq_and]
    rfl
  rw [Index.verdict_ofDatabase, Verdict.message?_ofRecords, recordsBehind_eq_map database proper]
  refine if_congr wanting (congrArg some ?_) rfl
  refine if_congr low ?_ ?_
  · rw [List.filter_map, List.map_map]
    rfl
  · rw [List.map_map]
    rfl

/-- **What is reported of one declaration.** -/
theorem diagnose?_ofDatabase (database : Database) (severity : Severity) {declaration : Declaration}
    (isName : declaration.property.toList ∈ Grammar.words .ident) :
    diagnose? (Index.ofDatabase database) severity declaration =
      if SupportWanting (database.featuresAt (lowercase declaration.property)) then
        some (supportDiagnostic database severity declaration)
      else none := by
  rw [diagnose?]
  simp only [message?_verdict_ofDatabase database (Grammar.lowercase_name isName)]
  split <;> rfl

/-- What is reported on the declarations of a source. -/
theorem filterMap_diagnose?_ofDatabase (database : Database) (source : String)
    (severity : Severity) :
    (Outline.ofSource source).declarations.filterMap
        (diagnose? (Index.ofDatabase database) severity) =
      ((Outline.ofSource source).declarations.filter fun declaration =>
        SupportWanting (database.featuresAt (lowercase declaration.property))).map
          (supportDiagnostic database severity) := by
  have each : ∀ declaration ∈ (Outline.ofSource source).declarations,
      diagnose? (Index.ofDatabase database) severity declaration =
        if SupportWanting (database.featuresAt (lowercase declaration.property)) then
          some (supportDiagnostic database severity declaration)
        else none := fun declaration member =>
    diagnose?_ofDatabase database severity (property_mem_words member)
  rw [List.filterMap_congr each, ← List.filterMap_eq_map, List.filterMap_filter]
  simp only [decide_eq_true_eq, Function.comp_apply]

/-- **The reports on support** of a stylesheet correspond to those of its declarations whose support
is wanting: they are made of these one by one, in the order of the source. -/
theorem check_supportWanting (database : Database) (source : String) (severity : Severity)
    (parseErrors : Bool) :
    let reported := (Outline.ofSource source).declarations.filter fun declaration =>
      SupportWanting (database.featuresAt (lowercase declaration.property))
    (check source (Index.ofDatabase database) ⟨some severity, parseErrors⟩).diagnostics.filter
        (·.code = .baselineCheck) = reported.map (supportDiagnostic database severity) ∧
      reported.Pairwise fun first second => first.span.start < second.span.start := by
  intro reported
  refine ⟨?_, (declarations_ascending source).sublist List.filter_sublist⟩
  rw [supportDiagnostics_check, filterMap_diagnose?_ofDatabase]

end StyleBaseline
