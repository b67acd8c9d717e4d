/-
**Names that are looked up.** The check asks an index for its size and for what stands under the
names of declarations in lower case, and for nothing else. What stands there under any other name
does not show in what it finds.

* `diagnose?_congr` — one declaration.
* `supportReports_congr` — all declarations of a source.
* `exists_lookup_of_mem_check` — what is reported is found under the name of a declaration.
* `check_lookups` — two indexes that agree on the names in lower case.
-/

import StyleBaseline.Proofs.Report.Independence
import StyleBaseline.Proofs.Stylesheet.SmallNames

namespace StyleBaseline

section Indexes

variable {first second : Index}

/-- One name is looked up for a declaration. -/
theorem diagnose?_congr (severity : Severity) {declaration : Declaration}
    (same : first.find? (lowercase declaration.property) =
      second.find? (lowercase declaration.property)) :
    diagnose? first severity declaration = diagnose? second severity declaration := by
  rw [diagnose?, diagnose?, Index.verdict, Index.verdict, same]

/-- The names of the declarations of a source are small names, in lower case. -/
theorem supportReports_congr
    (agree : Set.EqOn first.find? second.find? {name | name.toList ∈ Grammar.smallNames})
    (source : String) (baseline : Option Severity) :
    supportReports source first baseline = supportReports source second baseline := by
  cases baseline with
  | none => rfl
  | some severity =>
      rw [supportReports, supportReports, diagnostics_supportFindings, diagnostics_supportFindings]
      refine List.filterMap_congr fun declaration declared => diagnose?_congr severity (agree ?_)
      exact Grammar.lowercase_mem_smallNames (property_mem_words declared)

theorem diagnostics_check_congr
    (agree : Set.EqOn first.find? second.find? {name | name.toList ∈ Grammar.smallNames})
    (source : String) (options : CheckOptions) :
    (check source first options).diagnostics = (check source second options).diagnostics := by
  rw [diagnostics_check, diagnostics_check, supportReports_congr agree]

/-- The statistics depend on the size of the index. -/
theorem statistics_check_congr (sameSize : first.size = second.size) (source : String)
    (options : CheckOptions) :
    (check source first options).statistics = (check source second options).statistics := by
  obtain ⟨baseline, parseErrors⟩ := options
  cases baseline with
  | none => rfl
  | some severity =>
      show (supportFindings first _ (some severity)).statistics =
        (supportFindings second _ (some severity)).statistics
      simp [sameSize]

/-- There is nothing to say of a name under which the index holds nothing. -/
theorem exists_records_of_message? {index : Index} {name message : String}
    (said : (index.verdict name).message? name = some message) :
    ∃ records, index.find? name = some records ∧
      (Verdict.ofRecords records).message? name = some message := by
  rw [Index.verdict] at said
  cases found : index.find? name with
  | none =>
      rw [found] at said
      exact absurd said (Option.some_ne_none message).symm
  | some records =>
      rw [found] at said
      exact ⟨records, rfl, said⟩

/-- What is reported on support is said of what the index holds under the name of a declaration. -/
theorem exists_lookup_of_mem_check {index : Index} {source : String} {options : CheckOptions}
    {diagnostic : Diagnostic} (member : diagnostic ∈ (check source index options).diagnostics)
    (isSupport : diagnostic.code = .baselineCheck) :
    ∃ declaration ∈ (Outline.ofSource source).declarations,
      declaration.span = diagnostic.span ∧
      ∃ records, index.find? (lowercase declaration.property) = some records ∧
        (Verdict.ofRecords records).message? (lowercase declaration.property) =
          some diagnostic.message := by
  have reported : diagnostic ∈ supportReports source index options.baseline := by
    rw [← filter_baselineCheck_check]
    exact List.mem_filter.mpr ⟨member, decide_eq_true isSupport⟩
  cases on : options.baseline with
  | none =>
      rw [on] at reported
      exact absurd reported List.not_mem_nil
  | some severity =>
      rw [on, supportReports, diagnostics_supportFindings] at reported
      obtain ⟨declaration, declared, report⟩ := List.mem_filterMap.mp reported
      obtain ⟨message, said, rfl⟩ := Option.map_eq_some_iff.mp report
      exact ⟨declaration, declared, rfl, exists_records_of_message? said⟩

end Indexes

/-- An index with a feature behind `gap`, and with any features behind a name with a capital. -/
def gapAnd (records : List FeatureRecord) : Index :=
  ⟨(Catalog.empty.insert "gap" [⟨"gap", "gap", .low, none⟩]).insert "Gap" records⟩

end StyleBaseline
