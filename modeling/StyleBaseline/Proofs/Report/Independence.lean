/-
**Two checks, one report.** Unmatched braces and wanting support are looked for apart from each
other; what they report is put together by one sort. Each brace and each name is a token of its own,
so that no two reports are at one place: the sort has one result, and each check finds its reports
in it as it made them.

* `check_ascending` — the reports stand in the order of the source and do not overlap.
* `filter_parseError_check`, `filter_baselineCheck_check` — each check by itself.
* `check_withSupportSeverity` — what the severity of the rule on support changes.
* `check_independent` — how each option shows in the report.
-/

import StyleBaseline.Proofs.Report.SupportDiagnostics
import StyleBaseline.Proofs.Stylesheet.UnmatchedBraces

namespace StyleBaseline

/-! ### Each check by itself -/

/-- The reports on the unmatched braces of a source, if they are asked for. -/
def faultReports (source : String) (parseErrors : Bool) : List Diagnostic :=
  if parseErrors then
    (Outline.ofSource source).faults.map (BlockFault.diagnostic (LineTable.ofText source))
  else []

/-- The reports on the support of the properties of a source, if the rule is on. -/
def supportReports (source : String) (index : Index) (baseline : Option Severity) :
    List Diagnostic :=
  (supportFindings index (Outline.ofSource source) baseline).diagnostics

theorem diagnostics_check (source : String) (index : Index) (options : CheckOptions) :
    (check source index options).diagnostics =
      sortByKey (·.span.start)
        (faultReports source options.parseErrors ++ supportReports source index options.baseline) :=
  rfl

section Source

variable {source : String} {index : Index} {baseline : Option Severity} {parseErrors : Bool}
  {diagnostic : Diagnostic}

theorem of_mem_faultReports (member : diagnostic ∈ faultReports source parseErrors) :
    diagnostic.code = .parseError ∧ diagnostic.severity = .error ∧
      ∃ token ∈ tokens source, token.kind.isBrace ∧ token.span = diagnostic.span := by
  cases parseErrors with
  | false => exact absurd member List.not_mem_nil
  | true =>
      obtain ⟨fault, isFault, rfl⟩ := List.mem_map.mp member
      exact ⟨rfl, rfl, exists_brace_of_mem_faults isFault⟩

theorem of_mem_supportReports (member : diagnostic ∈ supportReports source index baseline) :
    diagnostic.code = .baselineCheck ∧
      ∃ token ∈ tokens source, token.kind = .ident ∧ token.span = diagnostic.span := by
  cases baseline with
  | none => exact absurd member List.not_mem_nil
  | some severity =>
      rw [supportReports, diagnostics_supportFindings] at member
      obtain ⟨declaration, declared, reported⟩ := List.mem_filterMap.mp member
      obtain ⟨isSupport, place⟩ := diagnose?_eq_some reported
      obtain ⟨_, token, _, _, inTokens, isName, rfl⟩ := exists_place_of_mem_declarations declared
      exact ⟨isSupport, token, inTokens, isName, place.symm⟩

theorem faultReports_ascending (source : String) (parseErrors : Bool) :
    (faultReports source parseErrors).Pairwise fun first second =>
      first.span.start < second.span.start := by
  cases parseErrors with
  | false => exact List.Pairwise.nil
  | true => exact List.pairwise_map.mpr (faults_ascending source)

theorem supportReports_ascending (source : String) (index : Index) (baseline : Option Severity) :
    (supportReports source index baseline).Pairwise fun first second =>
      first.span.start < second.span.start := by
  cases baseline with
  | none => exact List.Pairwise.nil
  | some severity =>
      rw [supportReports, diagnostics_supportFindings]
      exact filterMap_diagnose?_ascending source index severity

/-! ### The order of the report -/

/-- No brace stands where a name stands. -/
theorem start_ne_of_mem_reports {other : Diagnostic}
    (member : diagnostic ∈ faultReports source parseErrors)
    (otherMember : other ∈ supportReports source index baseline) :
    diagnostic.span.start ≠ other.span.start := by
  obtain ⟨_, _, brace, inTokens, isBrace, place⟩ := of_mem_faultReports member
  obtain ⟨_, name, nameInTokens, isName, namePlace⟩ := of_mem_supportReports otherMember
  intro same
  have notEnd : brace.kind ≠ .eof := TokenKind.ne_eof_of_isBrace isBrace
  have nameNotEnd : name.kind ≠ .eof := by
    rw [isName]
    decide
  have equal : brace = name := Grammar.tokens_start_injective inTokens nameInTokens notEnd
    nameNotEnd (by rw [place, namePlace, same])
  rw [equal, isName] at isBrace
  exact absurd isBrace (by decide)

theorem exists_token_of_mem_check {options : CheckOptions}
    (member : diagnostic ∈ (check source index options).diagnostics) :
    ∃ token ∈ tokens source, token.kind ≠ .eof ∧ token.span = diagnostic.span := by
  rw [diagnostics_check, (sortByKey_perm _).mem_iff, List.mem_append] at member
  rcases member with isFault | isSupport
  · obtain ⟨_, _, token, inTokens, isBrace, place⟩ := of_mem_faultReports isFault
    exact ⟨token, inTokens, TokenKind.ne_eof_of_isBrace isBrace, place⟩
  · obtain ⟨_, token, inTokens, isName, place⟩ := of_mem_supportReports isSupport
    exact ⟨token, inTokens, by rw [isName]; decide, place⟩

/-- A report of a kind shows that its option is on. -/
theorem code_of_mem_check {options : CheckOptions}
    (member : diagnostic ∈ (check source index options).diagnostics) :
    (diagnostic.code = .parseError ∧ options.parseErrors = true) ∨
      (diagnostic.code = .baselineCheck ∧ options.baseline ≠ none) := by
  obtain ⟨baseline, parseErrors⟩ := options
  rw [diagnostics_check, (sortByKey_perm _).mem_iff, List.mem_append] at member
  rcases member with isFault | isSupport
  · cases parseErrors with
    | false => exact absurd isFault List.not_mem_nil
    | true => exact Or.inl ⟨(of_mem_faultReports isFault).1, rfl⟩
  · cases baseline with
    | none => exact absurd isSupport List.not_mem_nil
    | some severity => exact Or.inr ⟨(of_mem_supportReports isSupport).1, Option.some_ne_none _⟩

/-- No two reports begin at one place. -/
theorem nodup_starts_check (source : String) (index : Index) (options : CheckOptions) :
    ((check source index options).diagnostics.map (·.span.start)).Nodup := by
  have faultsApart := List.pairwise_map.mpr
    ((faultReports_ascending source options.parseErrors).imp Nat.ne_of_lt)
  have supportApart := List.pairwise_map.mpr
    ((supportReports_ascending source index options.baseline).imp Nat.ne_of_lt)
  let reports := faultReports source options.parseErrors ++
    supportReports source index options.baseline
  have perm : ((sortByKey (·.span.start) reports).map (·.span.start)).Perm
      (reports.map (·.span.start)) := (sortByKey_perm reports).map _
  rw [diagnostics_check, perm.nodup_iff, List.map_append]
  refine List.nodup_append.mpr ⟨faultsApart, supportApart, fun start isFault other isSupport => ?_⟩
  obtain ⟨fault, inFaults, rfl⟩ := List.mem_map.mp isFault
  obtain ⟨report, inReports, rfl⟩ := List.mem_map.mp isSupport
  exact start_ne_of_mem_reports inFaults inReports

/-- **The reports stand in the order of the source** and do not overlap. -/
theorem check_ascending (source : String) (index : Index) (options : CheckOptions) :
    (check source index options).diagnostics.Pairwise fun first second =>
      first.span.start < second.span.start ∧ first.span.stop ≤ second.span.start := by
  have sorted : (check source index options).diagnostics.Pairwise fun first second =>
      first.span.start ≤ second.span.start := pairwise_sortByKey _
  have distinct := List.pairwise_map.mp (nodup_starts_check source index options)
  refine (sorted.and distinct).imp_of_mem fun {first second} inFirst inSecond apart => ?_
  obtain ⟨token, inTokens, _, place⟩ := exists_token_of_mem_check inFirst
  obtain ⟨later, laterInTokens, notEnd, laterPlace⟩ := exists_token_of_mem_check inSecond
  have before : first.span.start < second.span.start := Nat.lt_of_le_of_ne apart.1 apart.2
  refine ⟨before, ?_⟩
  rw [← place, ← laterPlace] at before ⊢
  exact Grammar.tokens_stop_le_start inTokens laterInTokens notEnd before

/-- There is only one order of the reports by their places. -/
theorem eq_check_of_perm {options : CheckOptions} {reordered : List Diagnostic}
    (perm : reordered.Perm (check source index options).diagnostics)
    (sorted : reordered.Pairwise fun first second => first.span.start ≤ second.span.start) :
    reordered = (check source index options).diagnostics := by
  have ascending := check_ascending source index options
  refine perm.eq_of_pairwise (fun first second inFirst inSecond below above => ?_) sorted
    (ascending.imp fun apart => Nat.le_of_lt apart.1)
  have starts := nodup_starts_check source index options
  exact List.inj_on_of_nodup_map starts (perm.subset inFirst) inSecond (Nat.le_antisymm below above)

/-! ### Each check in the report -/

theorem filter_reports (source : String) (index : Index) (options : CheckOptions) :
    (faultReports source options.parseErrors ++
        supportReports source index options.baseline).filter (·.code = .parseError) =
      faultReports source options.parseErrors ∧
    (faultReports source options.parseErrors ++
        supportReports source index options.baseline).filter (·.code = .baselineCheck) =
      supportReports source index options.baseline := by
  have faults : ∀ diagnostic ∈ faultReports source options.parseErrors,
      diagnostic.code = .parseError := fun _ member => (of_mem_faultReports member).1
  have support : ∀ diagnostic ∈ supportReports source index options.baseline,
      diagnostic.code = .baselineCheck := fun _ member => (of_mem_supportReports member).1
  constructor
  · rw [List.filter_append, List.filter_eq_self.mpr fun diagnostic member => by
        simp [faults diagnostic member], List.filter_eq_nil_iff.mpr fun diagnostic member => by
        simp [support diagnostic member], List.append_nil]
  · rw [List.filter_append, List.filter_eq_nil_iff.mpr fun diagnostic member => by
        simp [faults diagnostic member], List.filter_eq_self.mpr fun diagnostic member => by
        simp [support diagnostic member], List.nil_append]

/-- **What is reported on unmatched braces** does not depend on the rule on support. -/
@[simp]
theorem filter_parseError_check (source : String) (index : Index) (options : CheckOptions) :
    (check source index options).diagnostics.filter (·.code = .parseError) =
      faultReports source options.parseErrors := by
  have picked := (filter_reports source index options).1
  rw [diagnostics_check, filter_sortByKey, picked]
  rw [picked]
  exact (faultReports_ascending source options.parseErrors).imp Nat.le_of_lt

/-- **What is reported on support** does not depend on whether unmatched braces are reported. -/
@[simp]
theorem filter_baselineCheck_check (source : String) (index : Index) (options : CheckOptions) :
    (check source index options).diagnostics.filter (·.code = .baselineCheck) =
      supportReports source index options.baseline := by
  have picked := (filter_reports source index options).2
  rw [diagnostics_check, filter_sortByKey, picked]
  rw [picked]
  exact (supportReports_ascending source index options.baseline).imp Nat.le_of_lt

end Source

/-! ### The severity of the rule on support -/

/-- A diagnostic as it is when the rule on support has the given severity. -/
def Diagnostic.withSupportSeverity (severity : Severity) (diagnostic : Diagnostic) : Diagnostic :=
  if diagnostic.code = .baselineCheck then { diagnostic with severity := severity } else diagnostic

@[simp]
theorem span_withSupportSeverity (severity : Severity) (diagnostic : Diagnostic) :
    (diagnostic.withSupportSeverity severity).span = diagnostic.span := by
  rw [Diagnostic.withSupportSeverity]
  split <;> rfl

theorem diagnose?_withSupportSeverity (index : Index) (severity other : Severity)
    (declaration : Declaration) :
    diagnose? index other declaration =
      (diagnose? index severity declaration).map (Diagnostic.withSupportSeverity other) := by
  rw [diagnose?, diagnose?, Option.map_map]
  rfl

theorem reports_withSupportSeverity (source : String) (index : Index) (severity other : Severity)
    (parseErrors : Bool) :
    (faultReports source parseErrors ++ supportReports source index (some severity)).map
        (Diagnostic.withSupportSeverity other) =
      faultReports source parseErrors ++ supportReports source index (some other) := by
  have faults : (faultReports source parseErrors).map (Diagnostic.withSupportSeverity other) =
      faultReports source parseErrors := by
    have kept : ∀ diagnostic ∈ faultReports source parseErrors,
        diagnostic.withSupportSeverity other = diagnostic := by
      intro diagnostic member
      have notSupport : diagnostic.code ≠ .baselineCheck := by
        rw [(of_mem_faultReports member).1]
        decide
      exact if_neg notSupport
    rw [List.map_congr_left kept, List.map_id']
  have support : (supportReports source index (some severity)).map
      (Diagnostic.withSupportSeverity other) = supportReports source index (some other) := by
    rw [supportReports, supportReports, diagnostics_supportFindings, diagnostics_supportFindings,
      List.map_filterMap]
    simp only [diagnose?_withSupportSeverity index severity other]
  rw [List.map_append, faults, support]

/-- The severity of the rule on support shows in its own reports and nowhere else. -/
theorem check_withSupportSeverity (source : String) (index : Index) (severity other : Severity)
    (parseErrors : Bool) :
    check source index ⟨some other, parseErrors⟩ =
      ⟨(check source index ⟨some severity, parseErrors⟩).diagnostics.map
          (Diagnostic.withSupportSeverity other),
        (check source index ⟨some severity, parseErrors⟩).statistics⟩ := by
  have keeps : ∀ diagnostic : Diagnostic,
      (diagnostic.withSupportSeverity other).span.start = diagnostic.span.start :=
    fun diagnostic => by rw [span_withSupportSeverity]
  have diagnostics : (check source index ⟨some other, parseErrors⟩).diagnostics =
      (check source index ⟨some severity, parseErrors⟩).diagnostics.map
        (Diagnostic.withSupportSeverity other) := by
    rw [diagnostics_check, diagnostics_check, map_sortByKey keeps, reports_withSupportSeverity]
  have statistics : (check source index ⟨some other, parseErrors⟩).statistics =
      (check source index ⟨some severity, parseErrors⟩).statistics := by
    rw [check, check]
    exact (statistics_supportFindings index _ other).trans
      (statistics_supportFindings index _ severity).symm
  rw [← diagnostics, ← statistics]

/-! ### The options -/

/-- There are two codes only. -/
theorem filter_code_ne (diagnostics : List Diagnostic) :
    diagnostics.filter (·.code ≠ .parseError) = diagnostics.filter (·.code = .baselineCheck) ∧
      diagnostics.filter (·.code ≠ .baselineCheck) = diagnostics.filter (·.code = .parseError) := by
  constructor <;> refine List.filter_congr fun diagnostic _ => ?_ <;>
    cases diagnostic.code <;> rfl

theorem severity_of_parseError {source : String} {index : Index} {options : CheckOptions}
    {diagnostic : Diagnostic} (member : diagnostic ∈ (check source index options).diagnostics)
    (isFault : diagnostic.code = .parseError) : diagnostic.severity = .error := by
  have reported : diagnostic ∈ (check source index options).diagnostics.filter
      (·.code = .parseError) := List.mem_filter.mpr ⟨member, decide_eq_true isFault⟩
  rw [filter_parseError_check] at reported
  exact (of_mem_faultReports reported).2.1

/-- Not to ask for unmatched braces takes away the reports on them and no other. -/
theorem check_without_parseErrors (source : String) (index : Index) (baseline : Option Severity) :
    (check source index ⟨baseline, false⟩).diagnostics =
      (check source index ⟨baseline, true⟩).diagnostics.filter (·.code ≠ .parseError) := by
  have onlySupport : ∀ diagnostic ∈ (check source index ⟨baseline, false⟩).diagnostics,
      diagnostic.code = .baselineCheck := by
    intro diagnostic member
    rcases code_of_mem_check member with isFault | isSupport
    · exact absurd isFault.2 Bool.false_ne_true
    · exact isSupport.1
  rw [(filter_code_ne _).1, filter_baselineCheck_check,
    ← filter_baselineCheck_check source index ⟨baseline, false⟩]
  exact (List.filter_eq_self.mpr fun diagnostic member =>
    decide_eq_true (onlySupport diagnostic member)).symm

/-- To turn the rule on support off takes away its reports and no other. -/
theorem check_without_baseline (source : String) (index : Index) (severity : Severity)
    (parseErrors : Bool) :
    (check source index ⟨none, parseErrors⟩).diagnostics =
      (check source index ⟨some severity, parseErrors⟩).diagnostics.filter
        (·.code ≠ .baselineCheck) := by
  have onlyFaults : ∀ diagnostic ∈ (check source index ⟨none, parseErrors⟩).diagnostics,
      diagnostic.code = .parseError := by
    intro diagnostic member
    rcases code_of_mem_check member with isFault | isSupport
    · exact isFault.1
    · exact absurd rfl isSupport.2
  rw [(filter_code_ne _).2, filter_parseError_check,
    ← filter_parseError_check source index ⟨none, parseErrors⟩]
  exact (List.filter_eq_self.mpr fun diagnostic member =>
    decide_eq_true (onlyFaults diagnostic member)).symm

/-- **The two checks are independent of each other.** Whatever the options, the reports stand in
the order of the source, at different places and without overlap, so that no other order by place is
possible. Each check finds there what it reports by itself, and that does not depend on the other
one; the severity that is asked for shows in the reports on support alone; to turn a check off takes
away its reports and no other. -/
theorem check_independent (source : String) (index : Index) :
    let report := fun options => (check source index options).diagnostics
    (∀ options, (report options).Pairwise fun first second =>
      first.span.start < second.span.start ∧ first.span.stop ≤ second.span.start) ∧
    (∀ options reordered, reordered.Perm (report options) →
      (reordered.Pairwise fun first second => first.span.start ≤ second.span.start) →
        reordered = report options) ∧
    (∀ options,
      (report options).filter (·.code = .parseError) = faultReports source options.parseErrors ∧
      (report options).filter (·.code = .baselineCheck) =
        supportReports source index options.baseline) ∧
    (∀ baseline other, (report ⟨baseline, true⟩).filter (·.code = .parseError) =
      (report ⟨other, true⟩).filter (·.code = .parseError)) ∧
    (∀ baseline parseErrors other,
      (report ⟨baseline, parseErrors⟩).filter (·.code = .baselineCheck) =
        (report ⟨baseline, other⟩).filter (·.code = .baselineCheck)) ∧
    (∀ severity other parseErrors, check source index ⟨some other, parseErrors⟩ =
      ⟨(report ⟨some severity, parseErrors⟩).map (Diagnostic.withSupportSeverity other),
        (check source index ⟨some severity, parseErrors⟩).statistics⟩) ∧
    (∀ options, ∀ diagnostic ∈ report options,
      diagnostic.code = .parseError → diagnostic.severity = .error) ∧
    (∀ baseline, report ⟨baseline, false⟩ =
      (report ⟨baseline, true⟩).filter (·.code ≠ .parseError)) ∧
    (∀ severity parseErrors, report ⟨none, parseErrors⟩ =
      (report ⟨some severity, parseErrors⟩).filter (·.code ≠ .baselineCheck)) := by
  intro report
  refine ⟨check_ascending source index, fun options reordered => eq_check_of_perm, ?_, ?_, ?_,
    check_withSupportSeverity source index, fun options diagnostic => severity_of_parseError,
    check_without_parseErrors source index, check_without_baseline source index⟩
  · intro options
    exact ⟨filter_parseError_check source index options,
      filter_baselineCheck_check source index options⟩
  · intro baseline other
    rw [filter_parseError_check, filter_parseError_check]
  · intro baseline parseErrors other
    rw [filter_baselineCheck_check, filter_baselineCheck_check]

end StyleBaseline
