/-
**Lines for programs.** A diagnostic is meant to take one line in the form for programs. Whatever the
check writes itself, and the names of properties, stay on one line; names of features are written as
the database has them, with the line feeds in them.

* `Diagnostic.machineRecord` — the line of a diagnostic, without its end.
* `namesShown` — the names of features that are written in a report.
* `lineFeeds_supportText` — where line feeds in a message come from.
* `splitOn_lines` — when lines can be told apart.
* `machineText_lines` — the lines of a report.
-/

import StyleBaseline.Proofs.Report.Independence
import StyleBaseline.Proofs.Text.Lines
import StyleBaseline.Report.Rendering

namespace StyleBaseline

/-! ### Lines -/

section Lines

variable {α : Type} [BEq α] [LawfulBEq α]

theorem count_lines (a : α) (lines : List (List α)) :
    (lines.flatMap (· ++ [a])).count a = lines.length + (lines.map (List.count a)).sum := by
  induction lines with
  | nil => rfl
  | cons line lines ih =>
      rw [List.flatMap_cons, List.count_append, List.count_append, List.count_singleton_self, ih,
        List.length_cons, List.map_cons, List.sum_cons]
      omega

/-- **Lines can be told apart** if and only if the sign at their ends stands in none of them. -/
theorem splitOn_lines (a : α) (lines : List (List α)) :
    (lines.flatMap (· ++ [a])).splitOn a = lines ++ [[]] ↔ (lines.map (List.count a)).sum = 0 := by
  constructor
  · intro apart
    have lengths := congrArg List.length apart
    rw [length_splitOn, count_lines, List.length_append, List.length_singleton] at lengths
    omega
  · intro single
    induction lines with
    | nil => rfl
    | cons line lines ih =>
        rw [List.map_cons, List.sum_cons, Nat.add_eq_zero_iff] at single
        have notInside : a ∉ line := List.count_eq_zero.mp single.1
        rw [List.flatMap_cons, List.append_assoc, List.singleton_append,
          List.splitOn_append_cons_self, List.splitOn_eq_singleton notInside, ih single.2]
        rfl

end Lines

/-! ### Line feeds -/

/-- The number of line feeds in a text. -/
def lineFeeds (text : String) : Nat :=
  text.toList.count '\n'

@[simp]
theorem lineFeeds_append (first second : String) :
    lineFeeds (first ++ second) = lineFeeds first + lineFeeds second := by
  rw [lineFeeds, String.toList_append, List.count_append]
  rfl

theorem lineFeeds_eq_zero {text : String} : lineFeeds text = 0 ↔ '\n' ∉ text.toList :=
  List.count_eq_zero

@[simp]
theorem lineFeeds_toString (n : Nat) : lineFeeds (toString n) = 0 := by
  rw [lineFeeds_eq_zero]
  exact fun member => absurd (isDigit_of_mem_toString member) (by decide)

theorem lineFeeds_intercalate {separator : String} (noFeed : lineFeeds separator = 0)
    (texts : List String) :
    lineFeeds (separator.intercalate texts) = (texts.map lineFeeds).sum := by
  rw [lineFeeds, String.toList_intercalate]
  induction texts with
  | nil => rfl
  | cons text texts ih =>
      cases texts with
      | nil => exact congrArg (List.count '\n') List.intercalate_singleton
      | cons other others =>
          rw [List.map_cons, List.map_cons, List.intercalate_cons_cons, List.count_append,
            List.count_append, ← List.map_cons, ih]
          show lineFeeds text + lineFeeds separator + _ = _
          rw [noFeed, Nat.add_zero]
          rfl

/-- The name of a property is on one line. -/
theorem lineFeeds_lowercase_name {name : String} (isName : name.toList ∈ Grammar.words .ident) :
    lineFeeds (lowercase name) = 0 := by
  rw [lineFeeds_eq_zero, Grammar.toList_lowercase_name isName, List.mem_map]
  rintro ⟨c, member, isFeed⟩
  have code := ((Grammar.name_shape isName).2 c member).code
  rw [← Char.toNat_inj, toNat_toLower, show '\n'.toNat = 10 from rfl] at isFeed
  split at isFeed <;> omega

/-! ### The names that are shown -/

/-- The features that are named when support is wanting: those of the lower tier, and if there are
none, all. -/
def namedFeatures (features : List (String × Feature)) : List (String × Feature) :=
  if ∃ entry ∈ features, entry.2.tier = .low then features.filter (·.2.tier = .low) else features

/-- A wording into which a property and a list of names are put. -/
theorem lineFeeds_wording {opening between closing property : String} (names : List String)
    (wording : lineFeeds opening = 0 ∧ lineFeeds between = 0 ∧ lineFeeds closing = 0)
    (noFeed : lineFeeds property = 0) :
    lineFeeds (opening ++ property ++ between ++ ", ".intercalate names ++ closing) =
      (names.map lineFeeds).sum := by
  obtain ⟨inOpening, inBetween, inClosing⟩ := wording
  have inComma : lineFeeds ", " = 0 := by decide
  simp [lineFeeds_intercalate inComma, inOpening, inBetween, inClosing, noFeed]

/-- **Line feeds in a message** are those in the names of features. -/
theorem lineFeeds_supportText {property : String} (noFeed : lineFeeds property = 0)
    (features : List (String × Feature)) :
    lineFeeds (supportText property features) =
      ((displayNames (namedFeatures features)).map lineFeeds).sum := by
  rw [supportText, namedFeatures]
  split
  · exact lineFeeds_wording _ (by decide) noFeed
  · exact lineFeeds_wording _ (by decide) noFeed

/-- The declarations of a source whose support is wanting. -/
def wantingDeclarations (database : Database) (source : String) : List Declaration :=
  (Outline.ofSource source).declarations.filter fun declaration =>
    SupportWanting (database.featuresAt (lowercase declaration.property))

/-- The names of features that are written for a declaration. -/
def namesShownFor (database : Database) (declaration : Declaration) : List String :=
  displayNames (namedFeatures (database.featuresAt (lowercase declaration.property)))

/-- The names of features that are written in a report, if the rule on support is on. -/
def namesShown (database : Database) (source : String) (options : CheckOptions) : List String :=
  match options.baseline with
  | none => []
  | some _ => (wantingDeclarations database source).flatMap (namesShownFor database)

/-- A name that is shown is that of a feature of the database, or its key if it has no name. -/
theorem exists_feature_of_mem_namesShown {database : Database} {source : String}
    {options : CheckOptions} {name : String} (shown : name ∈ namesShown database source options) :
    ∃ entry ∈ database.features.entries, name = entry.2.name.getD entry.1 := by
  unfold namesShown at shown
  split at shown
  · exact absurd shown List.not_mem_nil
  · obtain ⟨declaration, _, inNames⟩ := List.mem_flatMap.mp shown
    obtain ⟨entry, named, rfl⟩ := List.mem_map.mp inNames
    have behind : entry ∈ database.featuresAt (lowercase declaration.property) := by
      unfold namedFeatures at named
      split at named
      · exact List.mem_of_mem_filter named
      · exact named
    exact ⟨entry, List.mem_of_mem_filter behind, rfl⟩

/-! ### The lines of a report -/

namespace Diagnostic

/-- What the line of a diagnostic begins with: its severity and its place. -/
def machineFront (path : String) (diagnostic : Diagnostic) : String :=
  (match diagnostic.severity with
    | .warning => "WARNING "
    | .error => "ERROR ")
    ++ path ++ ":" ++ toString diagnostic.line ++ ":" ++ toString diagnostic.column ++ " "

/-- The line of a diagnostic, without the line feed at its end. -/
def machineRecord (path : String) (diagnostic : Diagnostic) : String :=
  diagnostic.machineFront path ++ diagnostic.message ++ " (" ++ diagnostic.code.text ++ ")"

theorem machineText_eq (path : String) (diagnostic : Diagnostic) :
    diagnostic.machineText path = diagnostic.machineRecord path ++ "\n" := by
  obtain ⟨code, severity, message, span, line, column⟩ := diagnostic
  rw [← String.toList_inj]
  cases severity <;>
    simp [machineText, machineRecord, machineFront, machineWord, placeText]

theorem machineFront_prefix (path : String) (diagnostic : Diagnostic) :
    (diagnostic.machineFront path).toList <+: (diagnostic.machineRecord path).toList := by
  rw [machineRecord, String.toList_append, String.toList_append, String.toList_append,
    String.toList_append, List.append_assoc, List.append_assoc, List.append_assoc]
  exact List.prefix_append _ _

/-- Only the message can take a diagnostic over the end of its line. -/
theorem lineFeeds_machineRecord {path : String} (noFeed : lineFeeds path = 0)
    (diagnostic : Diagnostic) :
    lineFeeds (diagnostic.machineRecord path) = lineFeeds diagnostic.message := by
  have front : lineFeeds (diagnostic.machineFront path) = 0 := by
    rw [machineFront]
    simp only [lineFeeds_append, lineFeeds_toString, noFeed]
    cases diagnostic.severity <;> decide
  have code : lineFeeds diagnostic.code.text = 0 := by
    cases diagnostic.code <;> decide
  simp only [machineRecord, lineFeeds_append, front, code]
  rw [show lineFeeds " (" = 0 by decide, show lineFeeds ")" = 0 by decide]
  omega

end Diagnostic

theorem toList_machineText (path : String) (diagnostics : List Diagnostic) :
    (machineText path diagnostics).toList =
      (diagnostics.map fun diagnostic => (diagnostic.machineRecord path).toList).flatMap
        (· ++ ['\n']) := by
  rw [machineText, String.toList_join, List.flatMap_map, List.flatMap_map]
  refine List.flatMap_congr fun diagnostic _ => ?_
  rw [Diagnostic.machineText_eq, String.toList_append]
  rfl

/-- The line feeds in the messages of a report are those in the names that are shown. -/
theorem sum_lineFeeds_check (database : Database) (source : String) (options : CheckOptions) :
    ((check source (Index.ofDatabase database) options).diagnostics.map
        fun diagnostic => lineFeeds diagnostic.message).sum =
      ((namesShown database source options).map lineFeeds).sum := by
  let feeds (diagnostic : Diagnostic) : Nat := lineFeeds diagnostic.message
  have faults : ((faultReports source options.parseErrors).map feeds).sum = 0 := by
    rw [List.sum_eq_zero_iff_forall_eq_nat, List.forall_mem_map]
    intro diagnostic member
    unfold faultReports at member
    split at member
    · obtain ⟨fault, _, rfl⟩ := List.mem_map.mp member
      show lineFeeds fault.kind.message = 0
      cases fault.kind <;> decide
    · exact absurd member List.not_mem_nil
  have support : ((supportReports source (Index.ofDatabase database) options.baseline).map
      feeds).sum = ((namesShown database source options).map lineFeeds).sum := by
    unfold namesShown
    cases options.baseline with
    | none => rfl
    | some severity =>
        rw [supportReports, diagnostics_supportFindings, filterMap_diagnose?_ofDatabase,
          List.map_map, List.map_flatMap, List.flatMap_def, List.sum_flatten, List.map_map]
        refine congrArg List.sum (List.map_congr_left fun declaration member => ?_)
        have isName := property_mem_words (List.mem_of_mem_filter member)
        exact lineFeeds_supportText (lineFeeds_lowercase_name isName) _
  let reports := faultReports source options.parseErrors ++
    supportReports source (Index.ofDatabase database) options.baseline
  have reordered : ((sortByKey (·.span.start) reports).map feeds).Perm (reports.map feeds) :=
    (sortByKey_perm reports).map feeds
  rw [diagnostics_check, reordered.sum_eq, List.map_append, List.sum_append, faults, support,
    Nat.zero_add]

/-- **The lines of a report.** Its text is that of its records, each with a line feed behind it, and
each record begins with its severity and its place. There are as many line feeds as diagnostics, and
besides as many as the names have that are shown. So the records can be told apart if and only if
all these names are on one line, as they are if the database has no other ones. -/
theorem machineText_lines (database : Database) (source : String) (options : CheckOptions)
    {path : String} (singleLine : '\n' ∉ path.toList) :
    let diagnostics := (check source (Index.ofDatabase database) options).diagnostics
    let records := diagnostics.map fun diagnostic => (diagnostic.machineRecord path).toList
    let text := machineText path diagnostics
    let names := namesShown database source options
    text.toList = records.flatMap (· ++ ['\n']) ∧
    (∀ diagnostic ∈ diagnostics,
      (diagnostic.machineFront path).toList <+: (diagnostic.machineRecord path).toList) ∧
    lineFeeds text = diagnostics.length + (names.map lineFeeds).sum ∧
    (text.toList.splitOn '\n' = records ++ [[]] ↔ ∀ name ∈ names, lineFeeds name = 0) ∧
    ((∀ entry ∈ database.features.entries, lineFeeds (entry.2.name.getD entry.1) = 0) →
      text.toList.splitOn '\n' = records ++ [[]]) := by
  intro diagnostics records text names
  have inLines : text.toList = records.flatMap (· ++ ['\n']) := toList_machineText path diagnostics
  have feeds : (records.map (List.count '\n')).sum = (names.map lineFeeds).sum := by
    rw [← sum_lineFeeds_check, List.map_map]
    refine congrArg List.sum (List.map_congr_left fun diagnostic _ => ?_)
    rw [← diagnostic.lineFeeds_machineRecord (lineFeeds_eq_zero.mpr singleLine), lineFeeds,
      Function.comp_apply]
  have apart : text.toList.splitOn '\n' = records ++ [[]] ↔ ∀ name ∈ names, lineFeeds name = 0 := by
    rw [inLines, splitOn_lines, feeds, List.sum_eq_zero_iff_forall_eq_nat, List.forall_mem_map]
  refine ⟨inLines, fun diagnostic _ => diagnostic.machineFront_prefix path, ?_, apart, ?_⟩
  · rw [lineFeeds, inLines, count_lines, feeds, List.length_map]
  · intro singleLines
    refine apart.mpr fun name shown => ?_
    obtain ⟨entry, inDatabase, rfl⟩ := exists_feature_of_mem_namesShown shown
    exact singleLines entry inDatabase

/-- A feature whose name goes over two lines. -/
def featureOnTwoLines : String :=
  "\x7b\"features\":\x7b\"a\":\x7b\"name\":\"A\\nB\"," ++
    "\"compat_features\":[\"css.properties.x\"]\x7d\x7d\x7d"

/-- The database with that feature. -/
def databaseOnTwoLines : Database :=
  ⟨Catalog.ofList [("a", ⟨some "A\nB", none, some ["css.properties.x"]⟩)]⟩

theorem ofText_featureOnTwoLines : Database.ofText featureOnTwoLines = .ok databaseOnTwoLines := by
  decide +kernel

theorem machineText_lines_onTwoLines :
    '\n' ∉ "a.css".toList ∧
    lineFeeds (machineText "a.css" (check "a\x7bx:y\x7d" (Index.ofDatabase databaseOnTwoLines)
      .default).diagnostics) = 2 := by
  have singleLine : '\n' ∉ "a.css".toList := by decide
  obtain ⟨_, _, feeds, _, _⟩ :=
    machineText_lines databaseOnTwoLines "a\x7bx:y\x7d" .default singleLine
  have counts : (check "a\x7bx:y\x7d" (Index.ofDatabase databaseOnTwoLines)
      .default).diagnostics.length = 1 ∧
      namesShown databaseOnTwoLines "a\x7bx:y\x7d" .default = ["A\nB"] := by
    decide +kernel
  rw [counts.1, counts.2] at feeds
  exact ⟨singleLine, feeds.trans (by decide)⟩

/-- One line for each diagnostic is not what a report always has: a name that goes over two lines
puts a line feed into its message. -/
theorem lineFeeds_ne_length_check :
    ¬ ∀ (text : String) (database : Database) (source : String) (options : CheckOptions)
      (path : String), Database.ofText text = .ok database → '\n' ∉ path.toList →
        let diagnostics := (check source (Index.ofDatabase database) options).diagnostics
        lineFeeds (machineText path diagnostics) = diagnostics.length := by
  intro each
  have equal := each featureOnTwoLines databaseOnTwoLines "a\x7bx:y\x7d" .default "a.css"
    ofText_featureOnTwoLines (by decide)
  exact absurd equal (by decide +kernel)

end StyleBaseline
