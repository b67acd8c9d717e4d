/-
**Checking in any letter case.** Two texts that differ in letter case only have the same tokens.
Names are looked up in lower case, and so they are shown; lines and columns do not depend on
letters. What is reported on the two texts is thus the same.

* `positionBehind_sameButCase` — lines and columns.
* `declarations_inLowerCase` — the declarations, with their names in lower case.
* `diagnostics_faults_sameButCase` — the reports on unmatched braces.
* `check_sameButCase` — all that is found, declared and reported.
-/

import StyleBaseline.Proofs.Report.SupportDiagnostics
import StyleBaseline.Proofs.Stylesheet.CaseBlindness
import StyleBaseline.Proofs.Stylesheet.DeclarationPlaces
import StyleBaseline.Proofs.Stylesheet.UnmatchedBraces

namespace StyleBaseline

/-! ### Lines and columns -/

theorem positionBehind_sameButCase {before other : List Char} (same : SameButCase before other) :
    positionBehind before = positionBehind other := by
  have noLetter : ¬ '\n'.isAlpha := by decide
  have columns : (lastLine before).length = (lastLine other).length := by
    rw [lastLine, lastLine, List.length_reverse, List.length_reverse]
    exact (same.reverse.takeWhile_ne noLetter).length_eq
  rw [positionBehind, positionBehind, same.count_eq noLetter, columns]

section Texts

variable {first second : String}

/-- A token begins at the same line and column. -/
theorem position?_sameButCase (same : SameButCase first.toList second.toList) {token : Token}
    (member : token ∈ tokens first) :
    (LineTable.ofText first).position? token.span.start =
      (LineTable.ofText second).position? token.span.start := by
  obtain ⟨before, word, after, split, span, _⟩ := (Grammar.tokens_tokenised first).place member
  rw [split] at same
  obtain ⟨otherBefore, _, otherSplit, sameBefore, _⟩ := same.append_split
  have start : token.span.start = byteLength before := by
    rw [span]
    exact Nat.zero_add _
  have firstPlace := position?_of_split split
  have secondPlace := position?_of_split otherSplit
  rw [← sameBefore.byteLength_eq, ← positionBehind_sameButCase sameBefore] at secondPlace
  rw [start, firstPlace, secondPlace]

/-! ### Declarations -/

/-- A declaration as the check looks at it: its name counts in lower case. -/
def Declaration.inLowerCase (declaration : Declaration) : Declaration :=
  { declaration with property := lowercase declaration.property }

theorem declarationAt_inLowerCase (same : SameButCase first.toList second.toList) {span : Span}
    (member : span ∈ Scanner.initial.declared (tokens first)) :
    (Outline.declarationAt first (LineTable.ofText first) span).inLowerCase =
      (Outline.declarationAt second (LineTable.ofText second) span).inLowerCase := by
  obtain ⟨before, word, after, split, rfl, isName⟩ := exists_split_of_mem_declared member
  rw [split] at same
  obtain ⟨otherBefore, _, otherSplit, sameBefore, sameBehind⟩ := same.append_split
  obtain ⟨otherWord, otherAfter, rfl, sameWord, _⟩ := sameBehind.append_split
  have isOtherName : otherWord ∈ Grammar.words .ident := Grammar.caseBlind_words _ sameWord isName
  have name : lowercase (String.ofList word) = lowercase (String.ofList otherWord) := by
    rw [← String.toList_inj, Grammar.toList_lowercase_name (by rwa [String.toList_ofList]),
      Grammar.toList_lowercase_name (by rwa [String.toList_ofList]), String.toList_ofList,
      String.toList_ofList]
    exact sameWord
  have place : spanOf before word = spanOf otherBefore otherWord := by
    rw [spanOf, spanOf, sameBefore.byteLength_eq, sameWord.byteLength_eq]
  rw [declarationAt_of_split split]
  rw [place, declarationAt_of_split otherSplit]
  rw [Declaration.inLowerCase, Declaration.inLowerCase, name, positionBehind_sameButCase sameBefore]

/-- **The declarations** are at the same places, and their names in lower case are the same. -/
theorem declarations_inLowerCase (same : SameButCase first.toList second.toList) :
    (Outline.ofSource first).declarations.map Declaration.inLowerCase =
      (Outline.ofSource second).declarations.map Declaration.inLowerCase := by
  rw [Outline.ofSource, Outline.ofSource, List.map_map, List.map_map,
    ← Grammar.tokens_sameButCase same]
  exact List.map_congr_left fun span member => declarationAt_inLowerCase same member

/-! ### Reports -/

/-- The rule on support looks at the name in lower case only. -/
theorem diagnose?_factorsThrough (index : Index) (severity : Severity) :
    (diagnose? index severity).FactorsThrough Declaration.inLowerCase := by
  intro declaration other same
  obtain ⟨property, span, line, column⟩ := declaration
  obtain ⟨otherProperty, otherSpan, otherLine, otherColumn⟩ := other
  obtain ⟨name, rfl, rfl, rfl⟩ := Declaration.mk.inj same
  have name : lowercase property = lowercase otherProperty := name
  simp only [diagnose?, name]

theorem supportFindings_sameButCase (same : SameButCase first.toList second.toList)
    (index : Index) (baseline : Option Severity) :
    supportFindings index (Outline.ofSource first) baseline =
      supportFindings index (Outline.ofSource second) baseline := by
  cases baseline with
  | none => rfl
  | some severity =>
      -- What is reported on a declaration is a function of its form in lower case.
      obtain ⟨report, factors⟩ :=
        (Function.factorsThrough_iff _).mp (diagnose?_factorsThrough index severity)
      have diagnostics : (supportFindings index (Outline.ofSource first) severity).diagnostics =
          (supportFindings index (Outline.ofSource second) severity).diagnostics := by
        rw [diagnostics_supportFindings, diagnostics_supportFindings, factors, ← List.filterMap_map,
          ← List.filterMap_map, declarations_inLowerCase same]
      have statistics := (statistics_supportFindings index (Outline.ofSource first) severity).trans
        (statistics_supportFindings index (Outline.ofSource second) severity).symm
      exact congrArg₂ Findings.mk diagnostics statistics

theorem faults_sameButCase (same : SameButCase first.toList second.toList) :
    (Outline.ofSource first).faults = (Outline.ofSource second).faults := by
  rw [Outline.ofSource, Outline.ofSource, Grammar.tokens_sameButCase same]

theorem diagnostics_faults_sameButCase (same : SameButCase first.toList second.toList) :
    (Outline.ofSource first).faults.map (BlockFault.diagnostic (LineTable.ofText first)) =
      (Outline.ofSource second).faults.map (BlockFault.diagnostic (LineTable.ofText second)) := by
  rw [← faults_sameButCase same]
  refine List.map_congr_left fun fault member => ?_
  obtain ⟨token, inTokens, _, place⟩ := exists_brace_of_mem_faults member
  have position := position?_sameButCase same inTokens
  rw [place] at position
  rw [BlockFault.diagnostic, BlockFault.diagnostic, position]

/-- **Letter case does not matter.** Two texts that are the same in lower case have the same tokens,
the same declarations but for the case of their names, the same unmatched braces, and the same
report, whatever is asked for. -/
theorem check_sameButCase (same : first.toLower = second.toLower) :
    tokens first = tokens second ∧
    (Outline.ofSource first).declarations.map Declaration.inLowerCase =
      (Outline.ofSource second).declarations.map Declaration.inLowerCase ∧
    (Outline.ofSource first).faults = (Outline.ofSource second).faults ∧
    ∀ index options, check first index options = check second index options := by
  have same : SameButCase first.toList second.toList := toLower_eq_toLower_iff.mp same
  refine ⟨Grammar.tokens_sameButCase same, declarations_inLowerCase same, faults_sameButCase same,
    fun index options => ?_⟩
  rw [check, check, supportFindings_sameButCase same, diagnostics_faults_sameButCase same]

theorem check_sameButCase_shouted :
    let first := "A\x7bBackGround:URL(X)\x7d\x7d"
    let second := "a\x7bbackground:url(x)\x7d\x7d"
    first.toLower = second.toLower ∧
    tokens first = tokens second ∧
    (Outline.ofSource first).declarations.map Declaration.inLowerCase =
      (Outline.ofSource second).declarations.map Declaration.inLowerCase ∧
    (Outline.ofSource first).faults = (Outline.ofSource second).faults ∧
    ∀ index options, check first index options = check second index options := by
  intro first second
  have same : first.toLower = second.toLower := toLower_eq_toLower_iff.mpr (by decide)
  exact ⟨same, check_sameButCase same⟩

end Texts

end StyleBaseline
