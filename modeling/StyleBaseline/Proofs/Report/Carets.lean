/-
**Carets.** In the long form for people a diagnostic comes with its line of the source, numbered,
and a caret on the line below. Line and column were counted when the diagnostic was made, and the
line is cut out of the source when it is shown, without the carriage return at its end; still the
caret stands under the first character of what is reported.

* `lineText?_of_split` — what is shown of the line of a place, and that a character there is kept.
* `exists_first_of_mem_check` — a report begins at a character that is not white space.
* `Snippet.PointsAt` — the two lines, and when the caret is in its place.
* `verboseText_pointsAt` — it is, for every report.
-/

import StyleBaseline.Proofs.Report.Locations
import StyleBaseline.Proofs.Text.Lines
import StyleBaseline.Report.Rendering

namespace StyleBaseline

/-! ### The line of a place -/

/-- A carriage return is left out only behind all other characters. -/
theorem dropFinalReturn_append_cons {c : Char} (noReturn : c ≠ '\r') (front rest : List Char) :
    dropFinalReturn (front ++ c :: rest) = front ++ c :: dropFinalReturn rest := by
  unfold dropFinalReturn
  cases rest with
  | nil =>
      have last : (front ++ [c]).getLast? ≠ some '\r' := by
        rw [List.getLast?_concat]
        exact fun isReturn => noReturn (Option.some.inj isReturn)
      rw [if_neg last]
      rfl
  | cons d rest =>
      have last : (front ++ c :: d :: rest).getLast? = (d :: rest).getLast? := by
        rw [List.getLast?_append_of_ne_nil _ (List.cons_ne_nil c _), List.getLast?_cons_cons]
      rw [last]
      split
      · rw [List.dropLast_append_of_ne_nil (List.cons_ne_nil c _),
          List.dropLast_cons_of_ne_nil (List.cons_ne_nil d rest)]
      · rfl

/-- **The line of a place** in front of a character that ends no line: it is shown with all that
stands before the place and with this character. -/
theorem lineText?_of_split {text : String} {before after : List Char} {c : Char}
    (split : text.toList = before ++ c :: after) (noFeed : c ≠ '\n') (noReturn : c ≠ '\r') :
    ∃ piece rest, (text.toList.splitOn '\n')[before.count '\n']? = some piece ∧ '\n' ∉ piece ∧
      ShownAs piece (lastLine before ++ c :: rest) ∧
      (LineTable.ofText text).lineText? (positionBehind before).line =
        some (String.ofList (lastLine before ++ c :: rest)) := by
  obtain ⟨_, _, isLine⟩ := getElem?_lines_of_split split
  have found := getElem?_splitOn isLine
  have free : '\n' ∉ lastLine before ++ firstLine (c :: after) := by
    rw [List.mem_append]
    exact not_or.mpr ⟨lastLine_noFeed before, firstLine_noFeed _⟩
  have shown := shownAs_dropFinalReturn (lastLine before ++ firstLine (c :: after))
  have isShown := lineText?_eq_some found
  rw [firstLine_cons_of_ne noFeed] at found free shown isShown
  rw [dropFinalReturn_append_cons noReturn] at shown isShown
  exact ⟨_, _, found, free, shown, isShown⟩

/-- What is shown of a line stands on it. -/
theorem ShownAs.subset {piece shown : List Char} (isShown : ShownAs piece shown) :
    shown ⊆ piece := by
  rcases isShown with rfl | ⟨rfl, _⟩
  · exact List.subset_append_left shown ['\r']
  · exact List.Subset.refl piece

/-! ### Where reports begin -/

/-- **A report begins at a character** that is not white space, and has its line and column. -/
theorem exists_first_of_mem_check {source : String} {index : Index} {options : CheckOptions}
    {diagnostic : Diagnostic} (member : diagnostic ∈ (check source index options).diagnostics) :
    ∃ before c after, source.toList = before ++ c :: after ∧ ¬ Grammar.Spacing c ∧
      byteLength before = diagnostic.span.start ∧
      positionBehind before = ⟨diagnostic.line, diagnostic.column⟩ := by
  obtain ⟨token, inTokens, notEnd, place⟩ := exists_token_of_mem_check member
  obtain ⟨before, word, after, split, span, kinds⟩ :=
    (Grammar.tokens_tokenised source).place inTokens
  obtain ⟨c, rest, rfl, visible⟩ :=
    Grammar.words_visible (kinds.resolve_left fun ending => notEnd ending.1)
  have start : byteLength before = diagnostic.span.start := by
    rw [← place, span, Nat.zero_add]
  refine ⟨before, c, rest ++ after, split, visible, start, ?_⟩
  obtain ⟨_, takes, _⟩ := takesWord_of_mem_check member
  have found := takes.located.found
  rw [← start, position?_of_split split] at found
  exact Option.some.inj found

/-! ### Two lines -/

/-- What stands between the number of a line and the line. -/
def gutterSign : List Char :=
  [' ', '|', ' ']

/-- **A line of the source and the line below it**, taken apart at the place that is shown. -/
structure Snippet where
  /-- What stands before the sign on the first line. -/
  gutter : List Char
  before : List Char
  first : Char
  rest : List Char
  /-- What stands before the sign on the second line. -/
  margin : List Char
  padding : List Char
deriving Inhabited

namespace Snippet

/-- The first line. -/
def sourceLine (snippet : Snippet) : List Char :=
  snippet.gutter ++ gutterSign ++ snippet.before ++ snippet.first :: snippet.rest

/-- The second line. -/
def caretLine (snippet : Snippet) : List Char :=
  snippet.margin ++ gutterSign ++ snippet.padding ++ ['^']

/-- Both lines, with their ends. -/
def text (snippet : Snippet) : List Char :=
  snippet.sourceLine ++ '\n' :: snippet.caretLine ++ ['\n']

/-- **The caret is in its place.** The sign comes first on both lines and equally far on the right.
Behind it stands, on the first line, the line of the source without a carriage return at its end; it
is split in front of the character at the offset, and what is before that is all that stands on the
line before the offset. The first caret on the second line has as many characters before it as this
character has on the first. -/
structure PointsAt (snippet : Snippet) (source : String) (offset : Nat) : Prop where
  oneLine : '\n' ∉ snippet.sourceLine ∧ '\n' ∉ snippet.caretLine
  signFirst : '|' ∉ snippet.gutter ∧ '|' ∉ snippet.margin
  sameMargin : snippet.gutter.length = snippet.margin.length
  atOffset : ∃ front after, source.toList = front ++ snippet.first :: after ∧
    byteLength front = offset ∧ lastLine front = snippet.before ∧
    ∃ piece, (source.toList.splitOn '\n')[front.count '\n']? = some piece ∧
      ShownAs piece (snippet.before ++ snippet.first :: snippet.rest)
  aligned : snippet.caretLine.idxOf '^' = (snippet.gutter ++ gutterSign ++ snippet.before).length

end Snippet

/-! ### The lines of a report -/

@[simp]
theorem toList_repeated_space (count : Nat) :
    (repeated count " ").toList = List.replicate count ' ' := by
  rw [repeated, String.toList_join, List.flatMap_replicate]
  exact List.flatten_replicate_singleton

/-- The two lines for a place, by the number of the line and its parts. -/
def snippetOf (number : Nat) (before : List Char) (first : Char) (rest : List Char) : Snippet where
  gutter := [' ', ' '] ++ (toString number).toList
  before := before
  first := first
  rest := rest
  margin := [' ', ' '] ++ List.replicate (toString number).length ' '
  padding := List.replicate before.length ' '

/-- They are what is written for a diagnostic whose line and column are those of the place. -/
theorem toList_snippetText {table : LineTable} {diagnostic : Diagnostic}
    {before rest : List Char} {first : Char}
    (shown : table.lineText? diagnostic.line = some (String.ofList (before ++ first :: rest)))
    (column : diagnostic.column = before.length + 1) :
    (diagnostic.snippetText table).toList =
      (snippetOf diagnostic.line before first rest).text := by
  have padding : (repeated (diagnostic.column - 1) " ").toList =
      List.replicate before.length ' ' := by
    rw [column, Nat.add_sub_cancel, toList_repeated_space]
  have margin : (repeated (toString diagnostic.line).length " ").toList =
      List.replicate (toString diagnostic.line).length ' ' := toList_repeated_space _
  rw [Diagnostic.snippetText, shown]
  simp only [String.toList_append, margin, padding, String.toList_ofList]
  simp [Snippet.text, Snippet.sourceLine, Snippet.caretLine, snippetOf, gutterSign]

section SnippetOf

variable {number : Nat} {before rest : List Char} {first c : Char}

/-- Before the sign stand, on the first line, blanks and a number. -/
theorem not_mem_gutter (noBlank : c ≠ ' ') (noDigit : c.isDigit = false) :
    c ∉ (snippetOf number before first rest).gutter := by
  rw [snippetOf, List.mem_append]
  rintro (isBlank | isDigit)
  · simp [noBlank] at isBlank
  · exact Bool.false_ne_true (noDigit.symm.trans (isDigit_of_mem_toString isDigit))

/-- On the second line there are blanks before the sign. -/
theorem not_mem_margin (noBlank : c ≠ ' ') : c ∉ (snippetOf number before first rest).margin := by
  rw [snippetOf, List.mem_append]
  rintro (isBlank | isBlank)
  · simp [noBlank] at isBlank
  · exact noBlank (List.eq_of_mem_replicate isBlank)

/-- So up to the caret there are only blanks and the sign. -/
theorem not_mem_caretFront (noBlank : c ≠ ' ') (noSign : c ≠ '|') :
    c ∉ (snippetOf number before first rest).margin ++ gutterSign ++
      (snippetOf number before first rest).padding := by
  rw [List.mem_append, List.mem_append]
  rintro ((inMargin | inSign) | inPadding)
  · exact not_mem_margin noBlank inMargin
  · simp [gutterSign, noBlank, noSign] at inSign
  · exact noBlank (List.eq_of_mem_replicate inPadding)

theorem length_gutter_snippetOf :
    (snippetOf number before first rest).gutter.length =
      (snippetOf number before first rest).margin.length := by
  rw [snippetOf, List.length_append, List.length_append, List.length_replicate,
    String.length_toList]

end SnippetOf

/-- **The caret is in its place** when the two lines are those for the place behind `front`. -/
theorem pointsAt_snippetOf {source : String} {front after rest piece : List Char} {first : Char}
    (number : Nat) (split : source.toList = front ++ first :: after)
    (found : (source.toList.splitOn '\n')[front.count '\n']? = some piece)
    (free : '\n' ∉ piece) (shown : ShownAs piece (lastLine front ++ first :: rest)) :
    (snippetOf number (lastLine front) first rest).PointsAt source (byteLength front) where
  oneLine := by
    have onLine : '\n' ∉ lastLine front ++ first :: rest := fun member => free (shown.subset member)
    constructor
    · rw [Snippet.sourceLine, List.append_assoc, List.mem_append, List.mem_append]
      exact not_or.mpr ⟨not_or.mpr ⟨not_mem_gutter (by decide) (by decide), by decide⟩, onLine⟩
    · rw [Snippet.caretLine, List.mem_append]
      exact not_or.mpr ⟨not_mem_caretFront (by decide) (by decide), by decide⟩
  signFirst := ⟨not_mem_gutter (by decide) (by decide), not_mem_margin (by decide)⟩
  sameMargin := length_gutter_snippetOf
  atOffset := ⟨front, after, split, rfl, rfl, piece, found, shown⟩
  aligned := by
    rw [Snippet.caretLine,
      List.idxOf_append_of_notMem (not_mem_caretFront (by decide) (by decide)),
      List.idxOf_cons_self, Nat.add_zero]
    simp only [List.length_append, length_gutter_snippetOf]
    exact congrArg _ List.length_replicate

/-- **The two lines of a report.** -/
theorem exists_snippet_of_mem_check {source : String} {index : Index} {options : CheckOptions}
    {diagnostic : Diagnostic} (member : diagnostic ∈ (check source index options).diagnostics) :
    ∃ snippet : Snippet,
      (diagnostic.snippetText (LineTable.ofText source)).toList = snippet.text ∧
      snippet.gutter = ("  " ++ toString diagnostic.line).toList ∧
      snippet.PointsAt source diagnostic.span.start := by
  obtain ⟨before, c, after, split, visible, start, position⟩ := exists_first_of_mem_check member
  have noFeed : c ≠ '\n' := by
    rintro rfl
    exact visible (by decide)
  have noReturn : c ≠ '\r' := by
    rintro rfl
    exact visible (by decide)
  obtain ⟨piece, rest, found, free, shown, isText⟩ := lineText?_of_split split noFeed noReturn
  rw [position] at isText
  have column : diagnostic.column = (lastLine before).length + 1 :=
    (congrArg Position.column position).symm
  refine ⟨snippetOf diagnostic.line (lastLine before) c rest, toList_snippetText isText column,
    ?_, ?_⟩
  · rw [String.toList_append]
    rfl
  · rw [← start]
    exact pointsAt_snippetOf diagnostic.line split found free shown

/-- The lines with place and message end in a line feed. -/
theorem getLast?_headText (path : String) (diagnostic : Diagnostic) :
    (diagnostic.headText path).toList.getLast? = some '\n' := by
  rw [Diagnostic.headText, String.toList_append, List.getLast?_append_of_ne_nil _ (by decide)]
  rfl

/-- **Every report has its caret.** The long form for people shows each diagnostic with two lines,
between the lines that name its place and message, which end in a line feed, and what is said of its
rule. The first has the number of the line and the line of the source, the second a caret, and the
caret is under the first character of the span. -/
theorem verboseText_pointsAt (source : String) (index : Index) (options : CheckOptions)
    (path : String) :
    let diagnostics := (check source index options).diagnostics
    ∃ snippet : Diagnostic → Snippet,
      (verboseText path source diagnostics).toList =
        diagnostics.flatMap (fun diagnostic => (diagnostic.headText path).toList ++
          ((snippet diagnostic).text ++ (diagnostic.ruleText ++ "\n").toList)) ∧
      ∀ diagnostic ∈ diagnostics,
        (diagnostic.headText path).toList.getLast? = some '\n' ∧
        (snippet diagnostic).gutter = ("  " ++ toString diagnostic.line).toList ∧
        (snippet diagnostic).PointsAt source diagnostic.span.start := by
  intro diagnostics
  choose! snippet shown numbered pointsAt using
    fun diagnostic (member : diagnostic ∈ diagnostics) => exists_snippet_of_mem_check member
  refine ⟨snippet, ?_, fun diagnostic member => ⟨getLast?_headText path diagnostic,
    numbered diagnostic member, pointsAt diagnostic member⟩⟩
  rw [verboseText, String.toList_join, List.flatMap_map]
  refine List.flatMap_congr fun diagnostic member => ?_
  rw [Diagnostic.verboseText, String.toList_append, String.toList_append, String.toList_append,
    shown diagnostic member, String.toList_append]
  simp only [List.append_assoc]

example : verboseText "a.css" "ü\x7d\r" (check "ü\x7d\r" .empty ⟨none, true⟩).diagnostics =
    "a.css:1:2\nError: unexpected `\x7d` (parse-error)\n  1 | ü\x7d\n    |  ^\n\n" := by
  decide +kernel

end StyleBaseline
