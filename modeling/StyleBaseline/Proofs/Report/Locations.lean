/-
**Where things are reported.** Declarations and reports take the place of a name or of a brace: a
word in ASCII without a line feed. Its ends are boundaries of characters, its line and column can be
counted in the text before it, and so many bytes further on the same line it ends.

* `Located` — a span with the line and column at which it begins.
* `located_of_split` — any stretch of a source is so.
* `position?_stop` — the end of a word by line and column.
* `check_located` — the declarations and the reports of a source, and their entries in the document.
-/

import StyleBaseline.Proofs.Report.Independence
import StyleBaseline.Proofs.Stylesheet.DeclarationPlaces
import StyleBaseline.Report.Document

namespace StyleBaseline

/-- **A place told rightly**: the span is not empty and lies in the source, between two boundaries
of characters; line and column are counted in the text before it; and the line table finds them. -/
structure Located (source : String) (span : Span) (line column : Nat) : Prop where
  nonempty : span.start < span.stop
  within : span.stop ≤ source.utf8ByteSize
  startValid : (⟨span.start⟩ : String.Pos.Raw).IsValid source
  stopValid : (⟨span.stop⟩ : String.Pos.Raw).IsValid source
  counted : ∃ before after, source.toList = before ++ after ∧ span.start = byteLength before ∧
    line = before.count '\n' + 1 ∧ column = (lastLine before).length + 1
  found : (LineTable.ofText source).position? span.start = some ⟨line, column⟩

/-- **Any stretch of a source** that is not empty is told rightly by what stands before it. -/
theorem located_of_split {source : String} {before word after : List Char}
    (split : source.toList = before ++ (word ++ after)) (nonempty : word ≠ []) :
    Located source (spanOf before word) (positionBehind before).line
      (positionBehind before).column where
  nonempty := Nat.lt_add_of_pos_right (byteLength_pos nonempty)
  within := by
    rw [utf8ByteSize_eq_byteLength, split, byteLength_append, byteLength_append]
    show byteLength before + byteLength word ≤ _
    omega
  startValid := isValid_of_split split
  stopValid := by
    rw [← List.append_assoc] at split
    show (⟨byteLength before + byteLength word⟩ : String.Pos.Raw).IsValid source
    rw [← byteLength_append]
    exact isValid_of_split split
  counted := ⟨before, word ++ after, split, rfl, rfl, rfl⟩
  found := position?_of_split split

/-! ### Names and braces -/

/-- Words in ASCII, on one line. -/
def Compact (word : List Char) : Prop :=
  word ≠ [] ∧ ∀ c ∈ word, c ≠ '\n' ∧ c.utf8Size = 1

theorem compact_name {word : List Char} (isName : word ∈ Grammar.words .ident) : Compact word := by
  obtain ⟨⟨first, rest, rfl, _⟩, chars⟩ := Grammar.name_shape isName
  refine ⟨List.cons_ne_nil _ _, fun c member => ?_⟩
  have code := (chars c member).code
  have ascii : c.toNat ≤ 127 := by omega
  refine ⟨?_, Char.utf8Size_eq_one_iff.mpr ascii⟩
  rintro rfl
  exact absurd code (by decide)

theorem compact_brace {kind : TokenKind} (isBrace : kind.isBrace) {word : List Char}
    (member : word ∈ Grammar.words kind) : Compact word ∧ word.length = 1 := by
  have single : word = ['\x7b'] ∨ word = ['\x7d'] := by
    cases kind with
    | leftBrace => exact Or.inl (Grammar.mem_exactly.mp member)
    | rightBrace => exact Or.inr (Grammar.mem_exactly.mp member)
    | _ => exact absurd isBrace (by decide)
  rcases single with rfl | rfl
  · exact ⟨⟨List.cons_ne_nil _ _, List.forall_mem_singleton.mpr (by decide)⟩, rfl⟩
  · exact ⟨⟨List.cons_ne_nil _ _, List.forall_mem_singleton.mpr (by decide)⟩, rfl⟩

theorem Compact.byteLength_eq {word : List Char} (compact : Compact word) :
    byteLength word = word.length := by
  have each := fun c member => (compact.2 c member).2
  clear compact
  induction word with
  | nil => rfl
  | cons c word ih =>
      obtain ⟨one, others⟩ := List.forall_mem_cons.mp each
      rw [byteLength, one, ih others, List.length_cons, Nat.add_comm]

/-- **The end of a word** is on the line on which it begins, so many columns further on. -/
theorem position?_stop {source : String} {before word after : List Char}
    (split : source.toList = before ++ (word ++ after)) (compact : Compact word) :
    (LineTable.ofText source).position? (spanOf before word).stop =
      some ⟨(positionBehind before).line, (positionBehind before).column + word.length⟩ := by
  have noFeed : '\n' ∉ word := fun member => (compact.2 _ member).1 rfl
  have stop : (spanOf before word).stop = byteLength (before ++ word) :=
    (byteLength_append before word).symm
  have behind : positionBehind (before ++ word) =
      ⟨(positionBehind before).line, (positionBehind before).column + word.length⟩ := by
    simp only [positionBehind, lastLine_append, if_neg noFeed, List.count_append,
      List.count_eq_zero_of_not_mem noFeed, List.length_append, Nat.add_zero, Position.mk.injEq,
      true_and]
    omega
  rw [← List.append_assoc] at split
  rw [stop, position?_of_split split, behind]

/-! ### What is reported -/

/-- A name or a brace of a source, with the line and column at which it begins. -/
def TakesWord (source : String) (span : Span) (line column : Nat) (word : List Char) : Prop :=
  Compact word ∧ ∃ before after, source.toList = before ++ (word ++ after) ∧
    span = spanOf before word ∧ line = (positionBehind before).line ∧
    column = (positionBehind before).column

section TakesWord

variable {source : String} {span : Span} {line column : Nat} {word : List Char}

theorem TakesWord.located (takes : TakesWord source span line column word) :
    Located source span line column := by
  obtain ⟨compact, before, after, split, rfl, rfl, rfl⟩ := takes
  exact located_of_split split compact.1

theorem TakesWord.stop (takes : TakesWord source span line column word) :
    span.stop = span.start + word.length ∧
      (LineTable.ofText source).position? span.stop = some ⟨line, column + word.length⟩ := by
  obtain ⟨compact, before, after, split, rfl, rfl, rfl⟩ := takes
  refine ⟨?_, position?_stop split compact⟩
  rw [spanOf, compact.byteLength_eq]

end TakesWord

theorem takesWord_of_mem_declarations {source : String} {declaration : Declaration}
    (member : declaration ∈ (Outline.ofSource source).declarations) :
    TakesWord source declaration.span declaration.line declaration.column
      declaration.property.toList := by
  obtain ⟨span, declared, rfl⟩ := List.mem_map.mp member
  obtain ⟨before, word, after, split, rfl, isName⟩ := exists_split_of_mem_declared declared
  rw [declarationAt_of_split split, String.toList_ofList]
  exact ⟨compact_name isName, before, after, split, rfl, rfl, rfl⟩

theorem takesWord_of_mem_faults {source : String} {fault : BlockFault}
    (member : fault ∈ (Outline.ofSource source).faults) :
    ∃ word, word.length = 1 ∧
      TakesWord source fault.span (fault.diagnostic (LineTable.ofText source)).line
        (fault.diagnostic (LineTable.ofText source)).column word := by
  obtain ⟨token, inTokens, isBrace, place⟩ := exists_brace_of_mem_faults member
  obtain ⟨before, word, after, split, span, kinds⟩ :=
    (Grammar.tokens_tokenised source).place inTokens
  have notEnd : token.kind ≠ .eof := TokenKind.ne_eof_of_isBrace isBrace
  obtain ⟨compact, single⟩ := compact_brace isBrace (kinds.resolve_left fun ending =>
    notEnd ending.1)
  have found : (LineTable.ofText source).position? fault.span.start =
      some (positionBehind before) := by
    rw [← place, span, Nat.zero_add]
    exact position?_of_split split
  refine ⟨word, single, compact, before, after, split, ?_, ?_, ?_⟩
  · rw [← place, span, Nat.zero_add]
    rfl
  · rw [BlockFault.diagnostic, found]
    rfl
  · rw [BlockFault.diagnostic, found]
    rfl

/-- A report takes the name of its declaration or one brace. -/
theorem takesWord_of_mem_check {source : String} {index : Index} {options : CheckOptions}
    {diagnostic : Diagnostic} (member : diagnostic ∈ (check source index options).diagnostics) :
    ∃ word, TakesWord source diagnostic.span diagnostic.line diagnostic.column word ∧
      ((diagnostic.code = .parseError ∧ word.length = 1) ∨
        (diagnostic.code = .baselineCheck ∧
          ∃ declaration ∈ (Outline.ofSource source).declarations,
            declaration.span = diagnostic.span ∧ declaration.property.length = word.length)) := by
  obtain ⟨baseline, parseErrors⟩ := options
  rw [diagnostics_check, (sortByKey_perm _).mem_iff, List.mem_append] at member
  rcases member with isFault | isSupport
  · cases parseErrors with
    | false => exact absurd isFault List.not_mem_nil
    | true =>
        obtain ⟨fault, inFaults, rfl⟩ := List.mem_map.mp isFault
        obtain ⟨word, single, takes⟩ := takesWord_of_mem_faults inFaults
        exact ⟨word, takes, Or.inl ⟨rfl, single⟩⟩
  · cases baseline with
    | none => exact absurd isSupport List.not_mem_nil
    | some severity =>
        rw [supportReports, diagnostics_supportFindings] at isSupport
        obtain ⟨declaration, declared, reported⟩ := List.mem_filterMap.mp isSupport
        obtain ⟨message, _, rfl⟩ := Option.map_eq_some_iff.mp reported
        exact ⟨declaration.property.toList, takesWord_of_mem_declarations declared,
          Or.inr ⟨rfl, declaration, declared, rfl, rfl⟩⟩

/-- **Everything is reported where it stands.** Declarations and reports are told rightly. In the
document the end of a report is on the line of its start, and lies further on, in columns as in
bytes, by the length of the name, or by one for a brace. -/
theorem check_located (source : String) (index : Index) (options : CheckOptions) (path : String) :
    (∀ declaration ∈ (Outline.ofSource source).declarations,
      Located source declaration.span declaration.line declaration.column) ∧
    (∀ diagnostic ∈ (check source index options).diagnostics,
      Located source diagnostic.span diagnostic.line diagnostic.column ∧
      ∃ length,
        ((diagnostic.code = .parseError ∧ length = 1) ∨
          (diagnostic.code = .baselineCheck ∧
            ∃ declaration ∈ (Outline.ofSource source).declarations,
              declaration.span = diagnostic.span ∧ declaration.property.length = length)) ∧
        (LineTable.ofText source).position? diagnostic.span.stop =
          some ⟨diagnostic.line, diagnostic.column + length⟩ ∧
        ReportEntry.ofDiagnostic path (LineTable.ofText source) diagnostic =
          { severity := diagnostic.severity.text
            path := path
            start := ⟨diagnostic.line, diagnostic.column, diagnostic.span.start⟩
            stop := ⟨diagnostic.line, diagnostic.column + length, diagnostic.span.start + length⟩
            message := diagnostic.message
            code := diagnostic.code.text }) := by
  refine ⟨fun declaration member => (takesWord_of_mem_declarations member).located,
    fun diagnostic member => ?_⟩
  obtain ⟨word, takes, lengths⟩ := takesWord_of_mem_check member
  obtain ⟨bytes, columns⟩ := takes.stop
  refine ⟨takes.located, word.length, lengths, columns, ?_⟩
  rw [ReportEntry.ofDiagnostic, columns, bytes]
  rfl

end StyleBaseline
