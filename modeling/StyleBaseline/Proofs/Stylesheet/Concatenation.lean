/-
**One stylesheet behind another.** Where the tokens of two texts in a row are those of the one and
then those of the other, and the first text leaves no block open, each is outlined as if it stood
alone: whatever else the first text breaks off in the middle of does not reach the second.

* `Scanner.declared_shift`, `Scanner.faults_shift` — the pass does not look at where tokens stand.
* `Scanner.Settled` — outside of all blocks no name is remembered: what one step keeps, and a run.
* `Scanner.step_outside` — outside of all blocks the place in the statement makes no difference.
* `outline_append` — the outline of one text behind another.
-/

import StyleBaseline.Proofs.Stylesheet.DeclarationPlaces
import StyleBaseline.Proofs.Stylesheet.UnmatchedBraces

namespace StyleBaseline

/-! ### Moving to another place -/

/-- A span that begins so many bytes later. -/
def Span.shift (offset : Nat) (span : Span) : Span :=
  ⟨offset + span.start, offset + span.stop⟩

/-- A token that begins so many bytes later. -/
def Token.shift (offset : Nat) (token : Token) : Token :=
  ⟨token.kind, token.span.shift offset⟩

/-- A fault that begins so many bytes later. -/
def BlockFault.shift (offset : Nat) (fault : BlockFault) : BlockFault :=
  ⟨fault.kind, fault.span.shift offset⟩

/-- A declaration as it is when a text is put in front of its source. Its line grows by the line
feeds of that text, and on the first line its column by the characters behind the last of them. -/
def Declaration.behind (front : List Char) (declaration : Declaration) : Declaration :=
  ⟨declaration.property, declaration.span.shift (byteLength front),
    declaration.line + front.count '\n',
    if declaration.line = 1 then declaration.column + (lastLine front).length
    else declaration.column⟩

namespace Scanner

def shiftStatement (offset : Nat) : Statement → Statement
  | .start => .start
  | .name span => .name (span.shift offset)
  | .value span => .value (span.shift offset)
  | .other => .other

def shift (offset : Nat) (scanner : Scanner) : Scanner :=
  ⟨shiftStatement offset scanner.statement, scanner.openBlocks.map (Span.shift offset)⟩

@[simp]
theorem step_shift (offset : Nat) (scanner : Scanner) (token : Token) :
    (scanner.shift offset).step (token.shift offset) = (scanner.step token).shift offset := by
  obtain ⟨kind, span⟩ := token
  obtain ⟨statement, openBlocks⟩ := scanner
  cases kind with
  | comment | leftBrace | semicolon | eof => rfl
  | rightBrace => cases openBlocks <;> rfl
  | ident =>
      cases statement with
      | start => cases openBlocks <;> rfl
      | name | value | other => rfl
  | string | url | atKeyword | colon | delim | error => cases statement <;> rfl

@[simp]
theorem declaredBy_shift (offset : Nat) (scanner : Scanner) (token : Token) :
    (scanner.shift offset).declaredBy (token.shift offset) =
      (scanner.declaredBy token).map (Span.shift offset) := by
  obtain ⟨kind, span⟩ := token
  obtain ⟨statement, openBlocks⟩ := scanner
  cases kind <;> cases statement <;> rfl

@[simp]
theorem faultsAt_shift (offset : Nat) (scanner : Scanner) (token : Token) :
    (scanner.shift offset).faultsAt (token.shift offset) =
      (scanner.faultsAt token).map (BlockFault.shift offset) := by
  obtain ⟨kind, span⟩ := token
  obtain ⟨statement, openBlocks⟩ := scanner
  cases kind with
  | rightBrace => cases openBlocks <;> rfl
  | eof =>
      show ((openBlocks.map (Span.shift offset)).reverse.map fun span =>
        BlockFault.mk .unclosedBlock span) = (openBlocks.reverse.map fun span =>
          BlockFault.mk .unclosedBlock span).map (BlockFault.shift offset)
      rw [← List.map_reverse, List.map_map, List.map_map]
      rfl
  | _ => rfl

/-- **A run of tokens somewhere else** declares the same names there. -/
@[simp]
theorem declared_shift (offset : Nat) (scanner : Scanner) (run : List Token) :
    (scanner.shift offset).declared (run.map (Token.shift offset)) =
      (scanner.declared run).map (Span.shift offset) := by
  induction run generalizing scanner with
  | nil => rfl
  | cons token run ih =>
      rw [List.map_cons, declared, declared, step_shift, ih, declaredBy_shift, List.map_append]
      cases scanner.declaredBy token <;> rfl

/-- **A run of tokens somewhere else** has the same faults there. -/
@[simp]
theorem faults_shift (offset : Nat) (scanner : Scanner) (run : List Token) :
    (scanner.shift offset).faults (run.map (Token.shift offset)) =
      (scanner.faults run).map (BlockFault.shift offset) := by
  induction run generalizing scanner with
  | nil => rfl
  | cons token run ih =>
      simp [faults, ih]

/-! ### One run behind another -/

@[simp]
theorem after_cons (scanner : Scanner) (token : Token) (run : List Token) :
    scanner.after (token :: run) = (scanner.step token).after run :=
  rfl

@[simp]
theorem declared_append (scanner : Scanner) (run more : List Token) :
    scanner.declared (run ++ more) = scanner.declared run ++ (scanner.after run).declared more := by
  induction run generalizing scanner with
  | nil => rfl
  | cons token run ih =>
      simp [declared, ih]

@[simp]
theorem faults_append (scanner : Scanner) (run more : List Token) :
    scanner.faults (run ++ more) = scanner.faults run ++ (scanner.after run).faults more := by
  induction run generalizing scanner with
  | nil => rfl
  | cons token run ih =>
      simp [faults, ih]

/-! ### Outside of all blocks -/

/-- **Outside of all blocks no name is remembered.** -/
def Settled (scanner : Scanner) : Prop :=
  scanner.openBlocks = [] → scanner.statement = .start ∨ scanner.statement = .other

theorem settled_initial : Settled initial :=
  fun _ => Or.inl rfl

/-- A name is remembered only inside a block, and the braces that lead out of it forget it. -/
theorem Settled.step {scanner : Scanner} (settled : Settled scanner) (token : Token) :
    Settled (scanner.step token) := by
  obtain ⟨kind, span⟩ := token
  obtain ⟨statement, openBlocks⟩ := scanner
  intro outside
  rw [openBlocks_step] at outside
  cases kind with
  | comment => exact settled outside
  | leftBrace => exact absurd outside (List.cons_ne_nil _ _)
  | rightBrace | semicolon => exact Or.inl rfl
  | eof => exact Or.inr rfl
  | ident | string | url | atKeyword | colon | delim | error =>
      have isOutside : openBlocks = [] := outside
      subst isOutside
      obtain isStart | isOther : statement = .start ∨ statement = .other := settled rfl
      · subst isStart
        exact Or.inr rfl
      · subst isOther
        exact Or.inr rfl

theorem Settled.after {scanner : Scanner} (settled : Settled scanner) (run : List Token) :
    Settled (scanner.after run) := by
  induction run generalizing scanner with
  | nil => exact settled
  | cons token run ih => exact ih (settled.step token)

/-- Outside of all blocks it makes no difference whether a statement has begun. -/
theorem step_outside {token : Token} (noComment : token.kind ≠ .comment) :
    step ⟨.other, []⟩ token = step ⟨.start, []⟩ token := by
  obtain ⟨kind, span⟩ := token
  cases kind with
  | comment => exact absurd rfl noComment
  | _ => rfl

theorem scan_outside (run : List Token) :
    declared ⟨.other, []⟩ run = declared ⟨.start, []⟩ run ∧
      faults ⟨.other, []⟩ run = faults ⟨.start, []⟩ run := by
  induction run with
  | nil => exact ⟨rfl, rfl⟩
  | cons token run ih =>
      obtain ⟨kind, span⟩ := token
      by_cases isComment : kind = .comment
      · subst isComment
        exact ih
      · have sameNames : declaredBy ⟨.other, []⟩ ⟨kind, span⟩ =
            declaredBy ⟨.start, []⟩ ⟨kind, span⟩ := by
          cases kind <;> rfl
        have sameFaults : faultsAt ⟨.other, []⟩ ⟨kind, span⟩ =
            faultsAt ⟨.start, []⟩ ⟨kind, span⟩ := by
          cases kind <;> rfl
        rw [declared, declared, faults, faults, step_outside isComment, sameNames, sameFaults]
        exact ⟨rfl, rfl⟩

/-- Behind a run that leaves no block open the pass goes on as at the beginning. -/
theorem goes_on_outside {run : List Token} (outside : (initial.after run).openBlocks = []) :
    (initial.after run).declared = initial.declared ∧
      (initial.after run).faults = initial.faults := by
  have settled := settled_initial.after run outside
  cases state : initial.after run with
  | mk statement openBlocks =>
      rw [state] at outside settled
      obtain rfl : openBlocks = [] := outside
      rcases settled with isStart | isOther
      · obtain rfl : statement = .start := isStart
        exact ⟨rfl, rfl⟩
      · obtain rfl : statement = .other := isOther
        exact ⟨funext fun more => (scan_outside more).1, funext fun more => (scan_outside more).2⟩

/-- If no block is reported as unclosed, none is open before the end. -/
theorem openBlocks_eq_nil {body : List Token} {last : Token} (isLast : last.kind = .eof)
    (closed : ∀ fault ∈ initial.faults (body ++ [last]), fault.kind ≠ .unclosedBlock) :
    (initial.after body).openBlocks = [] := by
  have reported : (initial.after body).faultsAt last =
      (initial.after body).openBlocks.reverse.map fun span => ⟨.unclosedBlock, span⟩ := by
    rw [faultsAt, isLast]
  by_contra someOpen
  obtain ⟨span, others, isOpen⟩ := List.exists_cons_of_ne_nil someOpen
  have member : ⟨.unclosedBlock, span⟩ ∈ initial.faults (body ++ [last]) := by
    rw [faults_append, faults, reported, isOpen]
    simp
  exact closed _ member rfl

/-- **One run behind another.** The first ends outside of all blocks; its end is left out where the
second goes on. -/
theorem scan_append {body : List Token} {last : Token} (isLast : last.kind = .eof)
    (closed : ∀ fault ∈ initial.faults (body ++ [last]), fault.kind ≠ .unclosedBlock)
    (more : List Token) :
    initial.declared (body ++ more) =
        initial.declared (body ++ [last]) ++ initial.declared more ∧
      initial.faults (body ++ more) = initial.faults (body ++ [last]) ++ initial.faults more := by
  obtain ⟨declaredOn, faultsOn⟩ := goes_on_outside (openBlocks_eq_nil isLast closed)
  obtain ⟨kind, span⟩ := last
  obtain rfl : kind = .eof := isLast
  have nothingDeclared : initial.declared [⟨.eof, span⟩] = [] := rfl
  have nothingReported : initial.faults [⟨.eof, span⟩] = [] := rfl
  constructor
  · simp [declaredOn, nothingDeclared]
  · simp [faultsOn, nothingReported]

end Scanner

/-! ### The outline of two texts -/

section Texts

variable {first second : String}

/-- The tokens of a text but for its end. -/
theorem filter_tokens_ne_eof (source : String) :
    ∃ body last, tokens source = body ++ [last] ∧ last.kind = .eof ∧
      (tokens source).filter (·.kind ≠ .eof) = body := by
  obtain ⟨body, last, split, isLast, others⟩ := Grammar.tokens_eof source
  refine ⟨body, last, split, isLast, ?_⟩
  have bodyKept : body.filter (·.kind ≠ .eof) = body :=
    List.filter_eq_self.mpr fun token member => decide_eq_true (others token member)
  have lastDropped : [last].filter (·.kind ≠ .eof) = [] := by
    simp [isLast]
  rw [split, List.filter_append, bodyKept, lastDropped, List.append_nil]

/-- What is declared in the first text is declared so in both. -/
theorem declarationAt_front {span : Span}
    (member : span ∈ Scanner.initial.declared (tokens first)) :
    Outline.declarationAt (first ++ second) (LineTable.ofText (first ++ second)) span =
      Outline.declarationAt first (LineTable.ofText first) span := by
  obtain ⟨before, word, after, split, rfl, _⟩ := exists_split_of_mem_declared member
  have whole : (first ++ second).toList = before ++ (word ++ (after ++ second.toList)) := by
    rw [String.toList_append, split]
    simp only [List.append_assoc]
  rw [declarationAt_of_split split, declarationAt_of_split whole]

/-- What is declared in the second text is declared in both at its place behind the first. -/
theorem declarationAt_behind {span : Span}
    (member : span ∈ Scanner.initial.declared (tokens second)) :
    Outline.declarationAt (first ++ second) (LineTable.ofText (first ++ second))
        (span.shift (byteLength first.toList)) =
      (Outline.declarationAt second (LineTable.ofText second) span).behind first.toList := by
  obtain ⟨before, word, after, split, rfl, _⟩ := exists_split_of_mem_declared member
  have whole : (first ++ second).toList = (first.toList ++ before) ++ (word ++ after) := by
    rw [String.toList_append, split, List.append_assoc]
  have place : (spanOf before word).shift (byteLength first.toList) =
      spanOf (first.toList ++ before) word := by
    simp [Span.shift, spanOf, Nat.add_assoc]
  rw [place, declarationAt_of_split whole, declarationAt_of_split split, positionBehind_append,
    Declaration.behind, place]

/-- **One stylesheet behind another.** If the first leaves no block open, and the tokens of both are
those of the first without its end and then those of the second, then the declarations and faults
of both are those of the first and then those of the second at their places behind it. -/
theorem outline_append
    (closed : ∀ fault ∈ (Outline.ofSource first).faults, fault.kind ≠ .unclosedBlock)
    (cut : tokens (first ++ second) = (tokens first).filter (·.kind ≠ .eof) ++
      (tokens second).map (Token.shift (byteLength first.toList))) :
    (Outline.ofSource (first ++ second)).declarations =
        (Outline.ofSource first).declarations ++
          (Outline.ofSource second).declarations.map (Declaration.behind first.toList) ∧
      (Outline.ofSource (first ++ second)).faults =
        (Outline.ofSource first).faults ++
          (Outline.ofSource second).faults.map (BlockFault.shift (byteLength first.toList)) := by
  obtain ⟨body, last, split, isLast, kept⟩ := filter_tokens_ne_eof first
  have closed : ∀ fault ∈ Scanner.initial.faults (body ++ [last]), fault.kind ≠ .unclosedBlock := by
    rw [← split]
    exact closed
  let offset := byteLength first.toList
  have names : Scanner.initial.declared ((tokens second).map (Token.shift offset)) =
      (Scanner.initial.declared (tokens second)).map (Span.shift offset) :=
    Scanner.declared_shift offset Scanner.initial (tokens second)
  have moved : Scanner.initial.faults ((tokens second).map (Token.shift offset)) =
      (Scanner.initial.faults (tokens second)).map (BlockFault.shift offset) :=
    Scanner.faults_shift offset Scanner.initial (tokens second)
  obtain ⟨declared, reported⟩ :=
    Scanner.scan_append isLast closed ((tokens second).map (Token.shift offset))
  rw [kept] at cut
  rw [← cut, ← split, names] at declared
  rw [← cut, ← split, moved] at reported
  refine ⟨?_, reported⟩
  show (Scanner.initial.declared (tokens (first ++ second))).map
      (Outline.declarationAt (first ++ second) (LineTable.ofText (first ++ second))) =
    (Scanner.initial.declared (tokens first)).map
        (Outline.declarationAt first (LineTable.ofText first)) ++
      ((Scanner.initial.declared (tokens second)).map
        (Outline.declarationAt second (LineTable.ofText second))).map
          (Declaration.behind first.toList)
  rw [declared, List.map_append, List.map_map, List.map_map]
  congr 1
  · exact List.map_congr_left fun span member => declarationAt_front member
  · exact List.map_congr_left fun span member => declarationAt_behind member

/-- A brace too many and a selector that is broken off do not reach the text behind them. -/
theorem outline_append_selector :
    let first := "\x7d\na\x7bb:c\x7dp"
    let second := "\x7bq:r\x7d\n\x7bs:t"
    (∀ fault ∈ (Outline.ofSource first).faults, fault.kind ≠ .unclosedBlock) ∧
    tokens (first ++ second) = (tokens first).filter (·.kind ≠ .eof) ++
      (tokens second).map (Token.shift (byteLength first.toList)) ∧
    (Outline.ofSource (first ++ second)).declarations =
        (Outline.ofSource first).declarations ++
          (Outline.ofSource second).declarations.map (Declaration.behind first.toList) ∧
    (Outline.ofSource (first ++ second)).faults =
        (Outline.ofSource first).faults ++
          (Outline.ofSource second).faults.map (BlockFault.shift (byteLength first.toList)) := by
  intro first second
  have closed : ∀ fault ∈ (Outline.ofSource first).faults, fault.kind ≠ .unclosedBlock := by decide
  have cut : tokens (first ++ second) = (tokens first).filter (·.kind ≠ .eof) ++
      (tokens second).map (Token.shift (byteLength first.toList)) := by decide
  exact ⟨closed, cut, outline_append closed cut⟩

end Texts

end StyleBaseline
