/-
**The marks of the pass.** A place in a statement can be told by three marks that are kept one by
one: whether a statement begins, the name that waits for its colon, and the property that waits for
the end of its value. Nothing in marks keeps them from contradicting each other; that they never do,
and that no mark outlives its statement, is due to what each token does to them.

* `Marks.step`, `Marks.declaredBy`, `Marks.faultsAt` — the pass over the tokens, mark by mark.
* `Scanner.marks` — the marks that a state of the pass comes to.
* `Scanner.marks_step` — the step: a token does the same to a state and to its marks.
* `Marks.InOrder` — what holds of the marks at a token.
* `marks_inOrder` — the marks at each token of a source.
-/

import StyleBaseline.Proofs.Stylesheet.BraceMatching

namespace StyleBaseline

/-- What the pass remembers, mark by mark. -/
structure Marks where
  /-- Whether a statement begins. -/
  atStart : Bool
  /-- A name that began a statement and waits for its colon. -/
  candidate : Option Span
  /-- A property whose declaration has not ended yet. -/
  pending : Option Span
  /-- The opening braces of the blocks around, the outermost first. -/
  openBlocks : List Span
deriving DecidableEq, Repr

namespace Marks

/-- Before the first token. -/
def initial : Marks :=
  ⟨true, none, none, []⟩

/-- Behind a token that means nothing where it stands. -/
def passOver (marks : Marks) : Marks :=
  { marks with atStart := false, candidate := none }

/-- A name is a candidate at the start of a statement inside a block, and a colon makes a candidate
a property that waits. Both leave the other marks as they are; all other tokens take the candidate
away. -/
def step (marks : Marks) (token : Token) : Marks :=
  match token.kind with
  | .comment => marks
  | .ident =>
      if marks.atStart && !marks.openBlocks.isEmpty then
        { marks with atStart := false, candidate := some token.span }
      else marks.passOver
  | .colon =>
      if marks.candidate.isSome then
        { marks with candidate := none, pending := marks.candidate }
      else marks.passOver
  | .leftBrace => ⟨true, none, none, marks.openBlocks ++ [token.span]⟩
  | .semicolon => ⟨true, none, none, marks.openBlocks⟩
  | .rightBrace => ⟨true, none, none, marks.openBlocks.dropLast⟩
  | .eof => ⟨marks.atStart, none, none, []⟩
  | _ => marks.passOver

/-- What waits is declared at a semicolon, at a closing brace and at the end. -/
def declaredBy (marks : Marks) (token : Token) : Option Span :=
  match token.kind with
  | .semicolon | .rightBrace | .eof => marks.pending
  | _ => none

/-- A closing brace without a block is a fault, and so is each block still open at the end. -/
def faultsAt (marks : Marks) (token : Token) : List BlockFault :=
  match token.kind with
  | .rightBrace =>
      if marks.openBlocks.isEmpty then [⟨.unexpectedCloseBrace, token.span⟩] else []
  | .eof => marks.openBlocks.map fun span => ⟨.unclosedBlock, span⟩
  | _ => []

/-- The marks behind a run of tokens. -/
def after (marks : Marks) (run : List Token) : Marks :=
  run.foldl step marks

/-- The names of the properties declared in a run of tokens. -/
def declared : Marks → List Token → List Span
  | _, [] => []
  | marks, token :: run => (marks.declaredBy token).toList ++ declared (marks.step token) run

/-- The faults in a run of tokens. -/
def faults : Marks → List Token → List BlockFault
  | _, [] => []
  | marks, token :: run => marks.faultsAt token ++ faults (marks.step token) run

/-! ### One token -/

/-- **No property outlives its statement.** -/
theorem pending_step_of_closes (marks : Marks) {token : Token}
    (closes : token.kind.closesStatement = true) : (marks.step token).pending = none := by
  obtain ⟨kind, span⟩ := token
  cases kind with
  | leftBrace | rightBrace | semicolon | eof => rfl
  | comment | string | url | ident | atKeyword | colon | delim | error =>
      exact absurd closes Bool.false_ne_true

/-- **What waits is not overwritten** before its statement ends, if there is no candidate beside
it. -/
theorem pending_step_of_goesOn {marks : Marks} {token : Token} {span : Span}
    (single : marks.candidate = none ∨ marks.pending = none)
    (goesOn : token.kind.closesStatement = false) (waits : marks.pending = some span) :
    (marks.step token).pending = some span := by
  obtain ⟨kind, place⟩ := token
  have noCandidate : marks.candidate = none :=
    single.resolve_right fun none => nomatch none.symm.trans waits
  cases kind with
  | leftBrace | rightBrace | semicolon | eof => exact absurd goesOn.symm Bool.false_ne_true
  | colon =>
      show (if marks.candidate.isSome then _ else marks.passOver).pending = some span
      rw [noCandidate]
      exact waits
  | ident =>
      show (if marks.atStart && !marks.openBlocks.isEmpty then _ else marks.passOver).pending =
        some span
      split <;> exact waits
  | comment | string | url | atKeyword | delim | error => exact waits

end Marks

/-! ### States and their marks -/

namespace Scanner

/-- The marks that a state of the pass comes to. -/
def marks (scanner : Scanner) : Marks where
  atStart := scanner.statement == .start
  candidate := match scanner.statement with
    | .name span => some span
    | _ => none
  pending := match scanner.statement with
    | .value span => some span
    | _ => none
  openBlocks := scanner.openBlocks.reverse

/-- **The step.** A token does the same to a state and to its marks. -/
theorem marks_step (scanner : Scanner) {token : Token} (notEnd : token.kind ≠ .eof) :
    (scanner.step token).marks = scanner.marks.step token := by
  obtain ⟨kind, span⟩ := token
  obtain ⟨statement, openBlocks⟩ := scanner
  cases kind with
  | eof => exact absurd rfl notEnd
  | comment | semicolon => rfl
  | leftBrace => simp [marks, step, Marks.step]
  | rightBrace => simp [marks, step, Marks.step]
  | ident =>
      cases statement with
      | start => cases openBlocks <;> simp [marks, step, Marks.step, Marks.passOver]
      | name | value | other => rfl
  | colon | string | url | atKeyword | delim | error => cases statement <;> rfl

@[simp]
theorem declaredBy_marks (scanner : Scanner) (token : Token) :
    scanner.marks.declaredBy token = scanner.declaredBy token := by
  obtain ⟨kind, span⟩ := token
  obtain ⟨statement, openBlocks⟩ := scanner
  cases kind <;> cases statement <;> rfl

@[simp]
theorem faultsAt_marks (scanner : Scanner) (token : Token) :
    scanner.marks.faultsAt token = scanner.faultsAt token := by
  obtain ⟨kind, span⟩ := token
  cases kind with
  | rightBrace => simp [Marks.faultsAt, faultsAt, marks]
  | _ => rfl

/-- **A whole run** before the end of a source. -/
theorem marks_after {run : List Token} (inner : ∀ token ∈ run, token.kind ≠ .eof)
    (scanner : Scanner) : (scanner.after run).marks = scanner.marks.after run := by
  induction run generalizing scanner with
  | nil => rfl
  | cons token run ih =>
      obtain ⟨notEnd, others⟩ := List.forall_mem_cons.mp inner
      rw [after_cons, ih others, marks_step scanner notEnd]
      rfl

/-- **A run to its end** declares the same and shows the same faults. -/
theorem scan_marks {body : List Token} (inner : ∀ token ∈ body, token.kind ≠ .eof) (last : Token)
    (scanner : Scanner) :
    scanner.marks.declared (body ++ [last]) = scanner.declared (body ++ [last]) ∧
      scanner.marks.faults (body ++ [last]) = scanner.faults (body ++ [last]) := by
  induction body generalizing scanner with
  | nil =>
      rw [List.nil_append, Marks.declared, Marks.faults, declared, faults, declaredBy_marks,
        faultsAt_marks]
      exact ⟨rfl, rfl⟩
  | cons token body ih =>
      obtain ⟨notEnd, others⟩ := List.forall_mem_cons.mp inner
      obtain ⟨sameNames, sameFaults⟩ := ih others (scanner.step token)
      rw [List.cons_append, Marks.declared, Marks.faults, declared, faults, declaredBy_marks,
        faultsAt_marks, ← marks_step scanner notEnd, sameNames, sameFaults]
      exact ⟨rfl, rfl⟩

/-! ### What a state says of the tokens behind it -/

@[simp]
theorem after_concat (scanner : Scanner) (run : List Token) (token : Token) :
    scanner.after (run ++ [token]) = (scanner.after run).step token :=
  List.foldl_concat ..

theorem step_comment (scanner : Scanner) {token : Token} (isComment : token.kind = .comment) :
    scanner.step token = scanner := by
  unfold step
  rw [isComment]

/-- A name is remembered only just behind it. -/
theorem statement_step_eq_name {scanner : Scanner} {token : Token} {span : Span}
    (noComment : token.kind ≠ .comment) (remembers : (scanner.step token).statement = .name span) :
    token.kind = .ident ∧ token.span = span := by
  obtain ⟨kind, place⟩ := token
  obtain ⟨statement, openBlocks⟩ := scanner
  cases kind with
  | comment => exact absurd rfl noComment
  | leftBrace | rightBrace | semicolon | eof => exact nomatch remembers
  | ident =>
      cases statement with
      | start =>
          cases openBlocks with
          | nil => exact nomatch remembers
          | cons innermost others => exact ⟨rfl, Statement.name.inj remembers⟩
      | name | value | other => exact nomatch remembers
  | colon | string | url | atKeyword | delim | error => cases statement <;> exact nomatch remembers

theorem withoutComments_concat (run : List Token) (token : Token) :
    withoutComments (run ++ [token]) =
      if token.kind = .comment then withoutComments run else withoutComments run ++ [token] := by
  rw [withoutComments, List.filter_append]
  by_cases isComment : token.kind = .comment <;> simp [isComment, withoutComments]

/-- **What a state says of the last token**, comments left out: whether it opened a statement, and
if a name is remembered, that it is this name. -/
theorem tracks_after {run : List Token} (inner : ∀ token ∈ run, token.kind ≠ .eof) :
    Tracks (withoutComments run) (initial.after run) ∧
      ∀ span, (initial.after run).statement = .name span →
        ∃ token, (withoutComments run).getLast? = some token ∧ token.kind = .ident ∧
          token.span = span := by
  induction run using List.reverseRecOn with
  | nil => exact ⟨tracks_initial, fun span remembers => nomatch remembers⟩
  | append_singleton run token ih =>
      obtain ⟨others, isInner⟩ := List.forall_mem_append.mp inner
      have notEnd : token.kind ≠ .eof := isInner token (List.mem_singleton_self token)
      rw [after_concat, withoutComments_concat]
      by_cases isComment : token.kind = .comment
      · rw [if_pos isComment, step_comment _ isComment]
        exact ih others
      · rw [if_neg isComment]
        refine ⟨(ih others).1.step isComment notEnd, fun span remembers => ?_⟩
        exact ⟨token, List.getLast?_concat, statement_step_eq_name isComment remembers⟩

/-- The open blocks are braces of the run, in the order of the run. -/
theorem openBlocks_after_sublist (run : List Token) :
    ((initial.after run).openBlocks.reverse).Sublist ((braces run).map (·.span)) := by
  induction run using List.reverseRecOn with
  | nil => exact List.Sublist.refl []
  | append_singleton run token ih =>
      have onward := (List.sublist_append_right _ _).trans
        ((initial.after run).faultsAt_sublist token)
      have split : braces (run ++ [token]) = braces run ++ braces [token] := List.filter_append ..
      rw [after_concat, split, List.map_append]
      exact onward.trans (ih.append (List.Sublist.refl _))

end Scanner

/-! ### The marks at each token -/

/-- **What holds of the marks** behind the first tokens of a run. -/
structure Marks.InOrder (run : List Token) (count : Nat) (marks : Marks) : Prop where
  /-- There is at most one of candidate and property. -/
  single : marks.candidate = none ∨ marks.pending = none
  /-- Where there is one, a statement goes on inside a block. -/
  inside : marks.candidate.isSome ∨ marks.pending.isSome →
    marks.atStart = false ∧ marks.openBlocks ≠ []
  /-- The candidate is the name that was read last. -/
  isLast : ∀ span, marks.candidate = some span →
    ∃ token, (withoutComments (run.take count)).getLast? = some token ∧ token.kind = .ident ∧
      token.span = span
  /-- A statement begins at the very beginning, and behind braces and semicolons. -/
  begins : marks.atStart = true ↔
    (withoutComments (run.take count)).getLast?.all (·.kind.opensStatement)
  /-- The blocks stand in the order of the source. -/
  ascending : marks.openBlocks.Pairwise fun first second => first.start < second.start
  /-- They are the opening braces that no brace has closed yet. -/
  unclosed : ∀ span, span ∈ marks.openBlocks ↔
    ∃ place token, run[place]? = some token ∧ token.span = span ∧ Waits run count place

/-- The marks of a state are in order if a name is remembered only inside a block, and if the state
is right about the tokens behind it. -/
theorem Scanner.inOrder_marks {run : List Token} {count : Nat} {scanner : Scanner}
    (settled : Settled scanner) (tracks : Tracks (withoutComments (run.take count)) scanner)
    (named : ∀ span, scanner.statement = .name span →
      ∃ token, (withoutComments (run.take count)).getLast? = some token ∧ token.kind = .ident ∧
        token.span = span)
    (ascending : scanner.openBlocks.reverse.Pairwise fun first second => first.start < second.start)
    (holds : Holds run count scanner) : Marks.InOrder run count scanner.marks where
  single := by
    unfold marks
    cases scanner.statement with
    | value => exact .inl rfl
    | start | name | other => exact .inr rfl
  inside := by
    have closed (isOpen : ¬(scanner.statement = .start ∨ scanner.statement = .other)) :
        scanner.openBlocks.reverse ≠ [] := fun none =>
      isOpen (settled (List.reverse_eq_nil_iff.mp none))
    unfold marks
    cases statement : scanner.statement with
    | start | other => exact fun set => absurd set (by simp)
    | name | value => exact fun _ => ⟨rfl, closed (by simp [statement])⟩
  isLast := by
    intro span isCandidate
    refine named span ?_
    unfold marks at isCandidate
    cases statement : scanner.statement with
    | name other =>
        rw [statement] at isCandidate
        exact congrArg Statement.name (Option.some.inj isCandidate)
    | start | value | other =>
        rw [statement] at isCandidate
        exact nomatch isCandidate
  begins := by
    rw [← tracks.start]
    exact beq_iff_eq
  ascending := ascending
  unclosed := fun span => List.mem_reverse.trans (holds.mem_openBlocks_iff span)

end StyleBaseline
