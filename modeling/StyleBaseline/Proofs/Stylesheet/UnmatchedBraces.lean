/-
**Where unmatched braces are reported.** The pass holds the opening braces of the blocks around it.
Each fault takes one of these or the brace that is just read, and takes it away, so that no brace is
reported twice and the reports stand in the order of the source.

* `Scanner.openBlocks_step` — what a token does to the open blocks.
* `Scanner.faultsAt_sublist` — the step: faults and open blocks are used up in order.
* `Scanner.faults_sublist` — a whole run, by induction from the step.
* `braces_ascending` — no two braces are at one place.
* `faults_ascending`, `exists_brace_of_mem_faults` — the faults of a source.
-/

import StyleBaseline.Proofs.Stylesheet.TokenPlaces
import StyleBaseline.Stylesheet.Outline

namespace StyleBaseline

def TokenKind.isBrace : TokenKind → Bool
  | .leftBrace | .rightBrace => true
  | _ => false

theorem TokenKind.ne_eof_of_isBrace {kind : TokenKind} (isBrace : kind.isBrace) :
    kind ≠ .eof := by
  rintro rfl
  exact Bool.false_ne_true isBrace

/-- The braces of a run of tokens. -/
def braces (run : List Token) : List Token :=
  run.filter (·.kind.isBrace)

namespace Scanner

theorem openBlocks_step (scanner : Scanner) (token : Token) :
    (scanner.step token).openBlocks =
      match token.kind with
      | .leftBrace => token.span :: scanner.openBlocks
      | .rightBrace => scanner.openBlocks.tail
      | .eof => []
      | _ => scanner.openBlocks := by
  obtain ⟨kind, span⟩ := token
  obtain ⟨statement, openBlocks⟩ := scanner
  cases kind with
  | leftBrace | rightBrace | eof | comment | semicolon => rfl
  | ident =>
      cases statement with
      | start => cases openBlocks <;> rfl
      | name | value | other => rfl
  | string | url | atKeyword | colon | delim | error => cases statement <;> rfl

/-- **The step.** The faults that a token shows and the blocks that are open behind it are, from the
outermost on, blocks that were open before it and the token itself if it is a brace. -/
theorem faultsAt_sublist (scanner : Scanner) (token : Token) :
    ((scanner.faultsAt token).map (·.span) ++ (scanner.step token).openBlocks.reverse).Sublist
      (scanner.openBlocks.reverse ++ (braces [token]).map (·.span)) := by
  rw [openBlocks_step]
  obtain ⟨kind, span⟩ := token
  cases kind with
  | leftBrace =>
      show ((span :: scanner.openBlocks).reverse).Sublist (scanner.openBlocks.reverse ++ [span])
      rw [List.reverse_cons]
  | rightBrace =>
      show ((scanner.faultsAt ⟨.rightBrace, span⟩).map (·.span) ++
        scanner.openBlocks.tail.reverse).Sublist (scanner.openBlocks.reverse ++ [span])
      cases blocks : scanner.openBlocks with
      | nil =>
          have shown : scanner.faultsAt ⟨.rightBrace, span⟩ = [⟨.unexpectedCloseBrace, span⟩] := by
            simp [faultsAt, blocks]
          rw [shown]
          exact List.Sublist.refl [span]
      | cons innermost others =>
          have shown : scanner.faultsAt ⟨.rightBrace, span⟩ = [] := by
            simp [faultsAt, blocks]
          rw [shown, List.reverse_cons, List.append_assoc]
          exact List.sublist_append_left others.reverse _
  | eof =>
      have shown : (scanner.faultsAt ⟨.eof, span⟩).map (·.span) = scanner.openBlocks.reverse := by
        rw [faultsAt, List.map_map]
        exact List.map_id scanner.openBlocks.reverse
      rw [shown]
      exact List.Sublist.refl _
  | comment | string | url | ident | atKeyword | semicolon | colon | delim | error =>
      show (scanner.openBlocks.reverse).Sublist (scanner.openBlocks.reverse ++ [])
      rw [List.append_nil]

/-- **A whole run.** The faults are, in this order, blocks that are open at its beginning and braces
of the run. -/
theorem faults_sublist (scanner : Scanner) (run : List Token) :
    ((scanner.faults run).map (·.span)).Sublist
      (scanner.openBlocks.reverse ++ (braces run).map (·.span)) := by
  induction run generalizing scanner with
  | nil => exact List.nil_sublist _
  | cons token run ih =>
      have split : braces (token :: run) = braces [token] ++ braces run := by
        rw [braces, braces, braces, ← List.filter_append, List.singleton_append]
      have later := (List.Sublist.refl ((scanner.faultsAt token).map (·.span))).append
        (ih (scanner.step token))
      have here := (faultsAt_sublist scanner token).append
        (List.Sublist.refl ((braces run).map (·.span)))
      rw [faults, List.map_append, split, List.map_append]
      rw [List.append_assoc] at here
      rw [List.append_assoc] at here
      exact later.trans here

end Scanner

/-! ### The faults of a source -/

theorem faults_ofSource_sublist (source : String) :
    ((Outline.ofSource source).faults.map (·.span)).Sublist
      ((braces (tokens source)).map (·.span)) :=
  Scanner.initial.faults_sublist (tokens source)

/-- **Each fault is at a brace.** -/
theorem exists_brace_of_mem_faults {source : String} {fault : BlockFault}
    (member : fault ∈ (Outline.ofSource source).faults) :
    ∃ token ∈ tokens source, token.kind.isBrace ∧ token.span = fault.span := by
  have isPlace := (faults_ofSource_sublist source).subset (List.mem_map_of_mem member)
  obtain ⟨token, isBrace, same⟩ := List.mem_map.mp isPlace
  obtain ⟨inTokens, brace⟩ := List.mem_filter.mp isBrace
  exact ⟨token, inTokens, brace, same⟩

/-- **Braces stand in the order of the source**, no two at one place. -/
theorem braces_ascending (source : String) :
    (braces (tokens source)).Pairwise fun first second =>
      first.span.start < second.span.start := by
  refine ((Grammar.tokens_ascending source).sublist List.filter_sublist).imp_of_mem
    fun {first second} inFirst _ before => ?_
  obtain ⟨inTokens, brace⟩ := List.mem_filter.mp inFirst
  have notEnd : first.kind ≠ .eof := TokenKind.ne_eof_of_isBrace brace
  exact (Grammar.tokens_start_lt_stop inTokens notEnd).trans_le before

/-- **Faults stand in the order of the source**, each brace once. -/
theorem faults_ascending (source : String) :
    (Outline.ofSource source).faults.Pairwise fun first second =>
      first.span.start < second.span.start := by
  have spans : ((braces (tokens source)).map (·.span)).Pairwise fun first second =>
      first.start < second.start := List.pairwise_map.mpr (braces_ascending source)
  have reported := spans.sublist (faults_ofSource_sublist source)
  rwa [List.pairwise_map] at reported

end StyleBaseline
