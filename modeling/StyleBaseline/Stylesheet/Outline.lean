/-
**The outline of a stylesheet.** One pass over the tokens finds the properties that are declared and
the braces that have no partner. Nothing else of the grammar is looked at: values, selectors and
at-rules are passed over.

* `Scanner.step` — what the pass remembers: where it stands in a statement, and the open blocks.
* `Scanner.declaredBy` — the property name that a token completes.
* `Scanner.faultsAt` — the braces that a token shows to be unmatched.
* `Outline.ofSource` — the declarations with their names and positions, and the faults.
-/
import StyleBaseline.Stylesheet.Lexeme
import StyleBaseline.Text.Lines

namespace StyleBaseline

/-- A declared property: its name as it is written and where the name stands. -/
structure Declaration where
  property : String
  span : Span
  line : Nat
  column : Nat
deriving DecidableEq, Repr

/-- How a brace lacks a partner. -/
inductive BlockFaultKind where
  /-- A block is still open at the end of the source. -/
  | unclosedBlock
  /-- A closing brace stands where no block is open. -/
  | unexpectedCloseBrace
deriving DecidableEq, Repr

namespace BlockFaultKind

/-- The wording of a fault. -/
def message : BlockFaultKind → String
  | unclosedBlock => "unclosed block"
  | unexpectedCloseBrace => "unexpected `\x7d`"

end BlockFaultKind

/-- A brace without a partner. -/
structure BlockFault where
  kind : BlockFaultKind
  span : Span
deriving DecidableEq, Repr

/-! ### The pass over the tokens -/

/-- Where the pass stands in a statement. -/
inductive Statement where
  /-- At its beginning: nothing of it is read. -/
  | start
  /-- After a name inside a block, which is a property if a colon follows. -/
  | name (span : Span)
  /-- In the value of the property of that name. -/
  | value (span : Span)
  /-- In anything else. -/
  | other
deriving DecidableEq, Repr

/-- What the pass remembers: its place in the statement, and the opening braces of the blocks
around it, the innermost first. -/
structure Scanner where
  statement : Statement
  openBlocks : List Span
deriving DecidableEq, Repr

namespace Scanner

/-- Before the first token. -/
def initial : Scanner :=
  ⟨.start, []⟩

/-- A name begins a candidate for a property at the start of a statement inside a block. In a
value all tokens but braces and semicolons are passed over. -/
def step (scanner : Scanner) (token : Token) : Scanner :=
  match token.kind with
  | .comment => scanner
  | .leftBrace => ⟨.start, token.span :: scanner.openBlocks⟩
  | .rightBrace => ⟨.start, scanner.openBlocks.tail⟩
  | .semicolon => ⟨.start, scanner.openBlocks⟩
  | .ident =>
      match scanner.statement with
      | .start =>
          if scanner.openBlocks.isEmpty then ⟨.other, scanner.openBlocks⟩
          else ⟨.name token.span, scanner.openBlocks⟩
      | .value span => ⟨.value span, scanner.openBlocks⟩
      | _ => ⟨.other, scanner.openBlocks⟩
  | .colon =>
      match scanner.statement with
      | .name span => ⟨.value span, scanner.openBlocks⟩
      | .value span => ⟨.value span, scanner.openBlocks⟩
      | _ => ⟨.other, scanner.openBlocks⟩
  | .eof => ⟨.other, []⟩
  | _ =>
      match scanner.statement with
      | .value span => ⟨.value span, scanner.openBlocks⟩
      | _ => ⟨.other, scanner.openBlocks⟩

/-- The property name whose declaration a token completes. A brace that opens a block instead
shows that the name was part of a selector. -/
def declaredBy (scanner : Scanner) (token : Token) : Option Span :=
  match token.kind, scanner.statement with
  | .semicolon, .value span => some span
  | .rightBrace, .value span => some span
  | .eof, .value span => some span
  | _, _ => none

/-- The faults that a token shows: a closing brace without a block, and at the end of the source
the blocks still open, the outermost first. -/
def faultsAt (scanner : Scanner) (token : Token) : List BlockFault :=
  match token.kind with
  | .rightBrace =>
      if scanner.openBlocks.isEmpty then [⟨.unexpectedCloseBrace, token.span⟩] else []
  | .eof => scanner.openBlocks.reverse.map fun span => ⟨.unclosedBlock, span⟩
  | _ => []

/-- The state after a run of tokens. -/
def after (scanner : Scanner) (run : List Token) : Scanner :=
  run.foldl step scanner

/-- The names of the properties declared in a run of tokens. -/
def declared : Scanner → List Token → List Span
  | _, [] => []
  | scanner, token :: run => (scanner.declaredBy token).toList ++ declared (scanner.step token) run

/-- The faults in a run of tokens. -/
def faults : Scanner → List Token → List BlockFault
  | _, [] => []
  | scanner, token :: run => scanner.faultsAt token ++ faults (scanner.step token) run

end Scanner

/-! ### The outline of a source -/

/-- What a stylesheet declares, and its unmatched braces. -/
structure Outline where
  declarations : List Declaration
  faults : List BlockFault
deriving DecidableEq, Repr

namespace Outline

/-- The declaration of the property whose name takes the given span of the source. -/
def declarationAt (source : String) (table : LineTable) (span : Span) : Declaration :=
  let position := (table.position? span.start).getD ⟨1, 1⟩
  ⟨span.textIn source, span, position.line, position.column⟩

/-- The outline of a source. -/
def ofSource (source : String) : Outline :=
  let run := tokens source
  let table := LineTable.ofText source
  ⟨(Scanner.initial.declared run).map (declarationAt source table), Scanner.initial.faults run⟩

end Outline

/-- What is told about a stylesheet to those who look at it: each declaration in turn, and then
its end. -/
inductive SheetEvent where
  | declaration (declaration : Declaration)
  | endOfSheet
deriving DecidableEq, Repr

/-- The events of an outline. -/
def Outline.events (outline : Outline) : List SheetEvent :=
  outline.declarations.map .declaration ++ [.endOfSheet]

end StyleBaseline
