/-
**Tokens of a stylesheet.** A token is a kind and the stretch of the source that it takes, as byte
offsets. White space between tokens belongs to none.
-/
import StyleBaseline.Text.Offset

namespace StyleBaseline

/-- A stretch of a source, from the offset of its first byte to the offset after its last. -/
structure Span where
  start : Nat
  stop : Nat
deriving DecidableEq, Repr

namespace Span

/-- The number of bytes of a span. -/
def byteCount (span : Span) : Nat :=
  span.stop - span.start

/-- Whether a span takes no byte. -/
def isEmpty (span : Span) : Bool :=
  span.start == span.stop

/-- The text that a span takes from a source. -/
def textIn (span : Span) (source : String) : String :=
  String.Pos.Raw.extract source ⟨span.start⟩ ⟨span.stop⟩

end Span

/-- What a token is. -/
inductive TokenKind where
  /-- A closed comment. -/
  | comment
  /-- A closed string, in double or single quotes. -/
  | string
  /-- An unquoted address, `url(` to the first `)`. -/
  | url
  /-- A name: of a property, a selector, a function, a value. -/
  | ident
  /-- An `@` with its name. -/
  | atKeyword
  | leftBrace
  | rightBrace
  | semicolon
  | colon
  /-- Any other character. -/
  | delim
  /-- A place where no token can be read. -/
  | error
  /-- The end of the source. -/
  | eof
deriving DecidableEq, Repr

/-- A token: its kind and its place. -/
structure Token where
  kind : TokenKind
  span : Span
deriving DecidableEq, Repr

end StyleBaseline
