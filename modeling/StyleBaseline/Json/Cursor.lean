/-
**A place inside a JSON text.** What remains to be read, and how many bytes are read. A function
that reads takes a cursor and gives a value with the cursor behind it, or stops with a cause.
-/
import StyleBaseline.Json.Fault

namespace StyleBaseline.Json

/-- What remains of a text, and the offset at which that begins. -/
structure Cursor where
  rest : List Char
  offset : Nat
  /-- A number above the length of the text. A loop over the parts of the text goes round less
  often, since each round but the last reads a character. -/
  rounds : Nat
deriving DecidableEq, Repr

/-- Space, tab, line feed and carriage return may stand between any two parts of a text. -/
def isPadding (c : Char) : Bool :=
  c == ' ' || c == '\t' || c == '\n' || c == '\r'

namespace Cursor

/-- The beginning of a text. -/
def ofText (text : String) : Cursor :=
  ⟨text.toList, 0, text.toList.length + 1⟩

/-- The place after the first `count` characters. -/
def skip (cursor : Cursor) (count : Nat) : Cursor :=
  { cursor with
    rest := cursor.rest.drop count
    offset := cursor.offset + byteLength (cursor.rest.take count) }

/-- The place after the white space. -/
def skipPadding (cursor : Cursor) : Cursor :=
  cursor.skip (cursor.rest.takeWhile isPadding).length

/-- A failure at this place. -/
def stopHere {α : Type} (cursor : Cursor) (cause : Cause) : Except Stop α :=
  .error ⟨cause, cursor.offset⟩

/-- A failure a number of bytes further on. -/
def stopAfter {α : Type} (cursor : Cursor) (bytes : Nat) (cause : Cause) : Except Stop α :=
  .error ⟨cause, cursor.offset + bytes⟩

/-- A failure because of the character here, whose first byte counts as read. At the end of the text
nothing more is read. -/
def stopAtNext {α : Type} (cursor : Cursor) (cause : Cause) : Except Stop α :=
  if cursor.rest.isEmpty then cursor.stopHere cause else cursor.stopAfter 1 cause

/-- Reads the letters of a literal. -/
def readLiteral (cursor : Cursor) : List Char → Except Stop Cursor
  | [] => .ok cursor
  | letter :: letters =>
      match cursor.rest with
      | [] => cursor.stopHere .endInValue
      | c :: _ =>
          if c = letter then (cursor.skip 1).readLiteral letters
          else cursor.stopAfter 1 .expectedLiteral

end Cursor

end StyleBaseline.Json
