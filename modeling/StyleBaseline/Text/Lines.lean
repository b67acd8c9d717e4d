/-
**Lines and columns.** A text is cut at its line feeds; a place in it is then a line number and a
column, both counted from one, the column in characters.

* `LineTable.ofText` — the lines of a text with the offset at which each begins.
* `LineTable.position?` — the line and column of a byte offset; none past the end of the text and
  inside a character.
* `LineTable.lineText?` — the text of a line without its terminator, a carriage return before the
  line feed being part of the terminator.
-/
import StyleBaseline.Text.Offset

namespace StyleBaseline

/-- A place in a text, by line and column, both counted from one. -/
structure Position where
  line : Nat
  column : Nat
deriving DecidableEq, Repr

/-- A line without its line feed, and the offset at which it begins. -/
structure Line where
  start : Nat
  text : List Char
deriving DecidableEq, Repr

/-- The lines of a text that begins at the offset `here`. There is always a last one, empty if the
text ends in a line feed. -/
def linesFrom (here : Nat) : List Char → List Line
  | [] => [⟨here, []⟩]
  | c :: cs =>
      if c = '\n' then ⟨here, []⟩ :: linesFrom (here + 1) cs
      else match linesFrom (here + c.utf8Size) cs with
        | [] => [⟨here, [c]⟩]
        | line :: rest => ⟨here, c :: line.text⟩ :: rest

/-- The line on which a byte offset lies, with its number, among lines numbered from `number` on: it
is the last one that begins at or before the offset. -/
def lineAt? (offset : Nat) : Nat → List Line → Option (Nat × Line)
  | _, [] => none
  | number, [line] => some (number, line)
  | number, line :: next :: rest =>
      if next.start ≤ offset then lineAt? offset (number + 1) (next :: rest)
      else some (number, line)

/-- A line's text when one carriage return at its end is left out. -/
def dropFinalReturn (cs : List Char) : List Char :=
  if cs.getLast? = some '\r' then cs.dropLast else cs

/-- The lines of a text, in order. -/
structure LineTable where
  lines : List Line
deriving DecidableEq, Repr

namespace LineTable

/-- The line table of a text. -/
def ofText (text : String) : LineTable :=
  ⟨linesFrom 0 text.toList⟩

/-- The number of lines. -/
def lineCount (table : LineTable) : Nat :=
  table.lines.length

/-- The line and column of a byte offset. -/
def position? (table : LineTable) (offset : Nat) : Option Position := do
  let (number, line) ← lineAt? offset 1 table.lines
  let count ← charCount? line.text (offset - line.start)
  return ⟨number, count + 1⟩

/-- The text of a line, by its number counted from one. -/
def lineText? (table : LineTable) : Nat → Option String
  | 0 => none
  | number + 1 => table.lines[number]?.map fun line => String.ofList (dropFinalReturn line.text)

end LineTable

end StyleBaseline
