/-
**What can be wrong with a JSON text.** A fault is a cause and the place of the text at which it
shows.

* `Cause.message` — the wording of a cause.
* `Cause.category` — whether the text breaks off, breaks the grammar, or says the wrong thing.
* `Fault.message` — the cause with line and column. The column counts the bytes of the line that are
  read, so that it is zero just after a line feed.
* `quoted` — a text between double quotes, as a fault shows it: whatever does not show is written as
  an escape.
-/
import StyleBaseline.Json.Value
import StyleBaseline.Text.CharacterClasses
import StyleBaseline.Text.Lines

namespace StyleBaseline

/-! ### Quoted texts -/

/-- The hexadecimal digits of a number, without zeros in front. -/
def hexDigits (n : Nat) : List Char :=
  Nat.toDigits 16 n

/-- A character between double quotes. -/
def quotedChar (c : Char) : List Char :=
  if c = '\x00' then ['\\', '0']
  else if c = '\t' then ['\\', 't']
  else if c = '\r' then ['\\', 'r']
  else if c = '\n' then ['\\', 'n']
  else if c = '"' || c = '\\' then ['\\', c]
  else if isUnprintable c then ['\\', 'u', '\x7b'] ++ hexDigits c.toNat ++ ['\x7d']
  else [c]

/-- A text between double quotes. -/
def quoted (text : String) : String :=
  String.ofList ('"' :: text.toList.flatMap quotedChar ++ ['"'])

namespace Json

/-! ### Causes -/

/-- What stands in a place, where it is of the wrong type. -/
inductive Found where
  | null
  | bool (value : Bool)
  | number (value : Number)
  | string (value : String)
  | sequence
  | map
deriving DecidableEq, Repr

/-- What a place calls for. -/
inductive Expected where
  | string
  | path
  | sequence
  | map
  /-- An object with known members, or an array of their values. -/
  | record (name : String)
deriving DecidableEq, Repr

/-- A cause of failure. -/
inductive Cause where
  | endInList
  | endInObject
  | endInString
  | endInValue
  | expectedColon
  | expectedListCommaOrEnd
  | expectedObjectCommaOrEnd
  | expectedLiteral
  | expectedValue
  | invalidEscape
  | invalidNumber
  | numberOutOfRange
  | controlCharacter
  | nameNotString
  | loneSurrogate
  | trailingComma
  | trailingCharacters
  | brokenSurrogatePair
  | recursionLimit
  | wrongType (found : Found) (expected : Expected)
  | emptyRecord (expected : Expected)
  | missingMember (name : String)
  | repeatedMember (name : String)
  | unknownMember (name : String) (known : List String)
  /-- A value of the right form that its place refuses, with the reason. -/
  | refused (reason : String)
deriving DecidableEq, Repr

/-- The three kinds of cause. -/
inductive Category where
  | ending
  | grammar
  | data
deriving DecidableEq, Repr

/-- The wording for what stands in a place. -/
def Found.text : Found → String
  | null => "null"
  | bool true => "boolean `true`"
  | bool false => "boolean `false`"
  | number (.double isNegative magnitude) =>
      "floating point `" ++ String.ofList (Number.double isNegative magnitude).text ++ "`"
  | number value => "integer `" ++ String.ofList value.text ++ "`"
  | string value => "string " ++ quoted value
  | sequence => "sequence"
  | map => "map"

/-- The wording for what a place calls for. -/
def Expected.text : Expected → String
  | string => "a string"
  | path => "a UTF-8 path string"
  | sequence => "a sequence"
  | map => "a map"
  | record name => "struct " ++ name

/-- Names in backquotes with a comma between each two. -/
def namesText (names : List String) : String :=
  String.intercalate ", " (names.map fun name => "`" ++ name ++ "`")

namespace Cause

/-- The wording of a cause. -/
def message : Cause → String
  | endInList => "EOF while parsing a list"
  | endInObject => "EOF while parsing an object"
  | endInString => "EOF while parsing a string"
  | endInValue => "EOF while parsing a value"
  | expectedColon => "expected `:`"
  | expectedListCommaOrEnd => "expected `,` or `]`"
  | expectedObjectCommaOrEnd => "expected `,` or `\x7d`"
  | expectedLiteral => "expected ident"
  | expectedValue => "expected value"
  | invalidEscape => "invalid escape"
  | invalidNumber => "invalid number"
  | numberOutOfRange => "number out of range"
  | controlCharacter => "control character (\\u0000-\\u001F) found while parsing a string"
  | nameNotString => "key must be a string"
  | loneSurrogate => "lone leading surrogate in hex escape"
  | trailingComma => "trailing comma"
  | trailingCharacters => "trailing characters"
  | brokenSurrogatePair => "unexpected end of hex escape"
  | recursionLimit => "recursion limit exceeded"
  | wrongType found expected => "invalid type: " ++ found.text ++ ", expected " ++ expected.text
  | emptyRecord expected => "invalid length 0, expected " ++ expected.text ++ " with 1 element"
  | missingMember name => "missing field `" ++ name ++ "`"
  | repeatedMember name => "duplicate field `" ++ name ++ "`"
  | unknownMember name known =>
      "unknown field `" ++ name ++ "`, expected one of " ++ namesText known
  | refused reason => reason

/-- The kind of a cause. -/
def category : Cause → Category
  | endInList | endInObject | endInString | endInValue => .ending
  | wrongType .. | emptyRecord .. | missingMember .. | repeatedMember .. | unknownMember ..
  | refused .. => .data
  | _ => .grammar

end Cause

/-- A cause and the byte offset at which it shows. -/
structure Stop where
  cause : Cause
  offset : Nat
deriving DecidableEq, Repr

/-- A cause and its place in the text. -/
structure Fault where
  cause : Cause
  line : Nat
  column : Nat
deriving DecidableEq, Repr

namespace Fault

/-- The fault of a text that fails at an offset. -/
def ofStop (text : String) (stop : Stop) : Fault :=
  match lineAt? stop.offset 1 (LineTable.ofText text).lines with
  | some (number, line) => ⟨stop.cause, number, stop.offset - line.start⟩
  | none => ⟨stop.cause, 1, stop.offset⟩

/-- The wording of a fault. -/
def message (fault : Fault) : String :=
  fault.cause.message ++ " at line " ++ toString fault.line ++ " column " ++ toString fault.column

end Fault

end Json

end StyleBaseline
