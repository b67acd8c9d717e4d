/-
**JSON for people to read.** Each item and each member has a line of its own, two spaces further in
than the line of the bracket before it; an array or an object without any is written as its two
brackets.

* `Value.layout` — the text of a value.
-/
import StyleBaseline.Json.Value

namespace StyleBaseline.Json

/-- The line feed and the spaces in front of a line at a level. -/
def newLine (level : Nat) : List Char :=
  '\n' :: List.replicate (2 * level) ' '

/-- Texts on lines of their own, at a level, with a comma behind each but the last. -/
def lineSeparated (level : Nat) : List (List Char) → List Char
  | [] => []
  | [text] => newLine level ++ text
  | text :: rest => newLine level ++ text ++ ',' :: lineSeparated level rest

/-- Texts between brackets, whose own line is at a level. -/
def bracketed (level : Nat) (opening closing : Char) (texts : List (List Char)) : List Char :=
  if texts.isEmpty then [opening, closing]
  else opening :: lineSeparated (level + 1) texts ++ newLine level ++ [closing]

mutual

/-- The text of a value that begins on a line of a level. -/
def Value.layoutAt (level : Nat) : Value → List Char
  | .array items => bracketed level '[' ']' (itemLayouts (level + 1) items)
  | .object members => bracketed level '\x7b' '\x7d' (memberLayouts (level + 1) members)
  | .null => Value.null.text
  | .bool value => (Value.bool value).text
  | .number value => value.text
  | .string value => stringText value

/-- The texts of the items of an array. -/
def itemLayouts (level : Nat) : List Value → List (List Char)
  | [] => []
  | item :: items => item.layoutAt level :: itemLayouts level items

/-- The texts of the members of an object. -/
def memberLayouts (level : Nat) : List (String × Value) → List (List Char)
  | [] => []
  | (name, value) :: members =>
      (stringText name ++ [':', ' '] ++ value.layoutAt level) :: memberLayouts level members

end

/-- The text of a value, for people to read. -/
def Value.layout (value : Value) : String :=
  String.ofList (value.layoutAt 0)

end StyleBaseline.Json
