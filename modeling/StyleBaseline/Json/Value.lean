/-
**JSON values.** A number is a whole number when it is written as one and fits, and a double in any
other case. The members of an object are kept in an order: in that of their names if they are read,
and as they are to be written if not.

* `Value.text` — the written form of a value, on one line and without white space.
* `stringText` — the written form of a string.
-/
import StyleBaseline.Decimal.Shortest

namespace StyleBaseline.Json

/-- A number. -/
inductive Number where
  /-- A whole number from zero to `2 ^ 64 - 1`. -/
  | natural (value : Nat)
  /-- A whole number from `- 2 ^ 63` to minus one, by its magnitude. -/
  | negative (magnitude : Nat)
  /-- A double. -/
  | double (isNegative : Bool) (magnitude : Binary64)
deriving DecidableEq, Repr

/-- A JSON value. -/
inductive Value where
  | null
  | bool (value : Bool)
  | number (value : Number)
  | string (value : String)
  | array (items : List Value)
  | object (members : List (String × Value))
deriving Repr

/-! ### Written form -/

/-- The hexadecimal digits, two of them, of a code below 256. -/
def twoHexDigits (n : Nat) : List Char :=
  [Nat.digitChar (n / 16), Nat.digitChar (n % 16)]

/-- A character inside a string: quotes, backslashes and controls are escaped, and nothing else. -/
def stringCharText (c : Char) : List Char :=
  if c = '"' then ['\\', '"']
  else if c = '\\' then ['\\', '\\']
  else if c = '\x08' then ['\\', 'b']
  else if c = '\x0c' then ['\\', 'f']
  else if c = '\n' then ['\\', 'n']
  else if c = '\r' then ['\\', 'r']
  else if c = '\t' then ['\\', 't']
  else if c.toNat < 0x20 then ['\\', 'u', '0', '0'] ++ twoHexDigits c.toNat
  else [c]

/-- A string between its quotes. -/
def stringText (text : String) : List Char :=
  '"' :: text.toList.flatMap stringCharText ++ ['"']

/-- A number in decimal. A double always has a point or an exponent. -/
def Number.text : Number → List Char
  | natural value => Nat.toDigits 10 value
  | negative magnitude => '-' :: Nat.toDigits 10 magnitude
  | double true magnitude => '-' :: magnitude.text
  | double false magnitude => magnitude.text

/-- Texts with a comma between each two. -/
def commaSeparated : List (List Char) → List Char
  | [] => []
  | [text] => text
  | text :: rest => text ++ ',' :: commaSeparated rest

mutual

/-- The written form of a value. -/
def Value.text : Value → List Char
  | .null => ['n', 'u', 'l', 'l']
  | .bool true => ['t', 'r', 'u', 'e']
  | .bool false => ['f', 'a', 'l', 's', 'e']
  | .number value => value.text
  | .string value => stringText value
  | .array items => '[' :: commaSeparated (itemTexts items) ++ [']']
  | .object members => '\x7b' :: commaSeparated (memberTexts members) ++ ['\x7d']

/-- The written forms of the items of an array. -/
def itemTexts : List Value → List (List Char)
  | [] => []
  | item :: items => item.text :: itemTexts items

/-- The written forms of the members of an object. -/
def memberTexts : List (String × Value) → List (List Char)
  | [] => []
  | (name, value) :: members => (stringText name ++ ':' :: value.text) :: memberTexts members

end

end StyleBaseline.Json
