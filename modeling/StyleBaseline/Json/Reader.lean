/-
**Reading JSON.** The parts from which readers of whole texts are made, and the reader of any value.
Arrays and objects are read one item or member at a time, so that a reader which knows what it looks
for stops at the first place that is wrong.

* `Cursor.nextItem`, `Cursor.closeList` — the way through an array.
* `Cursor.nextMember`, `Cursor.readColon`, `Cursor.closeObject` — the way through an object.
* `Cursor.readValue` — any value, up to a number of levels of nesting.
* `Cursor.refuseType` — the failure at a value of the wrong type.
* `Value.ofText` — the value that a whole text writes.
-/
import StyleBaseline.Json.Strings
import StyleBaseline.Json.Numbers
import StyleBaseline.Table

namespace StyleBaseline.Json

/-- The levels of nesting of a text. -/
def levelLimit : Nat := 127

namespace Cursor

/-! ### Arrays -/

/-- The place of the next item of an array; none where the array closes. -/
def nextItem (cursor : Cursor) (isFirst : Bool) : Except Stop (Option Cursor) :=
  let here := cursor.skipPadding
  match here.rest with
  | [] => here.stopHere .endInList
  | ']' :: _ => .ok none
  | c :: _ =>
      if isFirst then .ok (some here)
      else if c = ',' then
        let item := (here.skip 1).skipPadding
        match item.rest with
        | [] => item.stopHere .endInValue
        | ']' :: _ => item.stopAtNext .trailingComma
        | _ => .ok (some item)
      else here.stopAtNext .expectedListCommaOrEnd

/-- The place behind an array of which all items are read. -/
def closeList (cursor : Cursor) : Except Stop Cursor :=
  let here := cursor.skipPadding
  match here.rest with
  | [] => here.stopHere .endInList
  | ']' :: _ => .ok (here.skip 1)
  | ',' :: _ =>
      let item := (here.skip 1).skipPadding
      match item.rest with
      | ']' :: _ => item.stopAtNext .trailingComma
      | _ => item.stopAtNext .trailingCharacters
  | _ => here.stopAtNext .trailingCharacters

/-- Reads the items of an array, in at most so many rounds. -/
def readItems {α : Type} (readItem : Cursor → Except Stop (α × Cursor)) :
    (rounds : Nat) → (isFirst : Bool) → Cursor → Except Stop (List α × Cursor)
  | 0, _, cursor => cursor.stopHere .endInList
  | rounds + 1, isFirst, cursor => do
      match ← cursor.nextItem isFirst with
      | none => .ok ([], cursor)
      | some here =>
          let (item, behind) ← readItem here
          let (items, behind) ← readItems readItem rounds false behind
          .ok (item :: items, behind)

/-- Reads an array from behind its opening bracket. -/
def readList {α : Type} (readItem : Cursor → Except Stop (α × Cursor)) (cursor : Cursor) :
    Except Stop (List α × Cursor) := do
  let (items, behind) ← readItems readItem cursor.rounds true cursor
  let behind ← behind.closeList
  .ok (items, behind)

/-! ### Objects -/

/-- The place behind the opening quote of the next name of an object; none where the object
closes. -/
def nextMember (cursor : Cursor) (isFirst : Bool) : Except Stop (Option Cursor) :=
  let here := cursor.skipPadding
  match here.rest with
  | [] => here.stopHere .endInObject
  | '\x7d' :: _ => .ok none
  | c :: _ =>
      if isFirst then
        if c = '"' then .ok (some (here.skip 1)) else here.stopAtNext .nameNotString
      else if c = ',' then
        let member := (here.skip 1).skipPadding
        match member.rest with
        | [] => member.stopHere .endInValue
        | '"' :: _ => .ok (some (member.skip 1))
        | '\x7d' :: _ => member.stopAtNext .trailingComma
        | _ => member.stopAtNext .nameNotString
      else here.stopAtNext .expectedObjectCommaOrEnd

/-- The place behind the colon between a name and its value. -/
def readColon (cursor : Cursor) : Except Stop Cursor :=
  let here := cursor.skipPadding
  match here.rest with
  | [] => here.stopHere .endInObject
  | ':' :: _ => .ok (here.skip 1)
  | _ => here.stopAtNext .expectedColon

/-- The place behind an object of which all members are read. -/
def closeObject (cursor : Cursor) : Except Stop Cursor :=
  let here := cursor.skipPadding
  match here.rest with
  | [] => here.stopHere .endInObject
  | '\x7d' :: _ => .ok (here.skip 1)
  | ',' :: _ => here.stopAtNext .trailingComma
  | _ => here.stopAtNext .trailingCharacters

/-- Reads the members of an object, in at most so many rounds. For each of them `readMember` goes
on from behind its name. -/
def readMembers {σ : Type} (readMember : σ → String → Cursor → Except Stop (σ × Cursor)) :
    (rounds : Nat) → (isFirst : Bool) → σ → Cursor → Except Stop (σ × Cursor)
  | 0, _, _, cursor => cursor.stopHere .endInObject
  | rounds + 1, isFirst, state, cursor => do
      match ← cursor.nextMember isFirst with
      | none => .ok (state, cursor)
      | some here =>
          let (name, behind) ← here.readString
          let (state, behind) ← readMember state name behind
          readMembers readMember rounds false state behind

/-- Reads an object of values of one type from behind its opening brace. -/
def readMap {σ α : Type} (add : σ → String → α → σ) (empty : σ)
    (readValue : Cursor → Except Stop (α × Cursor)) (cursor : Cursor) :
    Except Stop (σ × Cursor) := do
  let readMember (state : σ) (name : String) (cursor : Cursor) : Except Stop (σ × Cursor) := do
    let (value, behind) ← readValue (← cursor.readColon)
    .ok (add state name value, behind)
  let (state, behind) ← readMembers readMember cursor.rounds true empty cursor
  let behind ← behind.closeObject
  .ok (state, behind)

/-- A failure inside an object that no character shows. Its place is behind the object if that
closes here. -/
def stopInObject {α : Type} (cursor : Cursor) (cause : Cause) : Except Stop α :=
  let here := cursor.skipPadding
  match here.rest with
  | '\x7d' :: _ => (here.skip 1).stopHere cause
  | _ => here.stopHere cause

/-! ### Values -/

/-- Reads a value that has no parts. -/
def readScalar (here : Cursor) : Except Stop (Value × Cursor) :=
  match here.rest with
  | [] => here.stopHere .endInValue
  | 'n' :: _ => do
      let behind ← (here.skip 1).readLiteral ['u', 'l', 'l']
      .ok (.null, behind)
  | 't' :: _ => do
      let behind ← (here.skip 1).readLiteral ['r', 'u', 'e']
      .ok (.bool true, behind)
  | 'f' :: _ => do
      let behind ← (here.skip 1).readLiteral ['a', 'l', 's', 'e']
      .ok (.bool false, behind)
  | '"' :: _ => do
      let (text, behind) ← (here.skip 1).readString
      .ok (.string text, behind)
  | c :: _ =>
      if c = '-' ∨ c.isDigit then do
        let (value, behind) ← here.readNumber
        .ok (.number value, behind)
      else here.stopAtNext .expectedValue

/-- Reads a value with at most so many levels of nesting. -/
def readValue : (levels : Nat) → Cursor → Except Stop (Value × Cursor)
  | 0, cursor =>
      let here := cursor.skipPadding
      match here.rest with
      | '[' :: _ | '\x7b' :: _ => here.stopAtNext .recursionLimit
      | _ => here.readScalar
  | levels + 1, cursor =>
      let here := cursor.skipPadding
      match here.rest with
      | '[' :: _ => do
          let (items, behind) ← readList (readValue levels) (here.skip 1)
          .ok (.array items, behind)
      | '\x7b' :: _ => do
          let add (members : List (String × Value)) (name : String) (value : Value) :=
            Table.insertAmong name value members
          let (members, behind) ← readMap add [] (readValue levels) (here.skip 1)
          .ok (.object members, behind)
      | _ => here.readScalar

/-- The failure at a value of another type than is called for. A value without parts is read
first. -/
def refuseType {α : Type} (here : Cursor) (expected : Expected) : Except Stop α :=
  match here.rest with
  | '[' :: _ => here.stopHere (.wrongType .sequence expected)
  | '\x7b' :: _ => here.stopHere (.wrongType .map expected)
  | _ => do
      let (value, behind) ← here.readScalar
      match value with
      | .null => behind.stopHere (.wrongType .null expected)
      | .bool value => behind.stopHere (.wrongType (.bool value) expected)
      | .number value => behind.stopHere (.wrongType (.number value) expected)
      | .string value => behind.stopHere (.wrongType (.string value) expected)
      | .array _ => behind.stopHere (.wrongType .sequence expected)
      | .object _ => behind.stopHere (.wrongType .map expected)

/-- Reads a string where one is called for. -/
def readText (expected : Expected) (cursor : Cursor) : Except Stop (String × Cursor) :=
  let here := cursor.skipPadding
  match here.rest with
  | '"' :: _ => (here.skip 1).readString
  | _ => here.refuseType expected

/-- Refuses whatever stands behind the value of a text. -/
def readEnd (cursor : Cursor) : Except Stop Unit :=
  let here := cursor.skipPadding
  if here.rest.isEmpty then .ok () else here.stopAtNext .trailingCharacters

end Cursor

/-- Reads a whole text with a reader for the value in it. -/
def readWhole {α : Type} (readOne : Cursor → Except Stop (α × Cursor)) (text : String) :
    Except Fault α :=
  let result : Except Stop α := do
    let (value, behind) ← readOne (Cursor.ofText text)
    behind.readEnd
    .ok value
  result.mapError (Fault.ofStop text)

/-- The value that a text writes. -/
def Value.ofText (text : String) : Except Fault Value :=
  readWhole (Cursor.readValue levelLimit) text

end StyleBaseline.Json
