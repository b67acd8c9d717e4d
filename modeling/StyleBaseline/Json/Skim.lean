/-
**Skimming JSON.** A value of which nothing is needed is passed over: its form is checked, but no
value is built, so that numbers of any size, single surrogates and any depth of nesting are
accepted.

* `Cursor.skimValue` — the place behind a value.
-/
import StyleBaseline.Json.Reader

namespace StyleBaseline.Json

/-- The two kinds of value with parts. -/
inductive Bracket where
  | list
  | object
deriving DecidableEq, Repr

namespace Bracket

/-- The character that closes an array or an object. -/
def closing : Bracket → Char
  | list => ']'
  | object => '\x7d'

/-- The cause of failure if the text ends inside. -/
def endCause : Bracket → Cause
  | list => .endInList
  | object => .endInObject

/-- The cause of failure if neither a comma nor the end follows a part. -/
def separatorCause : Bracket → Cause
  | list => .expectedListCommaOrEnd
  | object => .expectedObjectCommaOrEnd

end Bracket

/-- What is behind the skimmed part of a text. -/
inductive Skimmed where
  /-- Something after which a value has to follow. -/
  | lead
  /-- An opening bracket. -/
  | bracket
  /-- A value. -/
  | value
deriving DecidableEq, Repr

namespace Cursor

/-- The place behind a value that has no parts. -/
def skimScalar (here : Cursor) : Except Stop Cursor :=
  match here.rest with
  | [] => here.stopHere .endInValue
  | 'n' :: _ => (here.skip 1).readLiteral ['u', 'l', 'l']
  | 't' :: _ => (here.skip 1).readLiteral ['r', 'u', 'e']
  | 'f' :: _ => (here.skip 1).readLiteral ['a', 'l', 's', 'e']
  | '"' :: _ => (here.skip 1).skimString
  | c :: _ =>
      if c = '-' ∨ c.isDigit then here.skimNumber else here.stopAtNext .expectedValue

/-- The place at which the next part has its value: in an object, behind its name and colon. -/
def skimName (cursor : Cursor) : Bracket → Except Stop Cursor
  | .list => .ok cursor
  | .object =>
      let here := cursor.skipPadding
      match here.rest with
      | [] => here.stopHere .endInObject
      | '"' :: _ => do
          let behind ← (here.skip 1).skimString
          behind.readColon
      | _ => here.stopAtNext .nameNotString

/-- Skims on to the end of the outermost value, in at most so many rounds. The brackets that are
open are given from the inside out. -/
def skimOn : (rounds : Nat) → List Bracket → Skimmed → Cursor → Except Stop Cursor
  | 0, _, _, cursor => cursor.stopHere .endInValue
  | rounds + 1, enclosing, .lead, cursor =>
      let here := cursor.skipPadding
      match here.rest with
      | '[' :: _ => skimOn rounds (.list :: enclosing) .bracket (here.skip 1)
      | '\x7b' :: _ => skimOn rounds (.object :: enclosing) .bracket (here.skip 1)
      | _ => do
          let behind ← here.skimScalar
          skimOn rounds enclosing .value behind
  | _ + 1, [], _, cursor => .ok cursor
  | rounds + 1, bracket :: outer, skimmed, cursor =>
      let here := cursor.skipPadding
      match here.rest with
      | [] => here.stopHere bracket.endCause
      | c :: _ =>
          if c = bracket.closing then skimOn rounds outer .value (here.skip 1)
          else if skimmed = .bracket then do
            let behind ← here.skimName bracket
            skimOn rounds (bracket :: outer) .lead behind
          else if c = ',' then do
            let behind ← (here.skip 1).skimName bracket
            skimOn rounds (bracket :: outer) .lead behind
          else here.stopAtNext bracket.separatorCause

/-- The place behind a value. Every second round at the latest reads a character. -/
def skimValue (cursor : Cursor) : Except Stop Cursor :=
  skimOn (2 * cursor.rounds + 1) [] .lead cursor

end Cursor

end StyleBaseline.Json
