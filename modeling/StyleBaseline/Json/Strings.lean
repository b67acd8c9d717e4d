/-
**Strings of a JSON text.** A string is read from behind its opening quote to behind its closing
one. It can also be skimmed: then its extent is found without its text, and a surrogate needs no
partner.

* `Cursor.readString` — the text of a string.
* `Cursor.skimString` — the place behind a string.
-/
import StyleBaseline.Json.Cursor

namespace StyleBaseline.Json

/-- The value of a hexadecimal digit. -/
def hexDigit? (c : Char) : Option Nat :=
  if '0' ≤ c ∧ c ≤ '9' then some (c.toNat - '0'.toNat)
  else if 'a' ≤ c ∧ c ≤ 'f' then some (c.toNat - 'a'.toNat + 10)
  else if 'A' ≤ c ∧ c ≤ 'F' then some (c.toNat - 'A'.toNat + 10)
  else none

/-- The number that four hexadecimal digits write. -/
def hexUnit? (cs : List Char) : Option Nat :=
  match cs.map hexDigit? with
  | [some a, some b, some c, some d] => some (((a * 16 + b) * 16 + c) * 16 + d)
  | _ => none

/-- The first half of a surrogate pair. -/
def isLeadSurrogate (unit : Nat) : Bool :=
  0xd800 ≤ unit && unit ≤ 0xdbff

/-- The second half of a surrogate pair. -/
def isTrailSurrogate (unit : Nat) : Bool :=
  0xdc00 ≤ unit && unit ≤ 0xdfff

/-- The character of a surrogate pair. -/
def pairedChar (lead trail : Nat) : Char :=
  Char.ofNat (0x10000 + (lead - 0xd800) * 0x400 + (trail - 0xdc00))

/-- The character that a letter stands for behind a backslash. -/
def shortEscape? (c : Char) : Option Char :=
  match c with
  | '"' => some '"'
  | '\\' => some '\\'
  | '/' => some '/'
  | 'b' => some '\x08'
  | 'f' => some '\x0c'
  | 'n' => some '\n'
  | 'r' => some '\r'
  | 't' => some '\t'
  | _ => none

namespace Cursor

/-- Reads four hexadecimal digits. -/
def readHexUnit (cursor : Cursor) : Except Stop (Nat × Cursor) :=
  let window := cursor.rest.take 4
  if byteLength window < 4 then cursor.stopAfter (byteLength window) .endInString
  else match hexUnit? window with
    | some unit => .ok (unit, cursor.skip 4)
    | none => cursor.stopAfter 4 .invalidEscape

/-- Reads the second half of a surrogate pair, which has to follow its first half. -/
def readTrailSurrogate (cursor : Cursor) : Except Stop (Nat × Cursor) :=
  match cursor.rest with
  | [] => cursor.stopHere .endInString
  | '\\' :: [] => cursor.stopAfter 1 .endInString
  | '\\' :: 'u' :: _ => do
      let (unit, behind) ← (cursor.skip 2).readHexUnit
      if isTrailSurrogate unit then .ok (unit, behind) else behind.stopHere .loneSurrogate
  | '\\' :: _ => cursor.stopAfter 2 .brokenSurrogatePair
  | _ => cursor.stopAfter 1 .brokenSurrogatePair

/-- Reads the character that an escape stands for, from behind its backslash. -/
def readEscape (cursor : Cursor) : Except Stop (Char × Cursor) :=
  match cursor.rest with
  | [] => cursor.stopHere .endInString
  | 'u' :: _ => do
      let (unit, behind) ← (cursor.skip 1).readHexUnit
      if isTrailSurrogate unit then behind.stopHere .loneSurrogate
      else if isLeadSurrogate unit then
        let (trail, behind) ← behind.readTrailSurrogate
        .ok (pairedChar unit trail, behind)
      else .ok (Char.ofNat unit, behind)
  | letter :: _ =>
      match shortEscape? letter with
      | some c => .ok (c, cursor.skip 1)
      | none => cursor.stopAfter 1 .invalidEscape

/-- Finds the end of an escape, from behind its backslash. -/
def skimEscape (cursor : Cursor) : Except Stop Cursor :=
  match cursor.rest with
  | [] => cursor.stopHere .endInString
  | 'u' :: _ => do
      let (_, behind) ← (cursor.skip 1).readHexUnit
      .ok behind
  | letter :: _ =>
      if (shortEscape? letter).isSome then .ok (cursor.skip 1)
      else cursor.stopAfter 1 .invalidEscape

/-- Reads the characters up to the closing quote, in at most so many rounds, behind those that are
given backwards. -/
def readCharacters : (rounds : Nat) → (before : List Char) → Cursor →
    Except Stop (List Char × Cursor)
  | 0, _, cursor => cursor.stopHere .endInString
  | rounds + 1, before, cursor =>
      match cursor.rest with
      | [] => cursor.stopHere .endInString
      | '"' :: _ => .ok (before.reverse, cursor.skip 1)
      | '\\' :: _ => do
          let (c, behind) ← (cursor.skip 1).readEscape
          readCharacters rounds (c :: before) behind
      | c :: _ =>
          if c.toNat < 0x20 then cursor.stopAfter 1 .controlCharacter
          else readCharacters rounds (c :: before) (cursor.skip 1)

/-- Reads a string from behind its opening quote. -/
def readString (cursor : Cursor) : Except Stop (String × Cursor) := do
  let (cs, behind) ← readCharacters cursor.rounds [] cursor
  .ok (String.ofList cs, behind)

/-- Finds the closing quote, in at most so many rounds. -/
def skimCharacters : (rounds : Nat) → Cursor → Except Stop Cursor
  | 0, cursor => cursor.stopHere .endInString
  | rounds + 1, cursor =>
      match cursor.rest with
      | [] => cursor.stopHere .endInString
      | '"' :: _ => .ok (cursor.skip 1)
      | '\\' :: _ => do
          let behind ← (cursor.skip 1).skimEscape
          skimCharacters rounds behind
      | c :: _ =>
          if c.toNat < 0x20 then cursor.stopHere .controlCharacter
          else skimCharacters rounds (cursor.skip 1)

/-- The place behind a string, from behind its opening quote. -/
def skimString (cursor : Cursor) : Except Stop Cursor :=
  skimCharacters cursor.rounds cursor

end Cursor

end StyleBaseline.Json
