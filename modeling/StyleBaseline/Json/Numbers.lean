/-
**Numbers of a JSON text.** A number without a fraction and an exponent is whole if it fits into 64
bits, with a sign or without. Of any other the leading digits are gathered as long as they fit into
64 bits; the digits after these count only by their place, or not at all behind the point. The
double is then the one that the digits and the power of ten give, each step rounded. A number can
also be skimmed: then only its form counts, not its size.

* `Cursor.readNumber` — the number.
* `Cursor.skimNumber` — the place behind a number.
-/
import StyleBaseline.Json.Cursor

namespace StyleBaseline.Json

/-- The largest whole number of 64 bits without a sign. -/
def greatestNatural : Nat := 18446744073709551615

/-- The largest magnitude of a negative whole number of 64 bits with a sign. -/
def greatestNegative : Nat := 9223372036854775808

/-- The largest exponent that is followed digit by digit: that of 32 bits with a sign. -/
def greatestExponent : Nat := 2147483647

/-- The value of a decimal digit. -/
def decimalDigit (c : Char) : Nat :=
  c.toNat - '0'.toNat

/-- Takes digits as long as the number they write does not pass a limit. Gives the number, how many
digits it takes, and the rest. -/
def gatherDigits (limit : Nat) : (value count : Nat) → List Char → Nat × Nat × List Char
  | value, count, [] => (value, count, [])
  | value, count, c :: cs =>
      if c.isDigit ∧ value * 10 + decimalDigit c ≤ limit then
        gatherDigits limit (value * 10 + decimalDigit c) (count + 1) cs
      else (value, count, c :: cs)

/-- A whole number that the grammar of numbers writes with a sign or without. -/
def wholeNumber? (isNegative : Bool) (magnitude : Nat) : Option Number :=
  if isNegative then
    if 0 < magnitude ∧ magnitude ≤ greatestNegative then some (.negative magnitude) else none
  else some (.natural magnitude)

namespace Cursor

/-- The place behind the digits. -/
def skipDigits (cursor : Cursor) : Cursor :=
  cursor.skip (cursor.rest.takeWhile Char.isDigit).length

/-- The double of a number whose last character is just read. -/
def finishDouble (cursor : Cursor) (isNegative : Bool) (significand : Nat) (power : Int) :
    Except Stop (Number × Cursor) :=
  match Binary64.scaled? significand power with
  | some magnitude => .ok (.double isNegative magnitude, cursor)
  | none => cursor.stopHere .numberOutOfRange

/-- Reads the digits of an exponent. One that is too large to be followed gives zero if the number is
zero or the exponent negative. -/
def readExponentDigits (cursor : Cursor) (isNegative lowers : Bool) (significand : Nat)
    (power : Int) : Except Stop (Number × Cursor) :=
  match cursor.rest with
  | [] => cursor.stopHere .endInValue
  | c :: _ =>
      if !c.isDigit then cursor.stopAfter 1 .invalidNumber
      else
        let (exponent, count, rest) := gatherDigits greatestExponent 0 0 cursor.rest
        let behind := cursor.skip count
        if (rest.head?.map Char.isDigit).getD false then
          if significand ≠ 0 ∧ !lowers then behind.stopAfter 1 .numberOutOfRange
          else .ok (.double isNegative Binary64.zero, behind.skipDigits)
        else behind.finishDouble isNegative significand
          (if lowers then power - exponent else power + exponent)

/-- Reads an exponent from behind its letter. -/
def readExponent (cursor : Cursor) (isNegative : Bool) (significand : Nat) (power : Int) :
    Except Stop (Number × Cursor) :=
  match cursor.rest with
  | '+' :: _ => (cursor.skip 1).readExponentDigits isNegative false significand power
  | '-' :: _ => (cursor.skip 1).readExponentDigits isNegative true significand power
  | _ => cursor.readExponentDigits isNegative false significand power

/-- Goes on behind the whole part and the fraction of a double. -/
def readPower (cursor : Cursor) (isNegative : Bool) (significand : Nat) (power : Int) :
    Except Stop (Number × Cursor) :=
  match cursor.rest with
  | 'e' :: _ | 'E' :: _ => (cursor.skip 1).readExponent isNegative significand power
  | _ => cursor.finishDouble isNegative significand power

/-- Reads a fraction from behind its point. -/
def readFraction (cursor : Cursor) (isNegative : Bool) (significand : Nat) (power : Int) :
    Except Stop (Number × Cursor) :=
  if (cursor.rest.head?.map Char.isDigit).getD false then
    let (gathered, count, _) := gatherDigits greatestNatural significand 0 cursor.rest
    cursor.skipDigits.readPower isNegative gathered (power - count)
  else if cursor.rest.isEmpty then cursor.stopHere .endInValue
  else cursor.stopAtNext .invalidNumber

/-- Goes on behind the whole part of a number, of whose digits the first ones are gathered. -/
def readBehindWhole (cursor : Cursor) (isNegative : Bool) (significand : Nat) :
    Except Stop (Number × Cursor) :=
  let behind := cursor.skipDigits
  let power := behind.offset - cursor.offset
  match behind.rest with
  | '.' :: _ => (behind.skip 1).readFraction isNegative significand power
  | 'e' :: _ | 'E' :: _ => (behind.skip 1).readExponent isNegative significand power
  | _ =>
      match power, wholeNumber? isNegative significand with
      | 0, some value => .ok (value, behind)
      | _, _ => behind.finishDouble isNegative significand power

/-- Reads a number from behind its sign. -/
def readMagnitude (cursor : Cursor) (isNegative : Bool) : Except Stop (Number × Cursor) :=
  match cursor.rest with
  | [] => cursor.stopHere .endInValue
  | '0' :: rest =>
      if (rest.head?.map Char.isDigit).getD false then (cursor.skip 1).stopAtNext .invalidNumber
      else (cursor.skip 1).readBehindWhole isNegative 0
  | c :: _ =>
      if c.isDigit then
        let (significand, count, _) := gatherDigits greatestNatural 0 0 cursor.rest
        (cursor.skip count).readBehindWhole isNegative significand
      else cursor.stopAfter 1 .invalidNumber

/-- Reads a number. -/
def readNumber (cursor : Cursor) : Except Stop (Number × Cursor) :=
  match cursor.rest with
  | '-' :: _ => (cursor.skip 1).readMagnitude true
  | _ => cursor.readMagnitude false

/-- The place behind the digits of an exponent. -/
def skimExponentDigits (cursor : Cursor) : Except Stop Cursor :=
  match cursor.rest with
  | [] => cursor.stopHere .invalidNumber
  | c :: _ => if c.isDigit then .ok cursor.skipDigits else cursor.stopAfter 1 .invalidNumber

/-- The place behind an exponent, from behind its letter. -/
def skimExponent (cursor : Cursor) : Except Stop Cursor :=
  match cursor.rest with
  | '+' :: _ | '-' :: _ => (cursor.skip 1).skimExponentDigits
  | _ => cursor.skimExponentDigits

/-- The place behind a fraction, from behind its point. -/
def skimFraction (cursor : Cursor) : Except Stop Cursor :=
  if (cursor.rest.head?.map Char.isDigit).getD false then
    let behind := cursor.skipDigits
    match behind.rest with
    | 'e' :: _ | 'E' :: _ => (behind.skip 1).skimExponent
    | _ => .ok behind
  else cursor.stopAtNext .invalidNumber

/-- The place behind a number, from behind its whole part. -/
def skimBehindWhole (cursor : Cursor) : Except Stop Cursor :=
  match cursor.rest with
  | '.' :: _ => (cursor.skip 1).skimFraction
  | 'e' :: _ | 'E' :: _ => (cursor.skip 1).skimExponent
  | _ => .ok cursor

/-- The place behind a number, from behind its sign. -/
def skimMagnitude (cursor : Cursor) : Except Stop Cursor :=
  match cursor.rest with
  | [] => cursor.stopHere .invalidNumber
  | '0' :: rest =>
      if (rest.head?.map Char.isDigit).getD false then (cursor.skip 1).stopAtNext .invalidNumber
      else (cursor.skip 1).skimBehindWhole
  | c :: _ =>
      if c.isDigit then cursor.skipDigits.skimBehindWhole
      else cursor.stopAfter 1 .invalidNumber

/-- The place behind a number. -/
def skimNumber (cursor : Cursor) : Except Stop Cursor :=
  match cursor.rest with
  | '-' :: _ => (cursor.skip 1).skimMagnitude
  | _ => cursor.skimMagnitude

end Cursor

end StyleBaseline.Json
