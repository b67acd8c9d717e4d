/-
**File patterns.** A pattern is a list of parts, and it matches a path if the parts in turn take up
all its bytes. A star takes any bytes, slashes included; two stars that fill a whole component take
whole components.

* `GlobPart` — the parts of patterns.
* `Glob.matchesPath` — whether a pattern matches a path.
-/
import StyleBaseline.Files.Path
import StyleBaseline.Text.Utf8

namespace StyleBaseline

/-- A part of a pattern. -/
inductive GlobPart where
  /-- One character. -/
  | literal (c : Char)
  /-- Any one byte. -/
  | anyByte
  /-- Any bytes. -/
  | anyBytes
  /-- Whole components, or none, before the rest of a pattern. -/
  | leadingComponents
  /-- A slash and all behind it. -/
  | trailingComponents
  /-- A slash, and perhaps whole components with a slash behind them. -/
  | innerComponents
  /-- One byte that is in the ranges, or one that is not. -/
  | byteClass (negated : Bool) (ranges : List (Char × Char))
  /-- One of several patterns. -/
  | alternatives (branches : List (List GlobPart))
deriving Repr

/-- A slash. -/
def slashByte : UInt8 := 0x2f

/-- What can remain of bytes when the first ones, perhaps none, are taken. -/
def suffixes : List UInt8 → List (List UInt8)
  | [] => [[]]
  | b :: bytes => (b :: bytes) :: suffixes bytes

/-- What can remain of bytes when the first ones up to one of the slashes are taken. -/
def suffixesBehindSlash : List UInt8 → List (List UInt8)
  | [] => []
  | b :: bytes =>
      if b = slashByte then bytes :: suffixesBehindSlash bytes else suffixesBehindSlash bytes

/-- What remains behind given bytes. -/
def bytesBehind? : List UInt8 → List UInt8 → Option (List UInt8)
  | [], bytes => some bytes
  | _ :: _, [] => none
  | a :: as, b :: bs => if a = b then bytesBehind? as bs else none

/-- The byte ranges of a range of characters. The bytes of both ends count, those between the last
byte of the one and the first byte of the other as a range. -/
def byteRanges (range : Char × Char) : List (UInt8 × UInt8) :=
  let low := encodeUtf8 [range.1]
  let high := encodeUtf8 [range.2]
  if range.1 = range.2 then low.map fun b => (b, b)
  else low.dropLast.map (fun b => (b, b)) ++ [(low.getLast?.getD 0, high.head?.getD 0)]
    ++ high.tail.map fun b => (b, b)

/-- Whether a byte is in a class. -/
def inByteClass (negated : Bool) (ranges : List (Char × Char)) (b : UInt8) : Bool :=
  ((ranges.flatMap byteRanges).any fun range => range.1 ≤ b && b ≤ range.2) != negated

mutual

/-- Whether a part has nothing in it that takes bytes: alternatives without any such branch. -/
def GlobPart.isVoid : GlobPart → Bool
  | .alternatives branches => allBranchesVoid branches
  | _ => false

/-- Whether no part of a pattern has anything in it. -/
def allPartsVoid : List GlobPart → Bool
  | [] => true
  | part :: parts => part.isVoid && allPartsVoid parts

/-- Whether no branch has anything in it. -/
def allBranchesVoid : List (List GlobPart) → Bool
  | [] => true
  | branch :: branches => allPartsVoid branch && allBranchesVoid branches

end

mutual

/-- Whether a part can take some first bytes such that what remains is acceptable. Branches without
anything in them do not count among alternatives, and alternatives without others take nothing. -/
def GlobPart.takes (accepts : List UInt8 → Bool) (bytes : List UInt8) : GlobPart → Bool
  | .literal c =>
      match bytesBehind? (encodeUtf8 [c]) bytes with
      | some rest => accepts rest
      | none => false
  | .anyByte =>
      match bytes with
      | _ :: rest => accepts rest
      | [] => false
  | .anyBytes => (suffixes bytes).any accepts
  | .leadingComponents => accepts bytes || (suffixesBehindSlash bytes).any accepts
  | .trailingComponents =>
      match bytesBehind? [slashByte] bytes with
      | some rest => (suffixes rest).any accepts
      | none => false
  | .innerComponents =>
      match bytesBehind? [slashByte] bytes with
      | some rest => accepts rest || (suffixesBehindSlash rest).any accepts
      | none => false
  | .byteClass negated ranges =>
      match bytes with
      | b :: rest => inByteClass negated ranges b && accepts rest
      | [] => false
  | .alternatives branches =>
      if allBranchesVoid branches then accepts bytes else branchesTake accepts bytes branches

/-- Whether the parts of a pattern can take some first bytes such that what remains is
acceptable. -/
def partsTake (accepts : List UInt8 → Bool) (bytes : List UInt8) : List GlobPart → Bool
  | [] => accepts bytes
  | part :: parts => part.takes (fun rest => partsTake accepts rest parts) bytes

/-- Whether one of several branches can take some first bytes such that what remains is
acceptable. -/
def branchesTake (accepts : List UInt8 → Bool) (bytes : List UInt8) :
    List (List GlobPart) → Bool
  | [] => false
  | branch :: branches =>
      (!allPartsVoid branch && partsTake accepts bytes branch)
        || branchesTake accepts bytes branches

end

/-- A pattern. -/
structure Glob where
  parts : List GlobPart
deriving Repr

namespace Glob

/-- Whether a pattern takes all bytes of a path. One that is nothing but whole components takes
every path. -/
def matchesPath (glob : Glob) (path : Path) : Bool :=
  match glob.parts with
  | [.leadingComponents] => true
  | parts => partsTake List.isEmpty (encodeUtf8 path.text.toList) parts

end Glob

end StyleBaseline
