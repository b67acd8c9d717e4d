/-
**UTF-8.** The bytes of a text and the text of bytes. Only the shortest form of each character
counts, and surrogates are no characters.

* `encodeUtf8` — the bytes of a run of characters.
* `decodeUtf8?` — the characters that bytes write, if they write any.
-/
namespace StyleBaseline

/-- The bytes of a run of characters. -/
def encodeUtf8 (cs : List Char) : List UInt8 :=
  cs.flatMap String.utf8EncodeChar

/-- Whether a byte goes on with a character. -/
def isContinuation (b : UInt8) : Bool :=
  0x80 ≤ b && b ≤ 0xbf

/-- The six bits that a byte adds to a character. -/
def lowBits (b : UInt8) : Nat :=
  b.toNat % 0x40

/-- The character of a code point that is written in its shortest form if it is not below
`least`. -/
def charFrom? (least n : Nat) : Option Char :=
  if least ≤ n ∧ n.isValidChar then some (Char.ofNat n) else none

/-- The characters that bytes write. -/
def decodeUtf8? : List UInt8 → Option (List Char)
  | [] => some []
  | a :: bytes =>
      if a < 0x80 then (decodeUtf8? bytes).map (Char.ofNat a.toNat :: ·)
      else match bytes with
        | b :: bytes =>
            if !isContinuation b then none
            else if a < 0xe0 then do
              let c ← if 0xc0 ≤ a then charFrom? 0x80 (a.toNat % 0x20 * 0x40 + lowBits b) else none
              (decodeUtf8? bytes).map (c :: ·)
            else match bytes with
              | d :: bytes =>
                  if !isContinuation d then none
                  else if a < 0xf0 then do
                    let c ← charFrom? 0x800 (a.toNat % 0x10 * 0x1000 + lowBits b * 0x40 + lowBits d)
                    (decodeUtf8? bytes).map (c :: ·)
                  else match bytes with
                    | e :: bytes =>
                        if !isContinuation e || 0xf8 ≤ a then none
                        else do
                          let c ← charFrom? 0x10000 (a.toNat % 0x8 * 0x40000 + lowBits b * 0x1000
                            + lowBits d * 0x40 + lowBits e)
                          (decodeUtf8? bytes).map (c :: ·)
                    | [] => none
              | [] => none
        | [] => none

end StyleBaseline
