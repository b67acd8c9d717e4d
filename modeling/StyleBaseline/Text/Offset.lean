/-
**Byte offsets.** A text is a run of characters; places in it are counted in the bytes of its UTF-8
form. Two measures tie the two together.

* `byteLength` — the bytes that a run of characters takes.
* `charCount?` — how many characters fill a given number of bytes, if a character ends there.
-/
namespace StyleBaseline

/-- The number of bytes of a run of characters in UTF-8. -/
def byteLength : List Char → Nat
  | [] => 0
  | c :: cs => c.utf8Size + byteLength cs

@[simp]
theorem byteLength_append (cs ds : List Char) :
    byteLength (cs ++ ds) = byteLength cs + byteLength ds := by
  induction cs with
  | nil => simp [byteLength]
  | cons c cs ih => simp [byteLength, ih, Nat.add_assoc]

/-- How many characters at the front of a text take exactly the given number of bytes, added to a
count. There are none when the bytes go past the end of the text or end inside a character. -/
def charCountFrom? (count : Nat) : List Char → (bytes : Nat) → Option Nat
  | _, 0 => some count
  | [], _ + 1 => none
  | c :: cs, n + 1 =>
      if c.utf8Size ≤ n + 1 then charCountFrom? (count + 1) cs (n + 1 - c.utf8Size) else none

/-- How many characters at the front of a text take exactly the given number of bytes. -/
def charCount? (cs : List Char) (bytes : Nat) : Option Nat :=
  charCountFrom? 0 cs bytes

end StyleBaseline
