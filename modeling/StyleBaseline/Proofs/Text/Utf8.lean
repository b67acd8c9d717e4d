/-
**Bytes and characters.** Decoding undoes encoding: bytes are read as characters exactly if they are
the bytes of those characters. So no two texts have the same bytes, and all else is no text.

* `Writes` — the bytes that write one character, by their number.
* `decodeUtf8?_append` — a character in front is read first.
* `decodeUtf8?_eq_some_iff` — the whole.
-/

import StyleBaseline.Text.Utf8

namespace StyleBaseline

/-! ### Bytes of characters -/

theorem utf8EncodeChar_of_ascii {c : Char} (ascii : c.toNat < 0x80) :
    String.utf8EncodeChar c = [UInt8.ofNat c.toNat] := by
  rw [String.utf8EncodeChar]
  exact if_pos (Nat.le_of_lt_succ ascii)

/-- The bytes of all other characters are above those of ASCII. -/
theorem le_of_mem_utf8EncodeChar {c : Char} (other : 0x80 ≤ c.toNat) {b : UInt8}
    (member : b ∈ String.utf8EncodeChar c) : 0x80 ≤ b.toNat := by
  have high : ¬c.val.toNat ≤ 0x7f := Nat.not_le.mpr other
  rw [String.utf8EncodeChar] at member
  simp only [if_neg high] at member
  split at member
  · simp only [List.mem_cons, List.not_mem_nil, or_false] at member
    rcases member with rfl | rfl <;> rw [UInt8.toNat_ofNat'] <;> omega
  · split at member
    · simp only [List.mem_cons, List.not_mem_nil, or_false] at member
      rcases member with rfl | rfl | rfl <;> rw [UInt8.toNat_ofNat'] <;> omega
    · simp only [List.mem_cons, List.not_mem_nil, or_false] at member
      rcases member with rfl | rfl | rfl | rfl <;> rw [UInt8.toNat_ofNat'] <;> omega

@[simp]
theorem encodeUtf8_cons (c : Char) (cs : List Char) :
    encodeUtf8 (c :: cs) = String.utf8EncodeChar c ++ encodeUtf8 cs :=
  List.flatMap_cons

/-! ### One character -/

theorem isContinuation_iff {b : UInt8} :
    isContinuation b = true ↔ 0x80 ≤ b.toNat ∧ b.toNat < 0xc0 := by
  unfold isContinuation
  rw [Bool.and_eq_true, decide_eq_true_eq, decide_eq_true_eq, UInt8.le_iff_toNat_le,
    UInt8.le_iff_toNat_le]
  exact and_congr_right fun _ => Nat.lt_succ_iff.symm

theorem toNat_charOfNat {n : Nat} (valid : n.isValidChar) : (Char.ofNat n).toNat = n := by
  unfold Char.ofNat
  rw [dif_pos valid]
  rfl

/-- Only the code point of a character gives the character. -/
theorem charFrom?_eq_some_iff {least n : Nat} {c : Char} :
    charFrom? least n = some c ↔ least ≤ c.toNat ∧ c.toNat = n := by
  unfold charFrom?
  split
  next sound =>
    rw [Option.some.injEq, ← Char.toNat_inj, toNat_charOfNat sound.2]
    constructor
    · rintro rfl
      exact ⟨sound.1, rfl⟩
    · exact fun same => same.2.symm
  next unsound =>
    refine ⟨nofun, ?_⟩
    rintro ⟨large, rfl⟩
    exact absurd ⟨large, c.valid⟩ unsound

/-- Bytes write a character: one byte for ASCII, else a first byte that tells how many others there
are, each of which adds six bits; and no fewer bytes would do. -/
inductive Writes (c : Char) : List UInt8 → Prop where
  | one {a : UInt8} (first : a.toNat < 0x80) (value : c.toNat = a.toNat) : Writes c [a]
  | two {a b : UInt8} (least : 0xc0 ≤ a.toNat) (first : a.toNat < 0xe0)
      (second : isContinuation b = true) (shortest : 0x80 ≤ c.toNat)
      (value : c.toNat = a.toNat % 0x20 * 0x40 + lowBits b) : Writes c [a, b]
  | three {a b d : UInt8} (least : 0xe0 ≤ a.toNat) (first : a.toNat < 0xf0)
      (second : isContinuation b = true) (third : isContinuation d = true)
      (shortest : 0x800 ≤ c.toNat)
      (value : c.toNat = a.toNat % 0x10 * 0x1000 + lowBits b * 0x40 + lowBits d) :
      Writes c [a, b, d]
  | four {a b d e : UInt8} (least : 0xf0 ≤ a.toNat) (first : a.toNat < 0xf8)
      (second : isContinuation b = true) (third : isContinuation d = true)
      (fourth : isContinuation e = true) (shortest : 0x10000 ≤ c.toNat)
      (value : c.toNat = a.toNat % 0x8 * 0x40000 + lowBits b * 0x1000 + lowBits d * 0x40
        + lowBits e) : Writes c [a, b, d, e]

theorem ofNat_eq_of_toNat {n : Nat} {b : UInt8} (value : n = b.toNat) : UInt8.ofNat n = b := by
  rw [value, UInt8.ofNat_toNat]

namespace Writes

variable {c : Char} {word : List UInt8}

/-- **Only the bytes of a character write it.** -/
theorem eq (writes : Writes c word) : String.utf8EncodeChar c = word := by
  rw [String.utf8EncodeChar]
  simp only [Char.toNat_val]
  cases writes with
  | one first value =>
      rw [if_pos (by omega), ofNat_eq_of_toNat value]
  | @two a b least first second shortest value =>
      rw [isContinuation_iff] at second
      unfold lowBits at value
      rw [if_neg (by omega), if_pos (by omega), ofNat_eq_of_toNat (b := a) (by omega),
        ofNat_eq_of_toNat (b := b) (by omega)]
  | @three a b d least first second third shortest value =>
      rw [isContinuation_iff] at second third
      unfold lowBits at value
      rw [if_neg (by omega), if_neg (by omega), if_pos (by omega),
        ofNat_eq_of_toNat (b := a) (by omega), ofNat_eq_of_toNat (b := b) (by omega),
        ofNat_eq_of_toNat (b := d) (by omega)]
  | @four a b d e least first second third fourth shortest value =>
      rw [isContinuation_iff] at second third fourth
      unfold lowBits at value
      rw [if_neg (by omega), if_neg (by omega), if_neg (by omega),
        ofNat_eq_of_toNat (b := a) (by omega), ofNat_eq_of_toNat (b := b) (by omega),
        ofNat_eq_of_toNat (b := d) (by omega), ofNat_eq_of_toNat (b := e) (by omega)]

end Writes

theorem toNat_byte {n : Nat} (small : n < 0x100) : (UInt8.ofNat n).toNat = n :=
  UInt8.toNat_ofNat'.trans (Nat.mod_eq_of_lt small)

/-- **The bytes of a character write it.** -/
theorem writes_utf8EncodeChar (c : Char) : Writes c (String.utf8EncodeChar c) := by
  have bound : c.toNat < 0x110000 := by
    rcases c.valid with low | high
    · rw [Char.toNat_val] at low
      omega
    · rw [Char.toNat_val] at high
      exact high.2
  have last := toNat_byte (show c.toNat % 64 + 128 < 0x100 by omega)
  have third := toNat_byte (show c.toNat / 64 % 64 + 128 < 0x100 by omega)
  have fourth := toNat_byte (show c.toNat / 4096 % 64 + 128 < 0x100 by omega)
  rw [String.utf8EncodeChar]
  simp only [Char.toNat_val]
  split
  next isShort =>
    have first := toNat_byte (show c.toNat < 0x100 by omega)
    exact .one (by omega) first.symm
  split
  next isShort =>
    have first := toNat_byte (show c.toNat / 64 % 32 + 192 < 0x100 by omega)
    refine .two (by omega) (by omega) (isContinuation_iff.mpr (by omega)) (by omega) ?_
    unfold lowBits
    omega
  split
  next isShort =>
    have first := toNat_byte (show c.toNat / 4096 % 16 + 224 < 0x100 by omega)
    refine .three (by omega) (by omega) (isContinuation_iff.mpr (by omega))
      (isContinuation_iff.mpr (by omega)) (by omega) ?_
    unfold lowBits
    omega
  next isLong =>
    have first := toNat_byte (show c.toNat / 262144 % 8 + 240 < 0x100 by omega)
    refine .four (by omega) (by omega) (isContinuation_iff.mpr (by omega))
      (isContinuation_iff.mpr (by omega)) (isContinuation_iff.mpr (by omega)) (by omega) ?_
    unfold lowBits
    omega

/-! ### Reading -/

theorem not_lt_byte {a b : UInt8} {n : Nat} (least : n ≤ a.toNat) (bound : b.toNat ≤ n) : ¬a < b :=
  UInt8.not_lt.mpr (UInt8.le_iff_toNat_le.mpr (Nat.le_trans bound least))

/-- **What writes a character is read as it**, and then the bytes behind are read. -/
theorem Writes.decodeUtf8?_append {c : Char} {word : List UInt8} (writes : Writes c word)
    (bytes : List UInt8) : decodeUtf8? (word ++ bytes) = (decodeUtf8? bytes).map (c :: ·) := by
  cases writes with
  | @one a first value =>
      show decodeUtf8? (a :: bytes) = _
      rw [decodeUtf8?.eq_def]
      simp only
      rw [if_pos (UInt8.lt_iff_toNat_lt.mpr first), ← value, Char.ofNat_toNat]
  | @two a b least first second shortest value =>
      have leads : 0xc0 ≤ a := UInt8.le_iff_toNat_le.mpr least
      show decodeUtf8? (a :: b :: bytes) = _
      rw [decodeUtf8?.eq_def]
      simp only [not_lt_byte least (show UInt8.toNat 0x80 ≤ 0xc0 by decide), second,
        charFrom?_eq_some_iff.mpr ⟨shortest, value⟩]
      rw [if_pos (UInt8.lt_iff_toNat_lt.mpr first), if_pos leads]
      rfl
  | @three a b d least first second third shortest value =>
      show decodeUtf8? (a :: b :: d :: bytes) = _
      rw [decodeUtf8?.eq_def]
      simp only [not_lt_byte least (show UInt8.toNat 0x80 ≤ 0xe0 by decide),
        not_lt_byte least (show UInt8.toNat 0xe0 ≤ 0xe0 by decide), second, third,
        charFrom?_eq_some_iff.mpr ⟨shortest, value⟩]
      rw [if_pos (UInt8.lt_iff_toNat_lt.mpr first)]
      rfl
  | @four a b d e least first second third fourth shortest value =>
      have notMore : ¬0xf8 ≤ a := UInt8.not_le.mpr (UInt8.lt_iff_toNat_lt.mpr first)
      show decodeUtf8? (a :: b :: d :: e :: bytes) = _
      rw [decodeUtf8?.eq_def]
      simp only [not_lt_byte least (show UInt8.toNat 0x80 ≤ 0xf0 by decide),
        not_lt_byte least (show UInt8.toNat 0xe0 ≤ 0xf0 by decide),
        not_lt_byte least (show UInt8.toNat 0xf0 ≤ 0xf0 by decide), second, third, fourth, notMore,
        charFrom?_eq_some_iff.mpr ⟨shortest, value⟩]
      rfl

@[simp]
theorem decodeUtf8?_encodeUtf8 (cs : List Char) : decodeUtf8? (encodeUtf8 cs) = some cs := by
  induction cs with
  | nil => rfl
  | cons c cs ih =>
      rw [encodeUtf8_cons, (writes_utf8EncodeChar c).decodeUtf8?_append, ih]
      rfl

section Behind

variable {word bytes : List UInt8} {cs : List Char}

/-- What is read in front of other characters stands in front of their bytes. -/
theorem Writes.encodeUtf8_eq {c : Char} (writes : Writes c word)
    (behind : ∀ {cs}, decodeUtf8? bytes = some cs → encodeUtf8 cs = bytes)
    (decodes : (decodeUtf8? bytes).map (c :: ·) = some cs) : encodeUtf8 cs = word ++ bytes := by
  obtain ⟨rest, decodesRest, rfl⟩ := Option.map_eq_some_iff.mp decodes
  simp [writes.eq, behind decodesRest]

theorem encodeUtf8_of_charFrom? {least n : Nat}
    (writes : ∀ c : Char, least ≤ c.toNat → c.toNat = n → Writes c word)
    (behind : ∀ {cs}, decodeUtf8? bytes = some cs → encodeUtf8 cs = bytes)
    (decodes : ((charFrom? least n).bind fun c => (decodeUtf8? bytes).map (c :: ·)) = some cs) :
    encodeUtf8 cs = word ++ bytes := by
  obtain ⟨c, reads, decodesRest⟩ := Option.bind_eq_some_iff.mp decodes
  obtain ⟨shortest, value⟩ := charFrom?_eq_some_iff.mp reads
  exact (writes c shortest value).encodeUtf8_eq behind decodesRest

end Behind

/-- **What is read as characters are their bytes.** -/
theorem encodeUtf8_of_decodeUtf8? {bytes : List UInt8} {cs : List Char}
    (decodes : decodeUtf8? bytes = some cs) : encodeUtf8 cs = bytes := by
  fun_induction decodeUtf8? bytes generalizing cs with
  | case1 =>
      obtain rfl := Option.some.inj decodes
      rfl
  | case2 a bytes ascii ih =>
      have first : a.toNat < 0x80 := UInt8.lt_iff_toNat_lt.mp ascii
      have value : (Char.ofNat a.toNat).toNat = a.toNat := toNat_charOfNat (.inl (by omega))
      exact (Writes.one first value).encodeUtf8_eq ih decodes
  | case3 => exact nomatch decodes
  | case4 a notAscii b bytes second two _ leads =>
      rename_i ih
      rw [Bool.not_eq_true', Bool.not_eq_false] at second
      exact encodeUtf8_of_charFrom? (fun c shortest value =>
        .two (UInt8.le_iff_toNat_le.mp leads) (UInt8.lt_iff_toNat_lt.mp two) second shortest value)
        ih decodes
  | case5 => exact nomatch decodes
  | case6 => exact nomatch decodes
  | case7 a notAscii b second notTwo d bytes third three ih =>
      rw [Bool.not_eq_true', Bool.not_eq_false] at second third
      exact encodeUtf8_of_charFrom? (fun c shortest value =>
        .three (UInt8.le_iff_toNat_le.mp (UInt8.not_lt.mp notTwo)) (UInt8.lt_iff_toNat_lt.mp three)
          second third shortest value) ih decodes
  | case8 => exact nomatch decodes
  | case9 a notAscii b second notTwo d third notThree e bytes fourth ih =>
      rw [Bool.not_eq_true', Bool.not_eq_false] at second third
      rw [Bool.or_eq_true, not_or, Bool.not_eq_true', Bool.not_eq_false, decide_eq_true_eq,
        UInt8.not_le] at fourth
      exact encodeUtf8_of_charFrom? (fun c shortest value =>
        .four (UInt8.le_iff_toNat_le.mp (UInt8.not_lt.mp notThree))
          (UInt8.lt_iff_toNat_lt.mp fourth.2) second third fourth.1 shortest value) ih decodes
  | case10 => exact nomatch decodes
  | case11 => exact nomatch decodes
  | case12 => exact nomatch decodes

/-- **Decoding undoes encoding**, and reads nothing else. -/
theorem decodeUtf8?_eq_some_iff {bytes : List UInt8} {cs : List Char} :
    decodeUtf8? bytes = some cs ↔ encodeUtf8 cs = bytes := by
  constructor
  · exact encodeUtf8_of_decodeUtf8?
  · rintro rfl
    exact decodeUtf8?_encodeUtf8 cs

/-- Bytes give a text if they are the bytes of that text. -/
theorem decodeUtf8?_eq_toList_iff {bytes : List UInt8} {text : String} :
    (decodeUtf8? bytes).map String.ofList = some text ↔ encodeUtf8 text.toList = bytes := by
  rw [Option.map_eq_some_iff]
  constructor
  · rintro ⟨cs, decodes, rfl⟩
    rw [String.toList_ofList]
    exact decodeUtf8?_eq_some_iff.mp decodes
  · intro encodes
    exact ⟨text.toList, decodeUtf8?_eq_some_iff.mpr encodes, String.ofList_toList⟩

end StyleBaseline
