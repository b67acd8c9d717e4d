/-
**The order of bytes.** Texts are ordered by the code points of their characters. This is the order
of their bytes, too: a character with a greater number has a greater first byte, or as many bytes
and then a greater one where the two first differ.

* `Writes.lead` — the first byte of a character tells how many there are, and so how great its
  number is.
* `Writes.append_lt` — two characters, whatever bytes are behind them.
* `lt_iff_encodeUtf8_lt` — two texts.
-/

import StyleBaseline.Proofs.Text.Utf8

namespace StyleBaseline

/-- Bytes that are before as many others stay so with any bytes behind them. -/
theorem append_lt_append {word other : List UInt8} (before : word < other)
    (sameLength : word.length = other.length) (bytes more : List UInt8) :
    word ++ bytes < other ++ more := by
  induction word generalizing other with
  | nil =>
      obtain rfl : other = [] := List.eq_nil_of_length_eq_zero sameLength.symm
      exact absurd before (List.not_lt_nil [])
  | cons a word ih =>
      cases other with
      | nil => exact absurd before (List.not_lt_nil _)
      | cons b other =>
          rw [List.cons_append, List.cons_append, List.cons_lt_cons_iff]
          rcases List.cons_lt_cons_iff.mp before with less | ⟨same, behind⟩
          · exact .inl less
          · exact .inr ⟨same, ih behind (Nat.succ.inj sameLength)⟩

namespace Writes

variable {c d : Char} {word other : List UInt8}

/-- **The first byte** of a character tells how many bytes there are, and between which numbers its
own is. -/
theorem lead (writes : Writes c word) : ∃ a rest, word = a :: rest ∧
    (rest.length = 0 ∧ a.toNat < 0x80 ∧ c.toNat < 0x80 ∨
      rest.length = 1 ∧ 0xc0 ≤ a.toNat ∧ a.toNat < 0xe0 ∧ 0x80 ≤ c.toNat ∧ c.toNat < 0x800 ∨
      rest.length = 2 ∧ 0xe0 ≤ a.toNat ∧ a.toNat < 0xf0 ∧ 0x800 ≤ c.toNat ∧ c.toNat < 0x10000 ∨
      rest.length = 3 ∧ 0xf0 ≤ a.toNat ∧ 0x10000 ≤ c.toNat) := by
  cases writes with
  | @one a first value => exact ⟨a, [], rfl, .inl ⟨rfl, first, value ▸ first⟩⟩
  | @two a b least first second shortest value =>
      unfold lowBits at value
      exact ⟨a, [b], rfl, .inr (.inl ⟨rfl, least, first, shortest, by omega⟩)⟩
  | @three a b d least first second third shortest value =>
      unfold lowBits at value
      exact ⟨a, [b, d], rfl, .inr (.inr (.inl ⟨rfl, least, first, shortest, by omega⟩))⟩
  | @four a b d e least first second third fourth shortest value =>
      exact ⟨a, [b, d, e], rfl, .inr (.inr (.inr ⟨rfl, least, shortest⟩))⟩

/-- Of two characters with as many bytes the one with the smaller number is before the other. -/
theorem lt_of_length (writes : Writes c word) (others : Writes d other)
    (sameLength : word.length = other.length) (before : c.toNat < d.toNat) : word < other := by
  cases writes with
  | one first value =>
      cases others with
      | one otherFirst otherValue =>
          simp only [List.cons_lt_cons_iff, UInt8.lt_iff_toNat_lt]
          omega
      | two | three | four => exact absurd sameLength (by simp)
  | two least first second shortest value =>
      cases others with
      | two otherLeast otherFirst otherSecond otherShortest otherValue =>
          rw [isContinuation_iff] at second otherSecond
          unfold lowBits at value otherValue
          simp only [List.cons_lt_cons_iff, UInt8.lt_iff_toNat_lt, ← UInt8.toNat_inj]
          omega
      | one | three | four => exact absurd sameLength (by simp)
  | three least first second third shortest value =>
      cases others with
      | three otherLeast otherFirst otherSecond otherThird otherShortest otherValue =>
          rw [isContinuation_iff] at second third otherSecond otherThird
          unfold lowBits at value otherValue
          simp only [List.cons_lt_cons_iff, UInt8.lt_iff_toNat_lt, ← UInt8.toNat_inj]
          omega
      | one | two | four => exact absurd sameLength (by simp)
  | four least first second third fourth shortest value =>
      cases others with
      | four otherLeast otherFirst otherSecond otherThird otherFourth otherShortest otherValue =>
          rw [isContinuation_iff] at second third fourth otherSecond otherThird otherFourth
          unfold lowBits at value otherValue
          simp only [List.cons_lt_cons_iff, UInt8.lt_iff_toNat_lt, ← UInt8.toNat_inj]
          omega
      | one | two | three => exact absurd sameLength (by simp)

/-- **A character before another one** has its bytes before those of the other. -/
theorem append_lt (writes : Writes c word) (others : Writes d other) (before : c < d)
    (bytes more : List UInt8) : word ++ bytes < other ++ more := by
  have smaller : c.toNat < d.toNat := before
  by_cases sameLength : word.length = other.length
  · exact append_lt_append (writes.lt_of_length others sameLength smaller) sameLength bytes more
  · obtain ⟨a, rest, rfl, range⟩ := writes.lead
    obtain ⟨b, otherRest, rfl, otherRange⟩ := others.lead
    rw [List.length_cons, List.length_cons] at sameLength
    have first : a.toNat < b.toNat := by omega
    exact List.cons_lt_cons_iff.mpr (.inl (UInt8.lt_iff_toNat_lt.mpr first))

end Writes

/-! ### Texts -/

theorem encodeUtf8_lt {cs ds : List Char} (before : cs < ds) : encodeUtf8 cs < encodeUtf8 ds := by
  induction cs generalizing ds with
  | nil =>
      cases ds with
      | nil => exact absurd before (List.not_lt_nil [])
      | cons d ds =>
          rw [encodeUtf8_cons]
          obtain ⟨b, bytes, word, _⟩ := (writes_utf8EncodeChar d).lead
          rw [word]
          exact List.nil_lt_cons b _
  | cons c cs ih =>
      cases ds with
      | nil => exact absurd before (List.not_lt_nil _)
      | cons d ds =>
          rw [encodeUtf8_cons, encodeUtf8_cons]
          rcases List.cons_lt_cons_iff.mp before with less | ⟨rfl, behind⟩
          · exact (writes_utf8EncodeChar c).append_lt (writes_utf8EncodeChar d) less _ _
          · exact List.append_left_lt (ih behind)

/-- **The order of texts is that of their bytes.** -/
theorem lt_iff_encodeUtf8_lt {first second : String} :
    first < second ↔ encodeUtf8 first.toList < encodeUtf8 second.toList := by
  refine ⟨fun before => encodeUtf8_lt (String.lt_iff.mp before), fun before => ?_⟩
  rcases Std.lt_trichotomy first second with less | rfl | greater
  · exact less
  · exact absurd before (List.lt_irrefl _)
  · exact absurd before (List.lt_asymm (encodeUtf8_lt (String.lt_iff.mp greater)))

end StyleBaseline
