/-
**Written dates are read back.** What is written of a date has a form of its own, which the reader
takes up number by number: a year of at least four digits, with a sign where it has to have one, and
two digits each of the month and of the day. White space around a date is passed over.

* `digitsValue_paddedNumber`, `length_paddedNumber` — a number in digits.
* `readNumber_digits`, `readNumber_upToHyphen` — the reader takes a run of digits.
* `readYear_yearText`, `readPart_paddedNumber` — the numbers of a date.
* `Date.parse_text` — dates.
* `trimBoth_surrounded` — white space around a text.
* `BaselineDate.parse_surrounded` — dates that may be bounds, with white space around them.
-/

import Mathlib.Data.List.TakeWhile
import Mathlib.Logic.Function.Basic
import StyleBaseline.Calendar.BaselineDate

namespace StyleBaseline

/-! ### Numbers -/

theorem isDigit_of_mem_paddedNumber {width n : Nat} {c : Char} (member : c ∈ paddedNumber width n) :
    c.isDigit = true := by
  unfold paddedNumber at member
  rcases List.mem_append.mp member with padding | digit
  · rw [List.eq_of_mem_replicate padding]
    rfl
  · exact Nat.isDigit_of_mem_toDigits (by decide) (by decide) digit

theorem paddedNumber_ne_nil (width n : Nat) : paddedNumber width n ≠ [] :=
  List.append_ne_nil_of_right_ne_nil _ Nat.toDigits_ne_nil

/-- A number that has no more digits than the width takes just that. -/
@[simp]
theorem length_paddedNumber {width n : Nat} (short : (Nat.toDigits 10 n).length ≤ width) :
    (paddedNumber width n).length = width := by
  unfold paddedNumber
  rw [List.length_append, List.length_replicate]
  exact Nat.sub_add_cancel short

/-- The zeros in front of a number do not count. -/
@[simp]
theorem digitsValue_paddedNumber (width n : Nat) : digitsValue (paddedNumber width n) = n := by
  show Nat.ofDigitChars 10 (List.replicate _ '0' ++ Nat.toDigits 10 n) 0 = n
  rw [Nat.ofDigitChars_append, Nat.ofDigitChars_replicate_zero, Nat.mul_zero]
  exact Nat.ofDigitChars_toDigits (by decide) (by decide)

section Reading

variable {digits : List Char}

/-- A run of as many digits as the width allows is a number, whatever comes next. -/
theorem readNumber_digits (nonempty : digits ≠ []) (areDigits : ∀ c ∈ digits, c.isDigit = true)
    (rest : List Char) :
    readNumber (some digits.length) (digits ++ rest) = .ok (digitsValue digits, rest) := by
  have whole : (digits ++ rest).isEmpty = false :=
    List.isEmpty_eq_false_iff.mpr (List.append_ne_nil_of_left_ne_nil nonempty rest)
  unfold readNumber
  simp only [List.take_left, List.takeWhile_eq_self_iff.mpr areDigits, whole,
    List.isEmpty_eq_false_iff.mpr nonempty, List.drop_left, Bool.false_eq_true, if_false]

/-- Without a width, a number goes on up to what is no digit. -/
theorem readNumber_upToHyphen (nonempty : digits ≠ [])
    (areDigits : ∀ c ∈ digits, c.isDigit = true) (rest : List Char) :
    readNumber none (digits ++ '-' :: rest) = .ok (digitsValue digits, '-' :: rest) := by
  have run : (digits ++ '-' :: rest).takeWhile Char.isDigit = digits := by
    rw [List.takeWhile_append_of_pos areDigits]
    exact List.append_nil digits
  have whole : (digits ++ '-' :: rest).isEmpty = false :=
    List.isEmpty_eq_false_iff.mpr (List.append_ne_nil_of_left_ne_nil nonempty _)
  unfold readNumber
  simp only [run, whole, List.isEmpty_eq_false_iff.mpr nonempty, List.drop_left,
    Bool.false_eq_true, if_false]

end Reading

/-! ### White space -/

theorem not_isBlank_of_isDigit {c : Char} (isDigit : c.isDigit = true) : isBlank c = false := by
  have bounds : 48 ≤ c.toNat ∧ c.toNat ≤ 57 := by
    simpa [Char.isDigit, UInt32.le_iff_toNat_le] using isDigit
  simp only [isBlank, Bool.or_eq_false_iff, Bool.and_eq_false_iff, decide_eq_false_iff_not,
    beq_eq_false_iff_ne]
  omega

theorem trimStart_of_visible {c : Char} {cs : List Char} (visible : isBlank c = false) :
    trimStart (c :: cs) = c :: cs :=
  List.dropWhile_cons_of_neg (by rw [visible]; exact Bool.false_ne_true)

/-- **White space around a text** is passed over, if the text neither begins nor ends with such. -/
theorem trimBoth_surrounded {before text after : List Char}
    (blankBefore : ∀ c ∈ before, isBlank c = true) (blankAfter : ∀ c ∈ after, isBlank c = true)
    (begins : ∃ c rest, text = c :: rest ∧ isBlank c = false)
    (ends : ∃ front c, text = front ++ [c] ∧ isBlank c = false) :
    trimBoth (before ++ text ++ after) = text := by
  obtain ⟨first, rest, isFirst, firstVisible⟩ := begins
  obtain ⟨front, last, isLast, lastVisible⟩ := ends
  have started : trimStart (before ++ text ++ after) = text ++ after := by
    unfold trimStart
    rw [List.append_assoc, List.dropWhile_append_of_pos blankBefore, isFirst]
    exact trimStart_of_visible firstVisible
  rw [trimBoth, started, trimEnd, List.reverse_append,
    List.dropWhile_append_of_pos fun c member => blankAfter c (List.mem_reverse.mp member), isLast,
    List.reverse_concat]
  show (trimStart (last :: front.reverse)).reverse = front ++ [last]
  rw [trimStart_of_visible lastVisible, List.reverse_cons, List.reverse_reverse]

/-! ### The numbers of a date -/

theorem trimStart_paddedNumber (width n : Nat) (rest : List Char) :
    trimStart (paddedNumber width n ++ rest) = paddedNumber width n ++ rest := by
  have digits := @isDigit_of_mem_paddedNumber width n
  obtain ⟨c, others, isCons⟩ := List.exists_cons_of_ne_nil (paddedNumber_ne_nil width n)
  rw [isCons] at digits ⊢
  exact trimStart_of_visible (not_isBlank_of_isDigit (digits List.mem_cons_self))

/-- **A year**: up to 9999 it has four digits and no sign, and beyond there is a sign, which lets the
reader take any number of digits. -/
theorem readYear_yearText {year : Int} (inRange : -262143 ≤ year ∧ year ≤ 262142)
    (rest : List Char) : readYear (yearText year ++ '-' :: rest) = .ok (year, '-' :: rest) := by
  have digits : ∀ c ∈ paddedNumber 4 year.natAbs, c.isDigit = true := fun c member =>
    isDigit_of_mem_paddedNumber member
  have nonempty := paddedNumber_ne_nil 4 year.natAbs
  have fits : -2147483648 ≤ year ∧ year ≤ 2147483647 := by omega
  have signed : readNumber none (paddedNumber 4 year.natAbs ++ '-' :: rest) =
      .ok (year.natAbs, '-' :: rest) := by
    simp [readNumber_upToHyphen nonempty digits]
  unfold readYear yearText
  by_cases negative : year < 0
  · have value : -(year.natAbs : Int) = year := by omega
    rw [if_pos negative, List.cons_append, trimStart_of_visible (by decide)]
    simp only [signed, Except.map, bind, Except.bind, value, if_pos fits]
  · have value : (year.natAbs : Int) = year := by omega
    rw [if_neg negative]
    by_cases short : year ≤ 9999
    · have four : (paddedNumber 4 year.natAbs).length = 4 :=
        length_paddedNumber ((Nat.length_toDigits_le_iff (by decide) (by decide)).mpr (by omega))
      have unsigned : readNumber (some 4) (paddedNumber 4 year.natAbs ++ '-' :: rest) =
          .ok (year.natAbs, '-' :: rest) := by
        have reads := readNumber_digits nonempty digits ('-' :: rest)
        rwa [four, digitsValue_paddedNumber] at reads
      rw [if_pos short, trimStart_paddedNumber]
      obtain ⟨c, others, isCons⟩ := List.exists_cons_of_ne_nil nonempty
      rw [isCons] at digits unsigned ⊢
      have isDigit := digits c List.mem_cons_self
      -- A digit is no sign.
      split
      · rename_i here
        obtain ⟨rfl, _⟩ := List.cons.inj here
        exact absurd isDigit (by decide)
      · rename_i here
        obtain ⟨rfl, _⟩ := List.cons.inj here
        exact absurd isDigit (by decide)
      · simp only [unsigned, Except.map, bind, Except.bind, value, if_pos fits]
    · rw [if_neg short, List.cons_append, trimStart_of_visible (by decide)]
      simp only [signed, Except.map, bind, Except.bind, value, if_pos fits]

/-- **A month or a day.** -/
theorem readPart_paddedNumber {limit n : Nat} (positive : 1 ≤ n) (le : n ≤ limit) (short : n < 100)
    (rest : List Char) : readPart limit (paddedNumber 2 n ++ rest) = .ok (n, rest) := by
  have two : (paddedNumber 2 n).length = 2 :=
    length_paddedNumber ((Nat.length_toDigits_le_iff (by decide) (by decide)).mpr short)
  have reads := readNumber_digits (paddedNumber_ne_nil 2 n)
    (fun c member => isDigit_of_mem_paddedNumber member) rest
  rw [two, digitsValue_paddedNumber] at reads
  unfold readPart
  rw [trimStart_paddedNumber, reads]
  exact if_pos ⟨positive, le⟩

/-! ### Dates -/

/-- There are days in the months from one to twelve, and at most 31 of them. -/
theorem month_of_days {year : Int} {month : Nat} (anyDay : 0 < daysInMonth year month) :
    (1 ≤ month ∧ month ≤ 12) ∧ daysInMonth year month ≤ 31 := by
  revert anyDay
  unfold daysInMonth
  split
  case h_12 =>
    -- February has 28 days or 29.
    split <;> omega
  case h_13 => exact fun anyDay => absurd anyDay (by decide)
  all_goals decide

namespace Date

theorem of?_eq_some (date : Date) : of? date.year date.month date.day = some date := by
  rw [of?, dif_pos date.yearInRange, dif_pos date.dayExists]

/-- **What is written of a date is read as that date.** -/
theorem parse_text (date : Date) : parse date.text = .ok date := by
  obtain ⟨firstDay, lastDay⟩ := date.dayExists
  obtain ⟨⟨firstMonth, lastMonth⟩, atMost⟩ := month_of_days (Nat.lt_of_lt_of_le firstDay lastDay)
  have year := readYear_yearText date.yearInRange
  have month := readPart_paddedNumber firstMonth lastMonth (by omega)
  have day := readPart_paddedNumber firstDay (lastDay.trans atMost) (by omega) []
  rw [List.append_nil] at day
  unfold parse text
  simp only [List.append_assoc, List.cons_append, year, month, day, bind, Except.bind, readHyphen,
    if_true, List.isEmpty_nil, of?_eq_some]

/-- What is written of a date begins with a sign or a digit. -/
theorem begins_text (date : Date) :
    ∃ c rest, date.text = c :: rest ∧ (c = '-' ∨ c = '+' ∨ c.isDigit = true) := by
  unfold text yearText
  split
  · exact ⟨'-', _, rfl, .inl rfl⟩
  · split
    · obtain ⟨c, rest, isCons⟩ :=
        List.exists_cons_of_ne_nil (paddedNumber_ne_nil 4 date.year.natAbs)
      have isDigit := isDigit_of_mem_paddedNumber (isCons ▸ List.mem_cons_self)
      rw [isCons]
      exact ⟨c, _, rfl, .inr (.inr isDigit)⟩
    · exact ⟨'+', _, rfl, .inr (.inl rfl)⟩

/-- What is written of a date ends with a digit. -/
theorem ends_text (date : Date) : ∃ front c, date.text = front ++ [c] ∧ c.isDigit = true := by
  have nonempty := paddedNumber_ne_nil 2 date.day
  have isDigit := isDigit_of_mem_paddedNumber (List.getLast_mem nonempty)
  refine ⟨yearText date.year ++ '-' :: paddedNumber 2 date.month ++
    '-' :: (paddedNumber 2 date.day).dropLast, _, ?_, isDigit⟩
  rw [List.append_assoc, List.cons_append, List.dropLast_concat_getLast nonempty]
  rfl

end Date

namespace BaselineDate

/-- **A written date is read back**, with any white space around it. -/
theorem parse_surrounded (since : BaselineDate) {before after : String}
    (blankBefore : ∀ c ∈ before.toList, isBlank c = true)
    (blankAfter : ∀ c ∈ after.toList, isBlank c = true) :
    parse (before ++ since.text ++ after) = .ok since := by
  obtain ⟨date, approximate⟩ := since
  obtain ⟨c, rest, isCons, kinds⟩ := date.begins_text
  obtain ⟨front, last, isConcat, lastDigit⟩ := date.ends_text
  have lastVisible := not_isBlank_of_isDigit lastDigit
  unfold parse
  rw [String.toList_append, String.toList_append]
  cases approximate with
  | true =>
      have trimmed :
          trimBoth (before.toList ++ '≤' :: date.text ++ after.toList) = '≤' :: date.text :=
        trimBoth_surrounded blankBefore blankAfter ⟨'≤', _, rfl, by decide⟩
          ⟨'≤' :: front, last, by rw [isConcat, List.cons_append], lastVisible⟩
      rw [text, if_pos rfl, String.toList_ofList, trimmed]
      show (Date.parse date.text).map _ = _
      rw [date.parse_text]
      rfl
  | false =>
      have firstVisible : isBlank c = false := by
        rcases kinds with rfl | rfl | isDigit
        · decide
        · decide
        · exact not_isBlank_of_isDigit isDigit
      have notBound : c ≠ '≤' := by
        rintro rfl
        exact absurd kinds (by decide)
      have trimmed : trimBoth (before.toList ++ date.text ++ after.toList) = date.text :=
        trimBoth_surrounded blankBefore blankAfter ⟨c, rest, isCons, firstVisible⟩
          ⟨front, last, isConcat, lastVisible⟩
      rw [text, if_neg Bool.false_ne_true, String.toList_ofList, trimmed]
      split
      · rename_i here
        rw [isCons] at here
        exact absurd (List.cons.inj here).1 notBound
      · rw [date.parse_text]
        rfl

theorem parse_text (since : BaselineDate) : parse since.text = .ok since := by
  have reads := @parse_surrounded since "" "" (by simp) (by simp)
  rwa [String.empty_append, String.append_empty] at reads

/-- **Dates and their texts.** Every date is read back from its text, also with white space around
it, so that different dates have different texts; and what is read of any text has a text from which
the same is read. -/
theorem parse_written :
    (∀ (since : BaselineDate) (before after : String),
      (∀ c ∈ before.toList, isBlank c = true) → (∀ c ∈ after.toList, isBlank c = true) →
      parse (before ++ since.text ++ after) = .ok since) ∧
    Function.Injective text ∧
    ∀ written since, parse written = .ok since → parse since.text = .ok since := by
  refine ⟨fun since before after => since.parse_surrounded, fun first second same => ?_,
    fun _ since _ => since.parse_text⟩
  have reads := first.parse_text
  rw [same, second.parse_text] at reads
  exact (Except.ok.inj reads).symm

/-- A leap day before the year zero, as a bound, and with white space around it. -/
theorem parse_written_leapDay :
    let since : BaselineDate := ⟨⟨-4, 2, 29, by decide, by decide⟩, true⟩
    since.text = "≤-0004-02-29" ∧ parse (" \n" ++ since.text ++ "\u2003") = .ok since ∧
      parse "≤ -4-2-29" = .ok since ∧ parse since.text = .ok since := by
  intro since
  have written : since.text = "≤-0004-02-29" := by decide +kernel
  have reads : parse "≤ -4-2-29" = .ok since := by decide +kernel
  have blankBefore : " \n".toList.all isBlank = true := by decide
  have blankAfter : "\u2003".toList.all isBlank = true := by decide
  refine ⟨written, ?_, reads, parse_written.2.2 _ since reads⟩
  exact parse_written.1 since _ _ (List.all_eq_true.mp blankBefore)
    (List.all_eq_true.mp blankAfter)

end BaselineDate

end StyleBaseline
