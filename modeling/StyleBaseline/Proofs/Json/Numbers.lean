/-
**Reading numbers of JSON.** A number is read as what its sign, its digits and its exponent make,
and one that is out of range stops the reader. Skimmed, every number is passed over.

* `gatherDigits_append`, `gatherDigits_split` — gathering ends with the digits, and what it leaves
  of them is behind what it takes.
* `readNumber_gives` — the number that is read.
* `skimNumber_passes` — the number that is skimmed.
-/

import StyleBaseline.Proofs.Json.Outcomes

namespace StyleBaseline.Json

/-! ### Digits -/

/-- No digit comes next. -/
def NoDigit (rest : List Char) : Prop :=
  ∀ c ∈ rest.head?, c.isDigit = false

theorem Boundary.noDigit {rest : List Char} (boundary : Boundary rest) : NoDigit rest :=
  boundary.avoids (by decide)

theorem noDigit_exponentText (exponent : Option ExponentForm) {rest : List Char}
    (boundary : Boundary rest) : NoDigit (exponentText exponent ++ rest) := by
  cases exponent with
  | none => exact boundary.noDigit
  | some exponent =>
      rintro _ ⟨⟩
      rw [ExponentForm.letter]
      cases exponent.isCapital <;> rfl

theorem noDigit_fractionText (fraction : Option Digits) (exponent : Option ExponentForm)
    {rest : List Char} (boundary : Boundary rest) :
    NoDigit (fractionText fraction exponent ++ rest) := by
  cases fraction with
  | none => exact noDigit_exponentText exponent boundary
  | some digits =>
      rintro _ ⟨⟩
      rfl

/-- Gathering ends with the digits. -/
theorem gatherDigits_append {limit value count : Nat} {digits rest : List Char}
    (ends : NoDigit rest) :
    gatherDigits limit value count (digits ++ rest) =
      ((gatherDigits limit value count digits).1, (gatherDigits limit value count digits).2.1,
        (gatherDigits limit value count digits).2.2 ++ rest) := by
  induction digits generalizing value count with
  | nil =>
      cases rest with
      | nil => rfl
      | cons c rest =>
          have notDigit : ¬c.isDigit := Bool.eq_false_iff.mp (ends c rfl)
          simp [gatherDigits, notDigit]
  | cons c digits ih =>
      rw [List.cons_append, gatherDigits, gatherDigits]
      split
      · exact ih
      · rfl

/-- The digits that are left are the last ones, and the others are counted. -/
theorem gatherDigits_split (limit value count : Nat) (digits : List Char) :
    ∃ taken, digits = taken ++ (gatherDigits limit value count digits).2.2 ∧
      (gatherDigits limit value count digits).2.1 = count + taken.length := by
  induction digits generalizing value count with
  | nil => exact ⟨[], rfl, rfl⟩
  | cons c digits ih =>
      rw [gatherDigits]
      split
      · obtain ⟨taken, split, counted⟩ := ih (value * 10 + decimalDigit c) (count + 1)
        refine ⟨c :: taken, ?_, ?_⟩
        · rw [List.cons_append, ← split]
        · rw [counted, List.length_cons, Nat.add_right_comm, Nat.add_assoc]
      · exact ⟨[], rfl, rfl⟩

theorem mem_of_mem_left {limit value count : Nat} {digits : List Char} {c : Char}
    (left : c ∈ (gatherDigits limit value count digits).2.2) : c ∈ digits := by
  obtain ⟨taken, split, _⟩ := gatherDigits_split limit value count digits
  rw [split]
  exact List.mem_append_right taken left

theorem byteLength_digits {digits : List Char} (areDigits : ∀ c ∈ digits, c.isDigit) :
    byteLength digits = digits.length := by
  induction digits with
  | nil => rfl
  | cons c digits ih =>
      obtain ⟨isDigit, others⟩ := List.forall_mem_cons.mp areDigits
      have bounds : 48 ≤ c.val ∧ c.val ≤ 57 := by simpa [Char.isDigit] using isDigit
      have ascii : c.toNat ≤ 127 := Nat.le_trans bounds.2 (by decide)
      rw [byteLength, Char.utf8Size_eq_one_iff.mpr ascii, ih others, List.length_cons,
        Nat.add_comm]

theorem digits_append_ne_cons {digits : List Char} (nonempty : digits ≠ [])
    (areDigits : ∀ c ∈ digits, c.isDigit) {c : Char} (other : c.isDigit = false)
    (rest cs : List Char) : digits ++ rest ≠ c :: cs := by
  obtain ⟨digit, digits, rfl⟩ := List.exists_cons_of_ne_nil nonempty
  intro same
  obtain ⟨rfl, _⟩ := List.cons.inj same
  exact Bool.eq_false_iff.mp other (areDigits digit List.mem_cons_self)

/-- Whether a digit comes next, behind digits that are left. -/
theorem digit_next_iff {left rest : List Char} (areDigits : ∀ c ∈ left, c.isDigit)
    (ends : NoDigit rest) :
    ((left ++ rest).head?.map Char.isDigit).getD false = true ↔ left ≠ [] := by
  cases left with
  | nil =>
      cases rest with
      | nil => simp
      | cons c rest => simp [ends c rfl]
  | cons c left => simp [areDigits c List.mem_cons_self]

theorem not_digit_next {rest : List Char} (ends : NoDigit rest) :
    ¬(rest.head?.map Char.isDigit).getD false = true :=
  fun next => (digit_next_iff (List.forall_mem_nil _) ends).mp next rfl

namespace Cursor

variable {rest : List Char} {rounds : Nat} (isNegative : Bool) (significand : Nat) (power : Int)

/-! ### Reading -/

theorem finishDouble_gives (offset : Nat) :
    Gives rest rounds ((⟨rest, offset, rounds⟩ : Cursor).finishDouble isNegative significand power)
      (scaledNumber? isNegative significand power) := by
  rw [finishDouble, scaledNumber?]
  cases Binary64.scaled? significand power with
  | none => exact .failure _
  | some magnitude => exact .value _ _

/-- What is gathered is skipped. -/
theorem skip_gathered (limit value : Nat) (digits rest : List Char) (offset : Nat) :
    ∃ further, (⟨digits ++ rest, offset, rounds⟩ : Cursor).skip
        (gatherDigits limit value 0 digits).2.1 =
      ⟨(gatherDigits limit value 0 digits).2.2 ++ rest, further, rounds⟩ := by
  obtain ⟨taken, split, counted⟩ := gatherDigits_split limit value 0 digits
  have skipped := skip_append taken ((gatherDigits limit value 0 digits).2.2 ++ rest) offset rounds
  rw [← List.append_assoc, ← split] at skipped
  rw [counted, Nat.zero_add]
  exact ⟨_, skipped⟩

theorem readExponentDigits_gives (exponent : ExponentForm) (ends : NoDigit rest) (offset : Nat) :
    Gives rest rounds
      ((⟨exponent.digits.chars ++ rest, offset, rounds⟩ : Cursor).readExponentDigits isNegative
        (exponent.sign = some .minus) significand power)
      (exponent.number? isNegative significand power) := by
  obtain ⟨isCapital, sign, digits, nonempty, areDigits⟩ := exponent
  have gathered := @gatherDigits_append greatestExponent 0 0 digits rest ends
  have leftDigits : ∀ c ∈ (gatherDigits greatestExponent 0 0 digits).2.2, c.isDigit :=
    fun c left => areDigits c (mem_of_mem_left left)
  obtain ⟨further, skipped⟩ := @skip_gathered rounds greatestExponent 0 digits rest offset
  have next := digit_next_iff leftDigits ends
  obtain ⟨c, others, rfl⟩ := List.exists_cons_of_ne_nil nonempty
  have isDigit : c.isDigit := areDigits c List.mem_cons_self
  rw [List.cons_append] at gathered skipped
  simp only [readExponentDigits, ExponentForm.number?, List.cons_append, isDigit, gathered, skipped,
    next, Bool.not_true, Bool.false_eq_true, if_false]
  by_cases nothing : (gatherDigits greatestExponent 0 0 (c :: others)).2.2 = []
  · simp only [nothing, ne_eq, not_true_eq_false, if_false, if_true, decide_eq_true_eq,
      List.nil_append]
    exact finishDouble_gives isNegative significand _ further
  · simp only [nothing, ne_eq, not_false_eq_true, if_true, if_false, Bool.not_eq_true',
      decide_eq_false_iff_not]
    split
    · exact .failure _
    · rw [skipDigits_run leftDigits ends]
      exact .value _ _

theorem readExponent_gives (exponent : ExponentForm) (ends : NoDigit rest) (offset : Nat) :
    Gives rest rounds
      ((⟨(exponent.sign.map Sign.text).toList ++ exponent.digits.chars ++ rest, offset, rounds⟩ :
        Cursor).readExponent isNegative significand power)
      (exponent.number? isNegative significand power) := by
  have digits := @readExponentDigits_gives rest rounds isNegative significand power exponent ends
  obtain ⟨isCapital, sign, chars, nonempty, areDigits⟩ := exponent
  match sign with
  | some .plus => exact digits _
  | some .minus => exact digits _
  | none =>
      rw [readExponent]
      split
      · rename_i here
        exact absurd here (digits_append_ne_cons nonempty areDigits rfl _ _)
      · rename_i here
        exact absurd here (digits_append_ne_cons nonempty areDigits rfl _ _)
      · exact digits offset

theorem readPower_gives (exponent : Option ExponentForm) (boundary : Boundary rest) (offset : Nat) :
    Gives rest rounds
      ((⟨exponentText exponent ++ rest, offset, rounds⟩ : Cursor).readPower isNegative significand
        power)
      (powerNumber? isNegative significand power exponent) := by
  cases exponent with
  | some exponent =>
      have read := @readExponent_gives rest rounds isNegative significand power exponent
        boundary.noDigit
      obtain ⟨isCapital, sign, digits⟩ := exponent
      cases isCapital <;> exact read _
  | none =>
      rw [exponentText, List.nil_append, readPower]
      split
      · rename_i here
        exact absurd here (boundary.ne_cons (by decide) _)
      · rename_i here
        exact absurd here (boundary.ne_cons (by decide) _)
      · exact finishDouble_gives isNegative significand power offset

theorem readFraction_gives (digits : Digits) (exponent : Option ExponentForm)
    (boundary : Boundary rest) (offset : Nat) :
    Gives rest rounds
      ((⟨digits.chars ++ (exponentText exponent ++ rest), offset, rounds⟩ : Cursor).readFraction
        isNegative significand power)
      (powerNumber? isNegative (gatherDigits greatestNatural significand 0 digits.chars).1
        (power - (gatherDigits greatestNatural significand 0 digits.chars).2.1) exponent) := by
  obtain ⟨digits, nonempty, areDigits⟩ := digits
  have ends := noDigit_exponentText exponent boundary
  have next := (digit_next_iff areDigits ends).mpr nonempty
  simp only [readFraction, next, if_true, gatherDigits_append ends, skipDigits_run areDigits ends]
  exact readPower_gives isNegative _ _ exponent boundary _

/-- What stands behind the digits that are gathered of a whole part. -/
theorem readBehindWhole_gives {dropped : List Char} (areDigits : ∀ c ∈ dropped, c.isDigit)
    (fraction : Option Digits) (exponent : Option ExponentForm) (boundary : Boundary rest)
    (offset : Nat) :
    Gives rest rounds
      ((⟨dropped ++ (fractionText fraction exponent ++ rest), offset, rounds⟩ :
        Cursor).readBehindWhole isNegative significand)
      (numberBehind? isNegative significand dropped.length fraction exponent) := by
  have ends := noDigit_fractionText fraction exponent boundary
  have power : offset + byteLength dropped - offset = dropped.length := by
    rw [Nat.add_sub_cancel_left, byteLength_digits areDigits]
  simp only [readBehindWhole, skipDigits_run areDigits ends, power]
  match fraction, exponent with
  | some digits, exponent =>
      simp only [fractionText, List.cons_append, List.append_assoc]
      exact readFraction_gives isNegative significand _ digits exponent boundary _
  | none, some exponent =>
      have read := @readExponent_gives rest rounds isNegative significand dropped.length exponent
        boundary.noDigit
      obtain ⟨isCapital, sign, digits⟩ := exponent
      cases isCapital <;> exact read _
  | none, none =>
      rw [fractionText, exponentText, List.nil_append]
      unfold numberBehind?
      split
      · exact absurd (boundary _ rfl) (by decide)
      · exact absurd (boundary _ rfl) (by decide)
      · exact absurd (boundary _ rfl) (by decide)
      · cases dropped.length with
        | succ power => exact finishDouble_gives isNegative significand _ _
        | zero =>
            cases wholeNumber? isNegative significand with
            | some value => exact .value _ _
            | none => exact finishDouble_gives isNegative significand _ _

theorem readMagnitude_gives {digits : List Char} (nonempty : digits ≠ [])
    (areDigits : ∀ c ∈ digits, c.isDigit) (leading : digits.head? = some '0' → digits = ['0'])
    (fraction : Option Digits) (exponent : Option ExponentForm) (boundary : Boundary rest)
    (offset : Nat) :
    Gives rest rounds
      ((⟨digits ++ (fractionText fraction exponent ++ rest), offset, rounds⟩ :
        Cursor).readMagnitude isNegative)
      (numberBehind? isNegative (gatherDigits greatestNatural 0 0 digits).1
        (gatherDigits greatestNatural 0 0 digits).2.2.length fraction exponent) := by
  have ends := noDigit_fractionText fraction exponent boundary
  have leftDigits : ∀ c ∈ (gatherDigits greatestNatural 0 0 digits).2.2, c.isDigit :=
    fun c left => areDigits c (mem_of_mem_left left)
  have gathered := @gatherDigits_append greatestNatural 0 0 digits _ ends
  obtain ⟨further, skipped⟩ := @skip_gathered rounds greatestNatural 0 digits
    (fractionText fraction exponent ++ rest) offset
  obtain ⟨c, others, rfl⟩ := List.exists_cons_of_ne_nil nonempty
  rw [readMagnitude]
  split
  · rename_i here
    exact nomatch here
  · -- A zero is alone, and no digit comes next.
    rename_i here
    obtain ⟨rfl, rfl⟩ := List.cons.inj here
    obtain ⟨_, rfl⟩ := List.cons.inj (leading rfl)
    rw [List.append_eq, List.nil_append, if_neg (not_digit_next ends)]
    exact readBehindWhole_gives isNegative 0 (List.forall_mem_nil _) fraction exponent boundary _
  · rename_i here
    obtain ⟨rfl, _⟩ := List.cons.inj here
    rw [if_pos (areDigits _ List.mem_cons_self)]
    simp only [gathered, skipped]
    exact readBehindWhole_gives isNegative _ leftDigits fraction exponent boundary further

/-- **Numbers**: what the sign, the digits and the exponent make, if it is not out of range. -/
theorem readNumber_gives (form : NumberForm) (boundary : Boundary rest) (offset : Nat) :
    Gives rest rounds (⟨form.text ++ rest, offset, rounds⟩ : Cursor).readNumber form.value? := by
  obtain ⟨isNegative, ⟨digits, nonempty, areDigits⟩, leading, fraction, exponent⟩ := form
  have magnitude := @readMagnitude_gives rest rounds isNegative digits nonempty areDigits leading
    fraction exponent boundary
  rw [← List.append_assoc] at magnitude
  cases isNegative with
  | true => exact magnitude _
  | false =>
      rw [readNumber]
      split
      · rename_i here
        rw [NumberForm.text, List.append_assoc, List.append_assoc] at here
        exact absurd here (digits_append_ne_cons nonempty areDigits rfl _ _)
      · exact magnitude _

/-! ### Skimming -/

theorem skimExponentDigits_passes (digits : Digits) (ends : NoDigit rest) (offset : Nat) :
    Passes rest rounds
      (⟨digits.chars ++ rest, offset, rounds⟩ : Cursor).skimExponentDigits := by
  obtain ⟨digits, nonempty, areDigits⟩ := digits
  have skipped := @skipDigits_run digits rest areDigits ends
  obtain ⟨c, others, rfl⟩ := List.exists_cons_of_ne_nil nonempty
  show Passes rest rounds (if c.isDigit then .ok (skipDigits ⟨c :: others ++ rest, _, _⟩) else _)
  rw [if_pos (areDigits c List.mem_cons_self), skipped]
  exact ⟨_, rfl⟩

theorem skimExponent_passes (exponent : ExponentForm) (ends : NoDigit rest) (offset : Nat) :
    Passes rest rounds
      (⟨(exponent.sign.map Sign.text).toList ++ exponent.digits.chars ++ rest, offset, rounds⟩ :
        Cursor).skimExponent := by
  obtain ⟨isCapital, sign, digits⟩ := exponent
  have skimmed := @skimExponentDigits_passes rest rounds digits ends
  obtain ⟨chars, nonempty, areDigits⟩ := digits
  match sign with
  | some .plus => exact skimmed _
  | some .minus => exact skimmed _
  | none =>
      rw [skimExponent]
      split
      · rename_i here
        exact absurd here (digits_append_ne_cons nonempty areDigits rfl _ _)
      · rename_i here
        exact absurd here (digits_append_ne_cons nonempty areDigits rfl _ _)
      · exact skimmed offset

theorem skimFraction_passes (digits : Digits) (exponent : Option ExponentForm)
    (boundary : Boundary rest) (offset : Nat) :
    Passes rest rounds
      (⟨digits.chars ++ (exponentText exponent ++ rest), offset, rounds⟩ :
        Cursor).skimFraction := by
  obtain ⟨digits, nonempty, areDigits⟩ := digits
  have ends := noDigit_exponentText exponent boundary
  have next := (digit_next_iff areDigits ends).mpr nonempty
  simp only [skimFraction, next, if_true, skipDigits_run areDigits ends]
  cases exponent with
  | some exponent =>
      have skimmed := @skimExponent_passes rest rounds exponent boundary.noDigit
      obtain ⟨isCapital, sign, digits⟩ := exponent
      cases isCapital <;> exact skimmed _
  | none =>
      rw [exponentText, List.nil_append]
      split
      · exact absurd (boundary _ rfl) (by decide)
      · exact absurd (boundary _ rfl) (by decide)
      · exact ⟨_, rfl⟩

theorem skimBehindWhole_passes (fraction : Option Digits) (exponent : Option ExponentForm)
    (boundary : Boundary rest) (offset : Nat) :
    Passes rest rounds
      (⟨fractionText fraction exponent ++ rest, offset, rounds⟩ : Cursor).skimBehindWhole := by
  match fraction, exponent with
  | some digits, exponent =>
      rw [fractionText, List.cons_append, List.append_assoc]
      exact skimFraction_passes digits exponent boundary _
  | none, some exponent =>
      have skimmed := @skimExponent_passes rest rounds exponent boundary.noDigit
      obtain ⟨isCapital, sign, digits⟩ := exponent
      cases isCapital <;> exact skimmed _
  | none, none =>
      rw [fractionText, exponentText, List.nil_append, skimBehindWhole]
      split
      · rename_i here
        exact absurd here (boundary.ne_cons (by decide) _)
      · rename_i here
        exact absurd here (boundary.ne_cons (by decide) _)
      · rename_i here
        exact absurd here (boundary.ne_cons (by decide) _)
      · exact ⟨_, rfl⟩

theorem skimMagnitude_passes {digits : List Char} (nonempty : digits ≠ [])
    (areDigits : ∀ c ∈ digits, c.isDigit) (leading : digits.head? = some '0' → digits = ['0'])
    (fraction : Option Digits) (exponent : Option ExponentForm) (boundary : Boundary rest)
    (offset : Nat) :
    Passes rest rounds
      (⟨digits ++ (fractionText fraction exponent ++ rest), offset, rounds⟩ :
        Cursor).skimMagnitude := by
  have ends := noDigit_fractionText fraction exponent boundary
  have skipped := @skipDigits_run digits _ areDigits ends
  obtain ⟨c, others, rfl⟩ := List.exists_cons_of_ne_nil nonempty
  rw [skimMagnitude]
  split
  · rename_i here
    exact nomatch here
  · rename_i here
    obtain ⟨rfl, rfl⟩ := List.cons.inj here
    obtain ⟨_, rfl⟩ := List.cons.inj (leading rfl)
    rw [List.append_eq, List.nil_append, if_neg (not_digit_next ends)]
    exact skimBehindWhole_passes fraction exponent boundary _
  · rename_i here
    obtain ⟨rfl, _⟩ := List.cons.inj here
    rw [if_pos (areDigits _ List.mem_cons_self), skipped]
    exact skimBehindWhole_passes fraction exponent boundary _

/-- Skimmed, every number is passed over. -/
theorem skimNumber_passes (form : NumberForm) (boundary : Boundary rest) (offset : Nat) :
    Passes rest rounds (⟨form.text ++ rest, offset, rounds⟩ : Cursor).skimNumber := by
  obtain ⟨isNegative, ⟨digits, nonempty, areDigits⟩, leading, fraction, exponent⟩ := form
  have magnitude := @skimMagnitude_passes rest rounds digits nonempty areDigits leading
    fraction exponent boundary
  rw [← List.append_assoc] at magnitude
  cases isNegative with
  | true => exact magnitude _
  | false =>
      rw [skimNumber]
      split
      · rename_i here
        rw [NumberForm.text, List.append_assoc, List.append_assoc] at here
        exact absurd here (digits_append_ne_cons nonempty areDigits rfl _ _)
      · exact magnitude _

end Cursor

end StyleBaseline.Json
