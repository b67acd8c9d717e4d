/-
**Reading strings of JSON.** A string is read as the characters that it writes; only a surrogate
without its other half stops the reader. Skimmed, every string is passed over.

* `readString_gives` — the string that is read.
* `skimString_passes` — the string that is skimmed.
-/

import StyleBaseline.Proofs.Json.Outcomes

namespace StyleBaseline.Json

theorem utf8Size_of_hexDigit? {c : Char} {value : Nat} (isDigit : hexDigit? c = some value) :
    c.utf8Size = 1 := by
  refine Char.utf8Size_eq_one_iff.mpr ?_
  rw [hexDigit?] at isDigit
  split at isDigit
  · rename_i decimal
    exact Nat.le_trans decimal.2 (by decide)
  · split at isDigit
    · rename_i small
      exact Nat.le_trans small.2 (by decide)
    · split at isDigit
      · rename_i capital
        exact Nat.le_trans capital.2 (by decide)
      · exact nomatch isDigit

theorem CodeUnit.shape (encoded : CodeUnit) :
    encoded.digits.length = 4 ∧ byteLength encoded.digits = 4 := by
  obtain ⟨digits, code, written⟩ := encoded
  rw [hexUnit?] at written
  split at written
  · rename_i values
    obtain ⟨a, digits, rfl, first, values⟩ := List.map_eq_cons_iff.mp values
    obtain ⟨b, digits, rfl, second, values⟩ := List.map_eq_cons_iff.mp values
    obtain ⟨c, digits, rfl, third, values⟩ := List.map_eq_cons_iff.mp values
    obtain ⟨d, digits, rfl, fourth, values⟩ := List.map_eq_cons_iff.mp values
    obtain rfl := List.map_eq_nil_iff.mp values
    refine ⟨rfl, ?_⟩
    simp only [byteLength, utf8Size_of_hexDigit? first, utf8Size_of_hexDigit? second,
      utf8Size_of_hexDigit? third, utf8Size_of_hexDigit? fourth]
  · cases written

theorem StringForm.unit_text_append (encoded : CodeUnit) (parts : StringForm) (rest : List Char) :
    text (.unit encoded :: parts) ++ rest =
      '\\' :: 'u' :: (encoded.digits ++ (text parts ++ rest)) := by
  rw [text, List.flatMap_cons, List.append_assoc]
  rfl

namespace Cursor

variable {rounds : Nat}

theorem readHexUnit_unit (encoded : CodeUnit) (rest : List Char) (offset : Nat) :
    (⟨encoded.digits ++ rest, offset, rounds⟩ : Cursor).readHexUnit =
      .ok (encoded.code, ⟨rest, offset + byteLength encoded.digits, rounds⟩) := by
  obtain ⟨length, bytes⟩ := encoded.shape
  have window : (encoded.digits ++ rest).take 4 = encoded.digits := by
    rw [← length, List.take_left]
  have behind := skip_append encoded.digits rest offset rounds
  rw [length] at behind
  simp only [readHexUnit, window, bytes, Nat.lt_irrefl, if_false, encoded.written, behind]

theorem readTrailSurrogate_unit (encoded : CodeUnit) (rest : List Char) (offset : Nat) :
    Gives rest rounds
      (⟨'\\' :: 'u' :: (encoded.digits ++ rest), offset, rounds⟩ : Cursor).readTrailSurrogate
      (if isTrailSurrogate encoded.code then some encoded.code else none) := by
  show Gives rest rounds
    (readHexUnit ⟨encoded.digits ++ rest, offset + byteLength ['\\', 'u'], rounds⟩ >>= fun read =>
      if isTrailSurrogate read.1 then .ok read else read.2.stopHere .loneSurrogate) _
  rw [readHexUnit_unit]
  show Gives rest rounds (if isTrailSurrogate encoded.code then _ else _) _
  split
  · exact .value _ _
  · exact .failure _

/-- Anything but another number behind a `u` breaks a surrogate pair. -/
theorem readTrailSurrogate_other {form : StringForm}
    (other : ∀ encoded parts, form ≠ .unit encoded :: parts) (rest behind : List Char)
    (offset : Nat) :
    Gives behind rounds (⟨form.text ++ '"' :: rest, offset, rounds⟩ : Cursor).readTrailSurrogate
      none := by
  cases form with
  | nil => exact .failure _
  | cons part parts =>
      cases part with
      | plain c isPlain =>
          rw [readTrailSurrogate]
          split
          · rename_i here
            exact nomatch here
          · exact .failure _
          · rename_i here
            exact absurd (List.cons.inj here).1 isPlain.2.2
          · exact .failure _
          · exact .failure _
      | short letter meaning known =>
          rw [readTrailSurrogate]
          split
          · exact .failure _
          · exact .failure _
          · rename_i here
            obtain ⟨rfl, _⟩ := List.cons.inj (List.cons.inj here).2
            exact nomatch known
          · exact .failure _
          · exact .failure _
      | unit encoded => exact absurd rfl (other encoded parts)

theorem readEscape_short {letter meaning : Char} (known : shortEscape? letter = some meaning)
    (rest : List Char) (offset : Nat) :
    Gives rest rounds (⟨letter :: rest, offset, rounds⟩ : Cursor).readEscape (some meaning) := by
  rw [readEscape]
  split
  · rename_i ends
    exact nomatch ends
  · rename_i isUnit
    obtain ⟨rfl, _⟩ := List.cons.inj isUnit
    exact nomatch known
  · rename_i here
    obtain ⟨rfl, _⟩ := List.cons.inj here
    rw [known]
    exact .value _ _

theorem readEscape_unit (encoded : CodeUnit) (rest : List Char) (offset : Nat) :
    ∃ further, (⟨'u' :: (encoded.digits ++ rest), offset, rounds⟩ : Cursor).readEscape =
      if isTrailSurrogate encoded.code then stopHere ⟨rest, further, rounds⟩ .loneSurrogate
      else if isLeadSurrogate encoded.code then do
        let (trail, behind) ← readTrailSurrogate ⟨rest, further, rounds⟩
        .ok (pairedChar encoded.code trail, behind)
      else .ok (Char.ofNat encoded.code, ⟨rest, further, rounds⟩) := by
  refine ⟨offset + byteLength ['u'] + byteLength encoded.digits, ?_⟩
  show (do
    let (unit, behind) ← readHexUnit ⟨encoded.digits ++ rest, offset + byteLength ['u'], rounds⟩
    if isTrailSurrogate unit then behind.stopHere .loneSurrogate
    else if isLeadSurrogate unit then
      let (trail, behind) ← behind.readTrailSurrogate
      .ok (pairedChar unit trail, behind)
    else .ok (Char.ofNat unit, behind)) = _
  rw [readHexUnit_unit]
  rfl

/-- The second half of a pair gives nothing by itself. -/
theorem readEscape_trail {encoded : CodeUnit} (isTrail : isTrailSurrogate encoded.code)
    (rest behind : List Char) (offset : Nat) :
    Gives behind rounds (⟨'u' :: (encoded.digits ++ rest), offset, rounds⟩ : Cursor).readEscape
      none := by
  obtain ⟨further, escape⟩ := @readEscape_unit rounds encoded rest offset
  rw [escape, if_pos isTrail]
  exact .failure _

theorem readEscape_single {encoded : CodeUnit} (notTrail : ¬isTrailSurrogate encoded.code)
    (notLead : ¬isLeadSurrogate encoded.code) (rest : List Char) (offset : Nat) :
    Gives rest rounds (⟨'u' :: (encoded.digits ++ rest), offset, rounds⟩ : Cursor).readEscape
      (some (Char.ofNat encoded.code)) := by
  obtain ⟨further, escape⟩ := @readEscape_unit rounds encoded rest offset
  rw [escape, if_neg notTrail, if_neg notLead]
  exact .value _ _

/-- The first half of a pair gives a character with what is read as the second half. -/
theorem readEscape_lead {encoded : CodeUnit} (notTrail : ¬isTrailSurrogate encoded.code)
    (isLead : isLeadSurrogate encoded.code) {rest behind : List Char} {second : Option Nat}
    (trail : ∀ offset, Gives behind rounds
      (⟨rest, offset, rounds⟩ : Cursor).readTrailSurrogate second) (offset : Nat) :
    Gives behind rounds (⟨'u' :: (encoded.digits ++ rest), offset, rounds⟩ : Cursor).readEscape
      (second.map (pairedChar encoded.code)) := by
  obtain ⟨further, escape⟩ := @readEscape_unit rounds encoded rest offset
  rw [escape, if_neg notTrail, if_pos isLead]
  exact (trail further).map fun _ _ => rfl

theorem readCharacters_plain {c : Char} (isPlain : 0x20 ≤ c.toNat ∧ c ≠ '"' ∧ c ≠ '\\')
    (fuel : Nat) (before rest : List Char) (offset : Nat) :
    readCharacters (fuel + 1) before ⟨c :: rest, offset, rounds⟩ =
      readCharacters fuel (c :: before) ⟨rest, offset + byteLength [c], rounds⟩ := by
  obtain ⟨printed, notQuote, notEscape⟩ := isPlain
  rw [readCharacters]
  split
  · rename_i here
    exact nomatch here
  · rename_i here
    exact absurd (List.cons.inj here).1 notQuote
  · rename_i here
    exact absurd (List.cons.inj here).1 notEscape
  · rename_i here
    obtain ⟨rfl, _⟩ := List.cons.inj here
    rw [if_neg (Nat.not_lt.mpr printed), skip_one]

theorem map_cons_append (c : Char) (before : List Char) (chars? : Option (List Char)) :
    (chars?.map (c :: ·)).map (before.reverse ++ ·) =
      chars?.map ((c :: before).reverse ++ ·) := by
  rw [Option.map_map]
  refine Option.map_congr fun chars _ => ?_
  rw [List.reverse_cons, List.append_assoc]
  rfl

/-- The character that an escape gives is put before the others. -/
theorem readCharacters_escape {cs behind rest : List Char} {offset fuel : Nat} {before : List Char}
    {escaped : Option Char} (expected : Option (List Char))
    (escape : ∀ offset, Gives behind rounds (⟨cs, offset, rounds⟩ : Cursor).readEscape escaped)
    (continued : ∀ c offset, escaped = some c →
      Gives rest rounds (readCharacters fuel (c :: before) ⟨behind, offset, rounds⟩)
        (expected.map ((c :: before).reverse ++ ·))) :
    Gives rest rounds (readCharacters (fuel + 1) before ⟨'\\' :: cs, offset, rounds⟩)
      ((escaped.bind fun c => expected.map (c :: ·)).map (before.reverse ++ ·)) := by
  have whole : Gives rest rounds
      (readEscape ⟨cs, offset + byteLength ['\\'], rounds⟩ >>= fun read =>
        readCharacters fuel (read.1 :: before) read.2)
      (escaped.bind fun c => expected.map ((c :: before).reverse ++ ·)) :=
    (escape _).bind continued
  cases escaped with
  | none => exact whole
  | some c =>
      rw [Option.bind_some, map_cons_append]
      exact whole

/-- **Strings**: the characters that are written, if no surrogate is without its other half. -/
theorem readCharacters_gives (form : StringForm) (rest : List Char) {fuel : Nat}
    (enough : form.length < fuel) (before : List Char) (offset : Nat) :
    Gives rest rounds (readCharacters fuel before ⟨form.text ++ '"' :: rest, offset, rounds⟩)
      (form.chars?.map (before.reverse ++ ·)) := by
  obtain ⟨fuel, rfl⟩ : ∃ more, fuel = more + 1 := ⟨fuel - 1, by omega⟩
  fun_induction StringForm.chars? form generalizing fuel before offset with
  | case1 =>
      rw [Option.map_some, List.append_nil]
      exact .value _ _
  | case2 c isPlain parts ih =>
      rw [List.length_cons] at enough
      obtain ⟨fuel, rfl⟩ : ∃ more, fuel = more + 1 := ⟨fuel - 1, by omega⟩
      rw [map_cons_append]
      show Gives rest rounds
        (readCharacters _ before ⟨c :: (StringForm.text parts ++ '"' :: rest), _, _⟩) _
      rw [readCharacters_plain isPlain]
      exact ih _ _ fuel (by omega)
  | case3 letter meaning known parts ih =>
      rw [List.length_cons] at enough
      obtain ⟨fuel, rfl⟩ : ∃ more, fuel = more + 1 := ⟨fuel - 1, by omega⟩
      exact readCharacters_escape _ (readEscape_short known _) fun c offset _ =>
        ih _ _ fuel (by omega)
  | case4 lead trail parts isTrail =>
      rw [StringForm.unit_text_append]
      exact readCharacters_escape none (readEscape_trail isTrail _ [])
        fun _ _ given => nomatch given
  | case5 lead trail parts notTrail isLead isTrail ih =>
      rw [List.length_cons, List.length_cons] at enough
      obtain ⟨fuel, rfl⟩ : ∃ more, fuel = more + 1 := ⟨fuel - 1, by omega⟩
      have second := @readTrailSurrogate_unit rounds trail
        (StringForm.text parts ++ '"' :: rest)
      rw [if_pos isTrail] at second
      rw [StringForm.unit_text_append, StringForm.unit_text_append]
      exact readCharacters_escape _ (readEscape_lead notTrail isLead second) fun c offset _ =>
        ih _ _ fuel (by omega)
  | case6 lead trail parts notTrail isLead notPaired =>
      have second := @readTrailSurrogate_unit rounds trail
        (StringForm.text parts ++ '"' :: rest)
      rw [if_neg notPaired] at second
      rw [StringForm.unit_text_append, StringForm.unit_text_append]
      exact readCharacters_escape none (readEscape_lead notTrail isLead second)
        fun _ _ given => nomatch given
  | case7 lead trail parts notTrail notLead ih =>
      rw [List.length_cons] at enough
      obtain ⟨fuel, rfl⟩ : ∃ more, fuel = more + 1 := ⟨fuel - 1, by omega⟩
      rw [StringForm.unit_text_append]
      exact readCharacters_escape _ (readEscape_single notTrail notLead _) fun c offset _ =>
        ih _ _ fuel (by omega)
  | case8 single parts other lone =>
      rw [StringForm.unit_text_append]
      by_cases isTrail : isTrailSurrogate single.code
      · exact readCharacters_escape none (readEscape_trail isTrail _ [])
          fun _ _ given => nomatch given
      · have second := @readTrailSurrogate_other rounds parts other rest []
        exact readCharacters_escape none
          (readEscape_lead isTrail (lone.resolve_left isTrail) second)
          fun _ _ given => nomatch given
  | case9 single parts other paired ih =>
      obtain ⟨notTrail, notLead⟩ := not_or.mp paired
      rw [List.length_cons] at enough
      obtain ⟨fuel, rfl⟩ : ∃ more, fuel = more + 1 := ⟨fuel - 1, by omega⟩
      rw [StringForm.unit_text_append]
      exact readCharacters_escape _ (readEscape_single notTrail notLead _) fun c offset _ =>
        ih _ _ fuel (by omega)

theorem length_le_length_text (form : StringForm) : form.length ≤ form.text.length := by
  induction form with
  | nil => exact Nat.le_refl _
  | cons part parts ih =>
      have shown : 0 < part.text.length := by
        cases part <;> exact Nat.succ_pos _
      rw [StringForm.text, List.flatMap_cons, List.length_append, List.length_cons]
      exact Nat.add_comm 1 _ ▸ Nat.add_le_add shown ih

theorem readString_gives (form : StringForm) {rest : List Char}
    (enough : (form.text ++ '"' :: rest).length < rounds) (offset : Nat) :
    Gives rest rounds (⟨form.text ++ '"' :: rest, offset, rounds⟩ : Cursor).readString
      form.value? := by
  have fuel : form.length < rounds := by
    have short := length_le_length_text form
    rw [List.length_append] at enough
    omega
  have chars := @readCharacters_gives rounds form rest _ fuel [] offset
  have unchanged : ([] ++ · : List Char → List Char) = id := rfl
  rw [List.reverse_nil, unchanged, Option.map_id] at chars
  exact chars.map fun _ _ => rfl

theorem skimEscape_short {letter meaning : Char} (known : shortEscape? letter = some meaning)
    (rest : List Char) (offset : Nat) :
    (⟨letter :: rest, offset, rounds⟩ : Cursor).skimEscape =
      .ok ⟨rest, offset + byteLength [letter], rounds⟩ := by
  rw [skimEscape]
  split
  · rename_i here
    exact nomatch here
  · rename_i here
    obtain ⟨rfl, _⟩ := List.cons.inj here
    exact nomatch known
  · rename_i here
    obtain ⟨rfl, _⟩ := List.cons.inj here
    rw [known]
    rfl

/-- Skimmed, every string is passed over. -/
theorem skimCharacters_passes (form : StringForm) (rest : List Char) {fuel : Nat}
    (enough : form.length < fuel) (offset : Nat) :
    Passes rest rounds (skimCharacters fuel ⟨form.text ++ '"' :: rest, offset, rounds⟩) := by
  induction form generalizing fuel offset with
  | nil =>
      obtain ⟨fuel, rfl⟩ : ∃ more, fuel = more + 1 := ⟨fuel - 1, by omega⟩
      exact ⟨_, rfl⟩
  | cons part parts ih =>
      rw [List.length_cons] at enough
      obtain ⟨fuel, rfl⟩ : ∃ more, fuel = more + 1 := ⟨fuel - 1, by omega⟩
      cases part with
      | plain c isPlain =>
          obtain ⟨printed, notQuote, notEscape⟩ := isPlain
          rw [skimCharacters]
          split
          · rename_i here
            exact nomatch here
          · rename_i here
            exact absurd (List.cons.inj here).1 notQuote
          · rename_i here
            exact absurd (List.cons.inj here).1 notEscape
          · rename_i here
            obtain ⟨rfl, _⟩ := List.cons.inj here
            rw [if_neg (Nat.not_lt.mpr printed)]
            exact ih (by omega) _
      | short letter meaning known =>
          show Passes rest rounds
            (skimEscape ⟨letter :: (StringForm.text parts ++ '"' :: rest), _, rounds⟩ >>=
              skimCharacters fuel)
          rw [skimEscape_short known]
          exact ih (by omega) _
      | unit encoded =>
          rw [StringForm.unit_text_append]
          show Passes rest rounds ((do
            let (_, behind) ← readHexUnit ⟨encoded.digits ++ _, _, rounds⟩
            .ok behind) >>= skimCharacters fuel)
          rw [readHexUnit_unit]
          exact ih (by omega) _

theorem skimString_passes (form : StringForm) {rest : List Char}
    (enough : (form.text ++ '"' :: rest).length < rounds) (offset : Nat) :
    Passes rest rounds (⟨form.text ++ '"' :: rest, offset, rounds⟩ : Cursor).skimString := by
  have fuel : form.length < rounds := by
    have short := length_le_length_text form
    rw [List.length_append] at enough
    omega
  exact skimCharacters_passes form rest fuel offset

end Cursor

end StyleBaseline.Json
