/-
**Writing JSON.** What is written of a value is spelt by a phrase, and the reader gets the value back
from it, with the members of each object in the order of their names. Every character of a string
can be written; a whole number has to be in the range of the reader.

* `exists_stringForm` — strings, character by character.
* `NumberForm.value?_ofWhole` — whole numbers.
* `bracketed_eq` — the layout of arrays and objects.
* `Writable.exists_phrase` — values, by induction on them.
* `Value.ofText_layout` — what is read of a value that is laid out.
-/

import StyleBaseline.Json.Layout
import StyleBaseline.Proofs.Json.Reading
import StyleBaseline.Proofs.Table

namespace StyleBaseline.Json

/-! ### Strings -/

theorem hexUnit?_control {code : Nat} (control : code < 0x20) :
    hexUnit? (['0', '0'] ++ twoHexDigits code) = some code := by
  have each : ∀ code < 0x20, hexUnit? (['0', '0'] ++ twoHexDigits code) = some code := by decide
  exact each code control

theorem StringForm.chars?_unit {encoded : CodeUnit}
    (whole : isTrailSurrogate encoded.code = false ∧ isLeadSurrogate encoded.code = false)
    (parts : StringForm) :
    chars? (.unit encoded :: parts) = (chars? parts).map (Char.ofNat encoded.code :: ·) := by
  have noTrail : ¬isTrailSurrogate encoded.code = true := by
    rw [whole.1]
    decide
  have noLead : ¬isLeadSurrogate encoded.code = true := by
    rw [whole.2]
    decide
  have single : ¬(isTrailSurrogate encoded.code = true ∨ isLeadSurrogate encoded.code = true) :=
    not_or.mpr ⟨noTrail, noLead⟩
  cases parts with
  | nil => exact if_neg single
  | cons part parts =>
      cases part with
      | plain c isPlain => exact if_neg single
      | short letter meaning known => exact if_neg single
      | unit trail => rw [chars?, if_neg noTrail, if_neg noLead]

/-- What stands in a string for a character. -/
theorem exists_stringPart (c : Char) :
    ∃ part : StringPart, part.text = stringCharText c ∧
      ∀ parts : StringForm, StringForm.chars? (part :: parts) = (StringForm.chars? parts).map
        (c :: ·) := by
  unfold stringCharText
  split_ifs with quote backslash backspace feed line carriage tab control
  · exact ⟨.short '"' '"' rfl, rfl, fun _ => by rw [quote]; rfl⟩
  · exact ⟨.short '\\' '\\' rfl, rfl, fun _ => by rw [backslash]; rfl⟩
  · exact ⟨.short 'b' '\x08' rfl, rfl, fun _ => by rw [backspace]; rfl⟩
  · exact ⟨.short 'f' '\x0c' rfl, rfl, fun _ => by rw [feed]; rfl⟩
  · exact ⟨.short 'n' '\n' rfl, rfl, fun _ => by rw [line]; rfl⟩
  · exact ⟨.short 'r' '\r' rfl, rfl, fun _ => by rw [carriage]; rfl⟩
  · exact ⟨.short 't' '\t' rfl, rfl, fun _ => by rw [tab]; rfl⟩
  · refine ⟨.unit ⟨_, c.toNat, hexUnit?_control control⟩, rfl, fun parts => ?_⟩
    have belowSurrogates : c.toNat < 0xd800 := control.trans (by decide)
    rw [StringForm.chars?_unit ?_, Char.ofNat_toNat]
    simp only [isTrailSurrogate, isLeadSurrogate, Bool.and_eq_false_iff, decide_eq_false_iff_not]
    omega
  · exact ⟨.plain c ⟨Nat.le_of_not_lt control, quote, backslash⟩, rfl, fun _ => rfl⟩

/-- **Every string is written by some form.** -/
theorem exists_stringForm (text : String) :
    ∃ form : StringForm, '"' :: (form.text ++ ['"']) = stringText text ∧
      form.value? = some text := by
  have each : ∀ chars : List Char, ∃ form : StringForm,
      form.text = chars.flatMap stringCharText ∧ form.chars? = some chars := by
    intro chars
    induction chars with
    | nil => exact ⟨[], rfl, rfl⟩
    | cons c chars ih =>
        obtain ⟨part, partText, partChars⟩ := exists_stringPart c
        obtain ⟨form, formText, formChars⟩ := ih
        refine ⟨part :: form, ?_, ?_⟩
        · rw [List.flatMap_cons, ← partText, ← formText]
          rfl
        · rw [partChars, formChars]
          rfl
  obtain ⟨form, formText, formChars⟩ := each text.toList
  refine ⟨form, by rw [formText]; rfl, ?_⟩
  rw [StringForm.value?, formChars, Option.map_some, String.ofList_toList]

/-! ### Whole numbers -/

theorem le_ofDigitChars (digits : List Char) (value : Nat) :
    value ≤ Nat.ofDigitChars 10 digits value := by
  induction digits generalizing value with
  | nil => exact Nat.le_refl _
  | cons c digits ih =>
      rw [Nat.ofDigitChars_cons]
      have behind := ih (10 * value + (c.toNat - '0'.toNat))
      omega

/-- All digits of a number in range are gathered. -/
theorem gatherDigits_of_le {limit value count : Nat} {digits : List Char}
    (areDigits : ∀ c ∈ digits, c.isDigit) (inRange : Nat.ofDigitChars 10 digits value ≤ limit) :
    gatherDigits limit value count digits =
      (Nat.ofDigitChars 10 digits value, count + digits.length, []) := by
  induction digits generalizing value count with
  | nil => rfl
  | cons c digits ih =>
      obtain ⟨isDigit, others⟩ := List.forall_mem_cons.mp areDigits
      have next : Nat.ofDigitChars 10 (c :: digits) value =
          Nat.ofDigitChars 10 digits (value * 10 + decimalDigit c) := by
        rw [Nat.ofDigitChars_cons, Nat.mul_comm]
        rfl
      rw [next] at inRange ⊢
      have below := (le_ofDigitChars digits _).trans inRange
      rw [gatherDigits, if_pos ⟨isDigit, below⟩, ih others inRange, List.length_cons,
        Nat.add_assoc, Nat.add_comm 1]

/-- Only zero begins with the digit zero. -/
theorem toDigits_leading (n : Nat) (zero : (Nat.toDigits 10 n).head? = some '0') :
    Nat.toDigits 10 n = ['0'] := by
  induction n using Nat.strongRecOn with
  | ind n ih =>
      by_cases short : n < 10
      · rw [Nat.toDigits_of_lt_base short] at zero ⊢
        exact congrArg (· :: []) (Option.some.inj zero)
      · have enough : 10 ≤ n := Nat.le_of_not_lt short
        have split := Nat.toDigits_of_base_le (by decide : 1 < 10) enough
        rw [split, List.head?_append_of_ne_nil _ Nat.toDigits_ne_nil] at zero
        have front := ih (n / 10) (by omega) zero
        have value : Nat.ofDigitChars 10 (Nat.toDigits 10 (n / 10)) 0 = n / 10 :=
          Nat.ofDigitChars_toDigits (by decide) (by decide)
        rw [front] at value
        have nothing : n / 10 = 0 := value.symm
        omega

/-- The form of a whole number. -/
def NumberForm.ofWhole (isNegative : Bool) (magnitude : Nat) : NumberForm where
  isNegative := isNegative
  whole := ⟨Nat.toDigits 10 magnitude, Nat.toDigits_ne_nil, fun _ member =>
    Nat.isDigit_of_mem_toDigits (by decide) (by decide) member⟩
  leading := toDigits_leading magnitude
  fraction := none
  exponent := none

/-- **A whole number in range** is what its form comes to. -/
theorem NumberForm.value?_ofWhole {isNegative : Bool} {magnitude : Nat} {number : Number}
    (inRange : magnitude ≤ greatestNatural)
    (isWhole : wholeNumber? isNegative magnitude = some number) :
    (ofWhole isNegative magnitude).value? = some number := by
  have areDigits := (ofWhole isNegative magnitude).whole.areDigits
  have value : Nat.ofDigitChars 10 (Nat.toDigits 10 magnitude) 0 = magnitude :=
    Nat.ofDigitChars_toDigits (by decide) (by decide)
  have gathered : gatherDigits greatestNatural 0 0 (Nat.toDigits 10 magnitude) = _ :=
    gatherDigits_of_le areDigits (value.symm ▸ inRange)
  rw [value] at gathered
  simp only [NumberForm.value?, ofWhole, gathered, numberBehind?, isWhole, List.length_nil]

/-! ### Brackets -/

/-- The white space in front of a line at a level. -/
def lineBlank (level : Nat) : Blank where
  chars := newLine level
  padding := by
    refine List.forall_mem_cons.mpr ⟨rfl, fun c member => ?_⟩
    rw [List.eq_of_mem_replicate member]
    rfl

/-- The white space between a name and its value. -/
def nameBlank : Blank :=
  ⟨[' '], List.forall_mem_singleton.mpr rfl⟩

section Brackets

variable {α β : Type}

/-- Parts with the white space behind them: the closing bracket stands on a line of its own. -/
def closed (level : Nat) : List α → List (α × Blank)
  | [] => []
  | [part] => [(part, lineBlank level)]
  | part :: other :: rest => (part, .none) :: closed level (other :: rest)

theorem map_fst_closed (level : Nat) (parts : List α) : (closed level parts).map Prod.fst = parts := by
  induction parts with
  | nil => rfl
  | cons part rest ih =>
      cases rest with
      | nil => rfl
      | cons other rest => rw [closed, List.map_cons, ih]

theorem mapM_closed (level : Nat) (parts : List α) (valueOf? : α → Option β) :
    (closed level parts).mapM (fun part => valueOf? part.1) = parts.mapM valueOf? := by
  conv_rhs => rw [← map_fst_closed level parts, List.mapM_map]
  rfl

theorem commaSeparated_cons (text : List Char) {texts : List (List Char)} (others : texts ≠ []) :
    commaSeparated (text :: texts) = text ++ ',' :: commaSeparated texts := by
  cases texts with
  | nil => exact absurd rfl others
  | cons other rest => rfl

theorem lineSeparated_closed (level : Nat) (textOf : α → List Char) (part : α) (rest : List α) :
    lineSeparated (level + 1) ((part :: rest).map textOf) ++ newLine level =
      commaSeparated ((closed level (part :: rest)).map fun part =>
        newLine (level + 1) ++ (textOf part.1 ++ part.2.chars)) := by
  induction rest generalizing part with
  | nil =>
      show newLine (level + 1) ++ textOf part ++ newLine level = _
      rw [List.append_assoc]
      rfl
  | cons other rest ih =>
      have closing := ih other
      show newLine (level + 1) ++ textOf part ++
        ',' :: lineSeparated (level + 1) ((other :: rest).map textOf) ++ newLine level = _
      have others : (closed level (other :: rest)).map (fun part =>
          newLine (level + 1) ++ (textOf part.1 ++ part.2.chars)) ≠ [] := by
        cases rest <;> exact List.cons_ne_nil _ _
      rw [List.append_assoc, List.append_assoc, List.cons_append, closing, closed, List.map_cons,
        commaSeparated_cons _ others]
      show _ = newLine (level + 1) ++ (textOf part ++ []) ++ _
      rw [List.append_nil, List.append_assoc]

/-- **The layout of parts between brackets**, each with the white space around it. -/
theorem bracketed_eq (level : Nat) (opening closing : Char) (textOf : α → List Char)
    (parts : List α) :
    bracketed level opening closing (parts.map textOf) =
      opening :: (commaSeparated ((closed level parts).map fun part =>
        newLine (level + 1) ++ (textOf part.1 ++ part.2.chars)) ++ [closing]) := by
  cases parts with
  | nil => rfl
  | cons part rest =>
      rw [← lineSeparated_closed]
      rfl

end Brackets

/-! ### Values -/

mutual

/-- A value with the members of each object in the order of their names. -/
def Value.ordered : Value → Value
  | .array items => .array (orderedItems items)
  | .object members => .object (Table.placed (orderedMembers members))
  | .null => .null
  | .bool value => .bool value
  | .number value => .number value
  | .string value => .string value

def orderedItems : List Value → List Value
  | [] => []
  | item :: items => item.ordered :: orderedItems items

def orderedMembers : List (String × Value) → List (String × Value)
  | [] => []
  | (name, value) :: members => (name, value.ordered) :: orderedMembers members

end

/-- A value with at most so many levels of nesting, all of whose numbers are whole and in range. -/
inductive Writable : (levels : Nat) → Value → Prop
  | null (levels : Nat) : Writable levels .null
  | bool (levels : Nat) (value : Bool) : Writable levels (.bool value)
  | natural (levels : Nat) {value : Nat} (inRange : value ≤ greatestNatural) :
      Writable levels (.number (.natural value))
  | negative (levels : Nat) {magnitude : Nat}
      (inRange : 0 < magnitude ∧ magnitude ≤ greatestNegative) :
      Writable levels (.number (.negative magnitude))
  | string (levels : Nat) (value : String) : Writable levels (.string value)
  | array {levels : Nat} {items : List Value} (each : ∀ item ∈ items, Writable levels item) :
      Writable (levels + 1) (.array items)
  | object {levels : Nat} {members : List (String × Value)}
      (each : ∀ member ∈ members, Writable levels member.2) :
      Writable (levels + 1) (.object members)

/-- A phrase spells what is written of a value, and its value is that value in order. -/
def Spells (level levels : Nat) (phrase : Phrase) (value : Value) : Prop :=
  phrase.text = value.layoutAt level ∧ phrase.value? levels = some value.ordered

theorem exists_phrases {level levels : Nat} {items : List Value}
    (each : ∀ item ∈ items, ∃ phrase, Spells level levels phrase item) :
    ∃ phrases : List Phrase, phrases.map Phrase.text = itemLayouts level items ∧
      phrases.mapM (Phrase.value? · levels) = some (orderedItems items) := by
  induction items with
  | nil => exact ⟨[], rfl, rfl⟩
  | cons item items ih =>
      obtain ⟨⟨phrase, text, value⟩, others⟩ := List.forall_mem_cons.mp each
      obtain ⟨phrases, texts, values⟩ := ih others
      refine ⟨phrase :: phrases, ?_, ?_⟩
      · rw [List.map_cons, text, texts, itemLayouts]
      · rw [mapM_cons_eq_bind, value, values, orderedItems]
        rfl

/-- The text of a name with its value, on one line. -/
def entryText (entry : StringForm × Phrase) : List Char :=
  '"' :: (entry.1.text ++ ['"']) ++ [':', ' '] ++ entry.2.text

/-- The value of a name with its value. -/
def entryValue? (levels : Nat) (entry : StringForm × Phrase) : Option (String × Value) :=
  entry.1.value?.bind fun name => (entry.2.value? levels).map (name, ·)

theorem exists_entries {level levels : Nat} {members : List (String × Value)}
    (each : ∀ member ∈ members, ∃ phrase, Spells level levels phrase member.2) :
    ∃ entries : List (StringForm × Phrase), entries.map entryText = memberLayouts level members ∧
      entries.mapM (entryValue? levels) = some (orderedMembers members) := by
  induction members with
  | nil => exact ⟨[], rfl, rfl⟩
  | cons member members ih =>
      obtain ⟨⟨phrase, text, value⟩, others⟩ := List.forall_mem_cons.mp each
      obtain ⟨entries, texts, values⟩ := ih others
      obtain ⟨form, name, nameValue⟩ := exists_stringForm member.1
      refine ⟨(form, phrase) :: entries, ?_, ?_⟩
      · rw [List.map_cons, texts, entryText, name, text, memberLayouts]
      · rw [mapM_cons_eq_bind, values, entryValue?, nameValue, value, orderedMembers]
        rfl

/-- **What is written of a value is spelt by a phrase**, which has the value that is written. -/
theorem Writable.exists_phrase {levels : Nat} {value : Value} (writable : Writable levels value)
    (level : Nat) : ∃ phrase, Spells level levels phrase value := by
  induction writable generalizing level with
  | null levels => exact ⟨.null, rfl, rfl⟩
  | bool levels value => exact ⟨.bool value, by cases value <;> rfl, rfl⟩
  | @natural levels magnitude inRange =>
      refine ⟨.number (.ofWhole false magnitude), ?_, ?_⟩
      · exact List.append_nil _
      · rw [Phrase.value?, NumberForm.value?_ofWhole inRange rfl]
        rfl
  | @negative levels magnitude inRange =>
      refine ⟨.number (.ofWhole true magnitude), ?_, ?_⟩
      · exact congrArg ('-' :: ·) (List.append_nil _)
      · have isWhole : wholeNumber? true magnitude = some (.negative magnitude) := if_pos inRange
        rw [Phrase.value?, NumberForm.value?_ofWhole (inRange.2.trans (by decide)) isWhole]
        rfl
  | string levels value =>
      obtain ⟨form, text, formValue⟩ := exists_stringForm value
      refine ⟨.string form, text, ?_⟩
      rw [Phrase.value?, formValue]
      rfl
  | @array levels items each ih =>
      obtain ⟨phrases, texts, values⟩ := exists_phrases fun item member => ih item member (level + 1)
      refine ⟨.array .none ((closed level phrases).map fun part =>
        ⟨lineBlank (level + 1), part.1, part.2⟩), ?_, ?_⟩
      · rw [Phrase.text, Phrase.itemTexts_eq_map, List.map_map, Value.layoutAt, ← texts,
          bracketed_eq]
        rfl
      · rw [Phrase.value?, Phrase.itemValues?_eq_mapM, List.mapM_map]
        show ((closed level phrases).mapM fun part : Phrase × Blank => part.1.value? levels).map
          Value.array = _
        rw [mapM_closed level phrases (Phrase.value? · levels), values]
        rfl
  | @object levels members each ih =>
      obtain ⟨entries, texts, values⟩ := exists_entries fun entry member => ih entry member (level + 1)
      refine ⟨.object .none ((closed level entries).map fun part =>
        (⟨lineBlank (level + 1), part.1.1, .none⟩, ⟨nameBlank, part.1.2, part.2⟩)), ?_, ?_⟩
      · rw [Phrase.text, Phrase.memberTexts_eq_map, List.map_map, Value.layoutAt, ← texts,
          bracketed_eq]
        refine congrArg ('\x7b' :: ·) (congrArg (commaSeparated · ++ ['\x7d']) ?_)
        refine List.map_congr_left fun (part : (StringForm × Phrase) × Blank) _ => ?_
        simp [Phrase.memberText, Phrase.itemText, entryText, lineBlank, nameBlank, Blank.none]
      · rw [Phrase.value?, Phrase.memberValues?_eq_mapM, List.mapM_map]
        show (((closed level entries).mapM fun part : (StringForm × Phrase) × Blank =>
          entryValue? levels part.1).map Table.placed).map Value.object = _
        rw [mapM_closed level entries (entryValue? levels), values]
        rfl

/-- **What is laid out can be read.** The text is well formed, and what is read is the value, with
the members of each object in the order of their names. -/
theorem Value.ofText_layout {value : Value} (writable : Writable levelLimit value) :
    (∃ phrase, Writes value.layout phrase) ∧ Value.ofText value.layout = .ok value.ordered := by
  obtain ⟨phrase, text, phraseValue⟩ := writable.exists_phrase 0
  have writes : Writes value.layout phrase := by
    refine ⟨.none, .none, ?_⟩
    rw [text, Value.layout, String.toList_ofList]
    exact (List.append_nil _).symm
  refine ⟨⟨phrase, writes⟩, ?_⟩
  exact toOption_eq_some_iff.mp ((Value.ofText_toOption writes).trans phraseValue)

end StyleBaseline.Json
