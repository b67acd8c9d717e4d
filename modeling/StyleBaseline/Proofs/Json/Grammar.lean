/-
**The grammar of JSON.** A phrase is the parse tree of a value: it has all that stands in the text,
white space and escapes included. A text is well formed if some phrase spells it, with white space
on both sides.

* `Phrase` — parse trees, with `Phrase.text` for what they spell.
* `Writes` — a text is spelt by a phrase.
* `Phrase.value?` — the value of a phrase, up to a number of levels of nesting.
* `Phrase.isSome_value?_iff` — which phrases have a value: nothing but depth, halves of surrogate
  pairs and the size of numbers is in the way.
-/

import Mathlib.Data.Option.Basic
import StyleBaseline.Json.Reader

namespace StyleBaseline.Json

/-! ### White space -/

/-- White space between two parts of a text. -/
structure Blank where
  chars : List Char
  padding : ∀ c ∈ chars, isPadding c

def Blank.none : Blank :=
  ⟨[], List.forall_mem_nil _⟩

/-- Something with white space on both sides. -/
structure Padded (α : Type) where
  before : Blank
  word : α
  after : Blank

/-! ### Strings -/

/-- Four hexadecimal digits, and the number that they write. -/
structure CodeUnit where
  digits : List Char
  code : Nat
  written : hexUnit? digits = some code

/-- What stands in a string: a character for itself, a letter behind a backslash, or a number behind
a backslash and a `u`. -/
inductive StringPart where
  | plain (c : Char) (isPlain : 0x20 ≤ c.toNat ∧ c ≠ '"' ∧ c ≠ '\\')
  | short (letter meaning : Char) (known : shortEscape? letter = some meaning)
  | unit (encoded : CodeUnit)

def StringPart.text : StringPart → List Char
  | plain c _ => [c]
  | short letter _ _ => ['\\', letter]
  | unit encoded => '\\' :: 'u' :: encoded.digits

/-- What stands between the quotes of a string. -/
abbrev StringForm := List StringPart

namespace StringForm

def text (form : StringForm) : List Char :=
  form.flatMap StringPart.text

/-- The characters that a string stands for. A surrogate needs its other half next to it. -/
def chars? : StringForm → Option (List Char)
  | [] => some []
  | .plain c _ :: parts => (chars? parts).map (c :: ·)
  | .short _ meaning _ :: parts => (chars? parts).map (meaning :: ·)
  | .unit lead :: .unit trail :: parts =>
      if isTrailSurrogate lead.code then none
      else if isLeadSurrogate lead.code then
        if isTrailSurrogate trail.code then
          (chars? parts).map (pairedChar lead.code trail.code :: ·)
        else none
      else (chars? (.unit trail :: parts)).map (Char.ofNat lead.code :: ·)
  | .unit single :: parts =>
      if isTrailSurrogate single.code ∨ isLeadSurrogate single.code then none
      else (chars? parts).map (Char.ofNat single.code :: ·)

/-- The string that is written. -/
def value? (form : StringForm) : Option String :=
  form.chars?.map String.ofList

end StringForm

/-! ### Numbers -/

/-- One digit or more. -/
structure Digits where
  chars : List Char
  nonempty : chars ≠ []
  areDigits : ∀ c ∈ chars, c.isDigit

inductive Sign where
  | plus
  | minus
deriving DecidableEq

def Sign.text : Sign → Char
  | plus => '+'
  | minus => '-'

structure ExponentForm where
  isCapital : Bool
  sign : Option Sign
  digits : Digits

namespace ExponentForm

def letter (exponent : ExponentForm) : Char :=
  if exponent.isCapital then 'E' else 'e'

def text (exponent : ExponentForm) : List Char :=
  exponent.letter :: ((exponent.sign.map Sign.text).toList ++ exponent.digits.chars)

end ExponentForm

/-- A number: a sign or none, digits, and possibly a fraction and an exponent. The digits of the
whole part begin with a zero only if that is all of them. -/
structure NumberForm where
  isNegative : Bool
  whole : Digits
  leading : whole.chars.head? = some '0' → whole.chars = ['0']
  fraction : Option Digits
  exponent : Option ExponentForm

/-- The text of an exponent, where there is one. -/
def exponentText : Option ExponentForm → List Char
  | none => []
  | some exponent => exponent.text

/-- The text behind the whole part of a number. -/
def fractionText : Option Digits → Option ExponentForm → List Char
  | none, exponent => exponentText exponent
  | some digits, exponent => '.' :: (digits.chars ++ exponentText exponent)

def NumberForm.text (form : NumberForm) : List Char :=
  (if form.isNegative then ['-'] else []) ++
    (form.whole.chars ++ fractionText form.fraction form.exponent)

/-- The double of a whole number with a power of ten, if it is not beyond the largest. -/
def scaledNumber? (isNegative : Bool) (significand : Nat) (power : Int) : Option Number :=
  (Binary64.scaled? significand power).map (.double isNegative)

/-- The number of a significand, a power of ten and an exponent. An exponent that is too large to be
followed makes the number zero if it has no digit but zeros or the exponent is negative. -/
def ExponentForm.number? (exponent : ExponentForm) (isNegative : Bool) (significand : Nat)
    (power : Int) : Option Number :=
  let gathered := gatherDigits greatestExponent 0 0 exponent.digits.chars
  if gathered.2.2 = [] then
    scaledNumber? isNegative significand
      (if exponent.sign = some .minus then power - gathered.1 else power + gathered.1)
  else if significand ≠ 0 ∧ exponent.sign ≠ some .minus then none
  else some (.double isNegative Binary64.zero)

/-- The number of a significand and a power of ten with an exponent or without. -/
def powerNumber? (isNegative : Bool) (significand : Nat) (power : Int) :
    Option ExponentForm → Option Number
  | none => scaledNumber? isNegative significand power
  | some exponent => exponent.number? isNegative significand power

/-- The number of the gathered digits of a whole part, with what stands behind them. The digits of
the whole part that are not gathered count as a power of ten. -/
def numberBehind? (isNegative : Bool) (significand dropped : Nat) :
    Option Digits → Option ExponentForm → Option Number
  | none, none =>
      match dropped, wholeNumber? isNegative significand with
      | 0, some value => some value
      | _, _ => scaledNumber? isNegative significand dropped
  | none, some exponent => exponent.number? isNegative significand dropped
  | some digits, exponent =>
      let gathered := gatherDigits greatestNatural significand 0 digits.chars
      powerNumber? isNegative gathered.1 (dropped - gathered.2.1) exponent

/-- The value of a number, if it is not out of range. -/
def NumberForm.value? (form : NumberForm) : Option Number :=
  let gathered := gatherDigits greatestNatural 0 0 form.whole.chars
  numberBehind? form.isNegative gathered.1 gathered.2.2.length form.fraction form.exponent

/-! ### Phrases -/

/-- The parse tree of a value. White space behind an opening bracket is `inside` where nothing else
stands between the brackets. -/
inductive Phrase where
  | null
  | bool (value : Bool)
  | number (form : NumberForm)
  | string (form : StringForm)
  | array (inside : Blank) (items : List (Padded Phrase))
  | object (inside : Blank) (members : List (Padded StringForm × Padded Phrase))

namespace Phrase

/-- An induction on phrases has the parts of arrays and objects at hand. -/
@[induction_eliminator]
theorem induction {motive : Phrase → Prop} (null : motive null)
    (bool : ∀ value, motive (bool value)) (number : ∀ form, motive (number form))
    (string : ∀ form, motive (string form))
    (array : ∀ inside items, (∀ item ∈ items, motive item.word) → motive (array inside items))
    (object : ∀ inside members, (∀ member ∈ members, motive member.2.word) →
      motive (object inside members))
    (phrase : Phrase) : motive phrase :=
  @Phrase.rec motive (fun items => ∀ item ∈ items, motive item.word)
    (fun members => ∀ member ∈ members, motive member.2.word) (fun item => motive item.word)
    (fun member => motive member.2.word)
    null bool number string array object
    (List.forall_mem_nil _) (fun _ _ first rest => List.forall_mem_cons.mpr ⟨first, rest⟩)
    (List.forall_mem_nil _) (fun _ _ first rest => List.forall_mem_cons.mpr ⟨first, rest⟩)
    (fun _ _ _ word => word) (fun _ _ value => value) phrase

mutual

/-- What a phrase spells. -/
def text : Phrase → List Char
  | null => ['n', 'u', 'l', 'l']
  | bool true => ['t', 'r', 'u', 'e']
  | bool false => ['f', 'a', 'l', 's', 'e']
  | number form => form.text
  | string form => '"' :: (form.text ++ ['"'])
  | array inside items => '[' :: (inside.chars ++ (commaSeparated (itemTexts items) ++ [']']))
  | object inside members =>
      '\x7b' :: (inside.chars ++ (commaSeparated (memberTexts members) ++ ['\x7d']))

def itemTexts : List (Padded Phrase) → List (List Char)
  | [] => []
  | ⟨before, phrase, after⟩ :: items =>
      (before.chars ++ (phrase.text ++ after.chars)) :: itemTexts items

def memberTexts : List (Padded StringForm × Padded Phrase) → List (List Char)
  | [] => []
  | (⟨before, form, after⟩, ⟨margin, phrase, behind⟩) :: members =>
      (before.chars ++ ('"' :: (form.text ++ ('"' :: (after.chars ++
        (':' :: (margin.chars ++ (phrase.text ++ behind.chars)))))))) :: memberTexts members

end

mutual

/-- The value of a phrase, if it has one with at most so many levels of nesting. -/
def value? : Phrase → (levels : Nat) → Option Value
  | null, _ => some .null
  | bool value, _ => some (.bool value)
  | number form, _ => form.value?.map .number
  | string form, _ => form.value?.map .string
  | array .., 0 => none
  | array _ items, levels + 1 => (itemValues? items levels).map .array
  | object .., 0 => none
  | object _ members, levels + 1 =>
      ((memberValues? members levels).map (List.foldl
        (fun members entry => Table.insertAmong entry.1 entry.2 members) [])).map .object

def itemValues? : List (Padded Phrase) → (levels : Nat) → Option (List Value)
  | [], _ => some []
  | ⟨_, phrase, _⟩ :: items, levels =>
      (phrase.value? levels).bind fun value => (itemValues? items levels).map (value :: ·)

def memberValues? : List (Padded StringForm × Padded Phrase) → (levels : Nat) →
    Option (List (String × Value))
  | [], _ => some []
  | (⟨_, form, _⟩, ⟨_, phrase, _⟩) :: members, levels =>
      (form.value?.bind fun name => (phrase.value? levels).map (name, ·)).bind fun entry =>
        (memberValues? members levels).map (entry :: ·)

end

mutual

/-- The levels of nesting of a phrase. -/
def depth : Phrase → Nat
  | array _ items => itemsDepth items + 1
  | object _ members => membersDepth members + 1
  | _ => 0

def itemsDepth : List (Padded Phrase) → Nat
  | [] => 0
  | ⟨_, phrase, _⟩ :: items => max phrase.depth (itemsDepth items)

def membersDepth : List (Padded StringForm × Padded Phrase) → Nat
  | [] => 0
  | (_, ⟨_, phrase, _⟩) :: members => max phrase.depth (membersDepth members)

end

/-! ### Items and members one by one -/

def itemText (item : Padded Phrase) : List Char :=
  item.before.chars ++ (item.word.text ++ item.after.chars)

def memberText (member : Padded StringForm × Padded Phrase) : List Char :=
  member.1.before.chars ++ ('"' :: (member.1.word.text ++ ('"' :: (member.1.after.chars ++
    (':' :: itemText member.2)))))

/-- The name of a member with what its value comes to. -/
def memberValue? {α : Type} (valueOf? : Phrase → Option α)
    (member : Padded StringForm × Padded Phrase) : Option (String × α) :=
  member.1.word.value?.bind fun name => (valueOf? member.2.word).map (name, ·)

end Phrase

theorem mapM_cons_eq_bind {α β : Type} (f : α → Option β) (x : α) (xs : List α) :
    (x :: xs).mapM f = (f x).bind fun y => (xs.mapM f).map (y :: ·) := by
  rw [List.mapM_cons]
  cases f x with
  | none => rfl
  | some y => cases xs.mapM f <;> rfl

theorem isSome_mapM_iff {α β : Type} {f : α → Option β} {xs : List α} :
    (xs.mapM f).isSome ↔ ∀ x ∈ xs, (f x).isSome := by
  induction xs with
  | nil => simp
  | cons x xs ih =>
      rw [mapM_cons_eq_bind, List.forall_mem_cons, ← ih]
      cases f x <;> simp

namespace Phrase

theorem itemTexts_eq_map (items : List (Padded Phrase)) : itemTexts items = items.map itemText := by
  induction items with
  | nil => rfl
  | cons item items ih => rw [itemTexts, List.map_cons, ih, itemText]

theorem memberTexts_eq_map (members : List (Padded StringForm × Padded Phrase)) :
    memberTexts members = members.map memberText := by
  induction members with
  | nil => rfl
  | cons member members ih => rw [memberTexts, List.map_cons, ih, memberText, itemText]

theorem itemValues?_eq_mapM (items : List (Padded Phrase)) (levels : Nat) :
    itemValues? items levels = items.mapM fun item => item.word.value? levels := by
  induction items with
  | nil => rfl
  | cons item items ih => rw [itemValues?, mapM_cons_eq_bind, ih]

theorem memberValues?_eq_mapM (members : List (Padded StringForm × Padded Phrase))
    (levels : Nat) :
    memberValues? members levels = members.mapM (memberValue? (value? · levels)) := by
  induction members with
  | nil => rfl
  | cons member members ih => rw [memberValues?, mapM_cons_eq_bind, ih, memberValue?]

theorem itemsDepth_le_iff {items : List (Padded Phrase)} {levels : Nat} :
    itemsDepth items ≤ levels ↔ ∀ item ∈ items, item.word.depth ≤ levels := by
  induction items with
  | nil => simp [itemsDepth]
  | cons item items ih => rw [itemsDepth, Nat.max_le, ih, List.forall_mem_cons]

theorem membersDepth_le_iff {members : List (Padded StringForm × Padded Phrase)} {levels : Nat} :
    membersDepth members ≤ levels ↔ ∀ member ∈ members, member.2.word.depth ≤ levels := by
  induction members with
  | nil => simp [membersDepth]
  | cons member members ih =>
      rw [membersDepth, Nat.max_le, ih, List.forall_mem_cons]

/-! ### Which phrases have a value -/

/-- In a phrase every number is in range, and every surrogate has its other half. -/
inductive Expressible : Phrase → Prop
  | null : Expressible null
  | bool (value : Bool) : Expressible (bool value)
  | number (form : NumberForm) (inRange : form.value?.isSome) : Expressible (number form)
  | string (form : StringForm) (paired : form.value?.isSome) : Expressible (string form)
  | array (inside : Blank) (items : List (Padded Phrase))
      (each : ∀ item ∈ items, Expressible item.word) : Expressible (array inside items)
  | object (inside : Blank) (members : List (Padded StringForm × Padded Phrase))
      (names : ∀ member ∈ members, member.1.word.value?.isSome)
      (values : ∀ member ∈ members, Expressible member.2.word) : Expressible (object inside members)

theorem isSome_memberValue?_iff {α : Type} {valueOf? : Phrase → Option α}
    {member : Padded StringForm × Padded Phrase} :
    (memberValue? valueOf? member).isSome ↔
      member.1.word.value?.isSome ∧ (valueOf? member.2.word).isSome := by
  rw [memberValue?]
  cases member.1.word.value? <;> simp

/-- **Which phrases have a value**: those that are not too deep and have no number out of range and
no surrogate without its other half. -/
theorem isSome_value?_iff {phrase : Phrase} {levels : Nat} :
    (phrase.value? levels).isSome ↔ phrase.depth ≤ levels ∧ phrase.Expressible := by
  induction phrase generalizing levels with
  | null => exact iff_of_true rfl ⟨Nat.zero_le _, .null⟩
  | bool value => exact iff_of_true rfl ⟨Nat.zero_le _, .bool value⟩
  | number form =>
      rw [value?, Option.isSome_map]
      constructor
      · exact fun inRange => ⟨Nat.zero_le _, .number form inRange⟩
      · rintro ⟨_, ⟨⟩⟩
        assumption
  | string form =>
      rw [value?, Option.isSome_map]
      constructor
      · exact fun paired => ⟨Nat.zero_le _, .string form paired⟩
      · rintro ⟨_, ⟨⟩⟩
        assumption
  | array inside items ih =>
      cases levels with
      | zero => exact iff_of_false (by simp [value?]) fun both => absurd both.1 (by simp [depth])
      | succ levels =>
          rw [value?, Option.isSome_map, itemValues?_eq_mapM, isSome_mapM_iff, depth,
            Nat.add_le_add_iff_right, itemsDepth_le_iff]
          constructor
          · intro each
            have both := fun item member => (ih item member).mp (each item member)
            exact ⟨fun item member => (both item member).1,
              .array inside items fun item member => (both item member).2⟩
          · rintro ⟨shallow, ⟨⟩⟩ item member
            rename_i each
            exact (ih item member).mpr ⟨shallow item member, each item member⟩
  | object inside members ih =>
      cases levels with
      | zero => exact iff_of_false (by simp [value?]) fun both => absurd both.1 (by simp [depth])
      | succ levels =>
          rw [value?, Option.isSome_map, Option.isSome_map, memberValues?_eq_mapM, isSome_mapM_iff,
            depth, Nat.add_le_add_iff_right, membersDepth_le_iff]
          constructor
          · intro each
            have parts := fun entry member => isSome_memberValue?_iff.mp (each entry member)
            have both := fun entry member => (ih entry member).mp (parts entry member).2
            exact ⟨fun entry member => (both entry member).1,
              .object inside members (fun entry member => (parts entry member).1)
                fun entry member => (both entry member).2⟩
          · rintro ⟨shallow, ⟨⟩⟩ entry member
            rename_i names values
            exact isSome_memberValue?_iff.mpr ⟨names entry member,
              (ih entry member).mpr ⟨shallow entry member, values entry member⟩⟩

end Phrase

/-- A text is spelt by a phrase, with white space on both sides. -/
def Writes (text : String) (phrase : Phrase) : Prop :=
  ∃ before after : Blank, text.toList = before.chars ++ (phrase.text ++ after.chars)

end StyleBaseline.Json
