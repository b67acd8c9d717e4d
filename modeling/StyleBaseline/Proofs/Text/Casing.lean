/-
**Letter case in ASCII.** Lowering a character moves the capitals `A` to `Z` up by 32 code points
and leaves all others.

* `toNat_toLower` — that, on code points.
* `toLower_of_not_isUpper`, `not_isUpper_toLower` — only capitals change, and none is left.
* `toLower_eq_iff` — what is lowered to a small letter is that letter or its capital.
* `eq_or_paired` — two characters that are lowered to the same one.
* `SameButCase` — that two texts differ in letter case only, and what they share.
* `toList_lowercase_of_ascii` — the small form of an ASCII text, character by character.
-/

import StyleBaseline.Text.Lowercase
import StyleBaseline.Text.Offset

namespace StyleBaseline

theorem toNat_toLower (c : Char) :
    c.toLower.toNat = if 65 ≤ c.toNat ∧ c.toNat ≤ 90 then c.toNat + 32 else c.toNat := by
  have capital : ('A'.val ≤ c.val ∧ c.val ≤ 'Z'.val) ↔ 65 ≤ c.toNat ∧ c.toNat ≤ 90 := Iff.rfl
  unfold Char.toLower
  simp only [ge_iff_le, capital]
  split
  · rename_i bounds
    show (c.val + ('a'.val - 'A'.val)).toNat = c.toNat + 32
    have small : c.val.toNat ≤ 90 := bounds.2
    rw [UInt32.toNat_add, show ('a'.val - 'A'.val).toNat = 32 from rfl]
    show (c.val.toNat + 32) % 2 ^ 32 = c.val.toNat + 32
    omega
  · rfl

theorem isUpper_iff {c : Char} : c.isUpper ↔ 65 ≤ c.toNat ∧ c.toNat ≤ 90 :=
  decide_eq_true_iff

theorem toLower_of_not_isUpper {c : Char} (small : ¬ c.isUpper) : c.toLower = c := by
  rw [isUpper_iff] at small
  rw [← Char.toNat_inj, toNat_toLower, if_neg small]

theorem not_isUpper_toLower (c : Char) : ¬ c.toLower.isUpper := by
  rw [isUpper_iff, toNat_toLower]
  split <;> omega

/-- Only a small letter itself and its capital are lowered to it. -/
theorem toLower_eq_iff {c small capital : Char} (isSmall : 97 ≤ small.toNat ∧ small.toNat ≤ 122)
    (paired : capital.toNat + 32 = small.toNat) : c.toLower = small ↔ c = small ∨ c = capital := by
  rw [← Char.toNat_inj, ← Char.toNat_inj, ← Char.toNat_inj, toNat_toLower]
  split <;> omega

/-- Two characters that are lowered to the same one are a small letter and its capital, if they
differ. -/
theorem eq_or_paired {c d : Char} (same : c.toLower = d.toLower) :
    c = d ∨ (97 ≤ c.toNat ∧ c.toNat ≤ 122 ∧ d.toNat + 32 = c.toNat) ∨
      (97 ≤ d.toNat ∧ d.toNat ≤ 122 ∧ c.toNat + 32 = d.toNat) := by
  rw [← Char.toNat_inj, toNat_toLower, toNat_toLower] at same
  rw [← Char.toNat_inj]
  split at same <;> split at same <;> omega

theorem isAlpha_iff {c : Char} :
    c.isAlpha ↔ (65 ≤ c.toNat ∧ c.toNat ≤ 90) ∨ (97 ≤ c.toNat ∧ c.toNat ≤ 122) := by
  show (decide ('A'.val ≤ c.val ∧ c.val ≤ 'Z'.val) ||
    (decide ('a'.val ≤ c.val) && decide (c.val ≤ 'z'.val))) = true ↔ _
  rw [Bool.or_eq_true, Bool.and_eq_true, decide_eq_true_iff, decide_eq_true_iff,
    decide_eq_true_iff]
  exact Iff.rfl

/-- A character that is no letter is no other one in another case. -/
theorem eq_mark_iff {c d mark : Char} (noLetter : ¬ mark.isAlpha) (same : c.toLower = d.toLower) :
    c = mark ↔ d = mark := by
  have paired := eq_or_paired same
  rw [isAlpha_iff] at noLetter
  rw [← Char.toNat_inj] at paired
  rw [← Char.toNat_inj, ← Char.toNat_inj]
  omega

theorem utf8Size_eq_of_sameLetter {c d : Char} (same : c.toLower = d.toLower) :
    c.utf8Size = d.utf8Size := by
  have single {e : Char} (ascii : e.toNat ≤ 127) : e.utf8Size = 1 :=
    Char.utf8Size_eq_one_iff.mpr ascii
  rcases eq_or_paired same with rfl | small | capital
  · rfl
  · rw [single (show c.toNat ≤ 127 by omega), single (show d.toNat ≤ 127 by omega)]
  · rw [single (show c.toNat ≤ 127 by omega), single (show d.toNat ≤ 127 by omega)]

/-! ### Texts that differ in letter case only -/

/-- Two texts are the same but for the case of their letters. -/
def SameButCase (first second : List Char) : Prop :=
  first.map Char.toLower = second.map Char.toLower

instance : DecidableRel SameButCase := fun first second =>
  inferInstanceAs (Decidable (first.map Char.toLower = second.map Char.toLower))

theorem toLower_eq_toLower_iff {first second : String} :
    first.toLower = second.toLower ↔ SameButCase first.toList second.toList := by
  show first.map Char.toLower = second.map Char.toLower ↔ _
  rw [← String.toList_inj, String.toList_map, String.toList_map]
  exact Iff.rfl

namespace SameButCase

variable {first second : List Char}

theorem symm (same : SameButCase first second) : SameButCase second first :=
  Eq.symm same

theorem append {rest otherRest : List Char} (same : SameButCase first second)
    (sameRest : SameButCase rest otherRest) :
    SameButCase (first ++ rest) (second ++ otherRest) := by
  rw [SameButCase, List.map_append, List.map_append, same, sameRest]

/-- They are cut alike. -/
theorem append_split {front rest : List Char} (same : SameButCase (front ++ rest) second) :
    ∃ otherFront otherRest, second = otherFront ++ otherRest ∧
      SameButCase front otherFront ∧ SameButCase rest otherRest := by
  rw [SameButCase, List.map_append] at same
  obtain ⟨otherFront, otherRest, split, isFront, isRest⟩ := List.map_eq_append_iff.mp same.symm
  exact ⟨otherFront, otherRest, split, isFront.symm, isRest.symm⟩

theorem cons_split {c : Char} {rest : List Char} (same : SameButCase (c :: rest) second) :
    ∃ d otherRest, second = d :: otherRest ∧ c.toLower = d.toLower ∧
      SameButCase rest otherRest := by
  rw [SameButCase, List.map_cons] at same
  obtain ⟨d, otherRest, split, isFirst, isRest⟩ := List.map_eq_cons_iff.mp same.symm
  exact ⟨d, otherRest, split, isFirst.symm, isRest.symm⟩

theorem eq_nil (same : SameButCase [] second) : second = [] :=
  List.map_eq_nil_iff.mp (Eq.symm same)

theorem reverse (same : SameButCase first second) :
    SameButCase first.reverse second.reverse := by
  rw [SameButCase, List.map_reverse, List.map_reverse, same]

/-- A mark that is no letter stands in both as often. -/
theorem count_eq {mark : Char} (noLetter : ¬ mark.isAlpha) (same : SameButCase first second) :
    first.count mark = second.count mark := by
  induction first generalizing second with
  | nil => rw [same.eq_nil]
  | cons c first ih =>
      obtain ⟨d, rest, rfl, letter, sameRest⟩ := same.cons_split
      have alike : (c == mark) = (d == mark) := by
        rw [Bool.eq_iff_iff, beq_iff_eq, beq_iff_eq, eq_mark_iff noLetter letter]
      rw [List.count_cons, List.count_cons, ih sameRest, alike]

theorem takeWhile_ne {mark : Char} (noLetter : ¬ mark.isAlpha) (same : SameButCase first second) :
    SameButCase (first.takeWhile (· ≠ mark)) (second.takeWhile (· ≠ mark)) := by
  induction first generalizing second with
  | nil =>
      rw [same.eq_nil]
      exact rfl
  | cons c first ih =>
      obtain ⟨d, rest, rfl, letter, sameRest⟩ := same.cons_split
      by_cases isMark : c = mark
      · have isMarkToo : d = mark := (eq_mark_iff noLetter letter).mp isMark
        simp [isMark, isMarkToo, SameButCase]
      · have notMark : d ≠ mark := fun isMarkToo =>
          isMark ((eq_mark_iff noLetter letter).mpr isMarkToo)
        simp only [List.takeWhile_cons, decide_eq_true isMark, decide_eq_true notMark, ↓reduceIte]
        rw [SameButCase, List.map_cons, List.map_cons, letter, ih sameRest]

theorem length_eq (same : SameButCase first second) : first.length = second.length := by
  rw [← List.length_map (f := Char.toLower), same, List.length_map]

/-- What holds of all characters in any case holds of those of the other text. -/
theorem forall_mem {holds : Char → Prop} (same : SameButCase first second)
    (blind : ∀ ⦃c d : Char⦄, c.toLower = d.toLower → holds c → holds d)
    (all : ∀ c ∈ first, holds c) : ∀ d ∈ second, holds d := by
  induction first generalizing second with
  | nil =>
      rw [same.eq_nil]
      exact fun _ member => absurd member List.not_mem_nil
  | cons c first ih =>
      obtain ⟨here, others⟩ := List.forall_mem_cons.mp all
      obtain ⟨d, rest, rfl, letter, sameRest⟩ := same.cons_split
      exact List.forall_mem_cons.mpr ⟨blind letter here, ih sameRest others⟩

/-- A text without letters is written in one way only. -/
theorem eq_of_noLetters (same : SameButCase first second)
    (noLetters : ∀ c ∈ first, ¬ c.isAlpha) : second = first := by
  induction first generalizing second with
  | nil => exact same.eq_nil
  | cons c first ih =>
      obtain ⟨here, others⟩ := List.forall_mem_cons.mp noLetters
      obtain ⟨d, rest, rfl, letter, sameRest⟩ := same.cons_split
      rw [(eq_mark_iff here letter).mp rfl, ih sameRest others]

/-- They take the same bytes. -/
theorem byteLength_eq (same : SameButCase first second) : byteLength first = byteLength second := by
  induction first generalizing second with
  | nil => rw [same.eq_nil]
  | cons c first ih =>
      obtain ⟨d, rest, rfl, letter, sameRest⟩ := same.cons_split
      rw [byteLength, byteLength, utf8Size_eq_of_sameLetter letter, ih sameRest]

end SameButCase

theorem toList_lowercase_of_ascii {text : String} (ascii : ∀ c ∈ text.toList, c.toNat < 128) :
    (lowercase text).toList = text.toList.map Char.toLower := by
  rw [lowercase_eq_map_toLower ascii, String.toList_ofList]

end StyleBaseline
