/-
**Stretches of a text.** Places in a text are byte offsets. Those that stand behind some of its
characters are the boundaries; every other offset lies inside a character or past the end. Between
two boundaries stands a stretch of the text.

* `isValid_iff_split` — the boundaries of a text.
* `append_inj_of_byteLength` — a text is taken apart in one way at each of them.
* `textIn_of_split` — the stretch that a span takes.
* `boundary_or_between` — an offset that is no boundary.
-/

import Mathlib.Data.String.Basic
import StyleBaseline.Stylesheet.Token

namespace StyleBaseline

/-! ### Bytes of a text -/

theorem byteLength_eq_utf8Len (cs : List Char) : byteLength cs = String.utf8Len cs := by
  induction cs with
  | nil => rfl
  | cons c cs ih => rw [byteLength, ih, String.utf8Len_cons, Nat.add_comm]

theorem byteLength_pos {cs : List Char} (nonempty : cs ≠ []) : 0 < byteLength cs := by
  cases cs with
  | nil => exact absurd rfl nonempty
  | cons c cs => exact Nat.add_pos_left c.utf8Size_pos _

theorem length_le_byteLength (cs : List Char) : cs.length ≤ byteLength cs := by
  induction cs with
  | nil => exact Nat.le_refl 0
  | cons c cs ih =>
      have size : 0 < c.utf8Size := c.utf8Size_pos
      rw [List.length_cons, byteLength]
      omega

theorem utf8ByteSize_eq_byteLength (text : String) :
    text.utf8ByteSize = byteLength text.toList := by
  rw [byteLength_eq_utf8Len, ← String.utf8ByteSize_ofList, String.ofList_toList]

theorem byteLength_le_of_split {text : String} {before after : List Char}
    (split : text.toList = before ++ after) : byteLength before ≤ text.utf8ByteSize := by
  rw [utf8ByteSize_eq_byteLength, split, byteLength_append]
  exact Nat.le_add_right _ _

/-! ### Boundaries -/

/-- **A boundary** is a place behind some of the characters of a text. -/
theorem isValid_iff_split {text : String} {offset : Nat} :
    (⟨offset⟩ : String.Pos.Raw).IsValid text ↔
      ∃ before after, text.toList = before ++ after ∧ byteLength before = offset := by
  rw [String.Pos.Raw.isValid_iff_exists_append]
  constructor
  · intro ⟨front, rest, whole, place⟩
    refine ⟨front.toList, rest.toList, ?_, ?_⟩
    · rw [whole, String.toList_append]
    · rw [← utf8ByteSize_eq_byteLength]
      exact (congrArg String.Pos.Raw.byteIdx place).symm
  · intro ⟨before, after, split, place⟩
    refine ⟨String.ofList before, String.ofList after, ?_, ?_⟩
    · rw [← String.ofList_append, ← split, String.ofList_toList]
    · rw [String.rawEndPos_ofList, ← byteLength_eq_utf8Len, place]

/-- A place behind some characters is a boundary. -/
theorem isValid_of_split {source : String} {before after : List Char}
    (split : source.toList = before ++ after) :
    (⟨byteLength before⟩ : String.Pos.Raw).IsValid source :=
  isValid_iff_split.mpr ⟨before, after, split, rfl⟩

/-- **At a boundary a text is taken apart in one way.** -/
theorem append_inj_of_byteLength {front rest other more : List Char}
    (same : front ++ rest = other ++ more) (place : byteLength front = byteLength other) :
    front = other ∧ rest = more := by
  induction front generalizing other with
  | nil =>
      cases other with
      | nil => exact ⟨rfl, same⟩
      | cons d other => exact absurd place (Nat.ne_of_lt (byteLength_pos (List.cons_ne_nil d other)))
  | cons c front ih =>
      cases other with
      | nil => exact absurd place.symm (Nat.ne_of_lt (byteLength_pos (List.cons_ne_nil c front)))
      | cons d other =>
          obtain ⟨rfl, behind⟩ := List.cons.inj same
          obtain ⟨rfl, sameRest⟩ := ih behind (Nat.add_left_cancel place)
          exact ⟨rfl, sameRest⟩

/-- The span of a stretch of a text takes that stretch. -/
theorem textIn_of_split {source : String} {before word after : List Char}
    (split : source.toList = before ++ (word ++ after)) :
    (⟨byteLength before, byteLength before + byteLength word⟩ : Span).textIn source =
      String.ofList word := by
  have whole : source = String.ofList (before ++ word ++ after) := by
    rw [List.append_assoc, ← split, String.ofList_toList]
  rw [whole, Span.textIn, byteLength_eq_utf8Len, byteLength_eq_utf8Len]
  exact String.extract_of_valid before word after

/-! ### Offsets that are no boundaries -/

/-- **An offset inside a character** is behind its first byte and before its end. -/
def InsideCharacter (cs : List Char) (offset : Nat) : Prop :=
  ∃ before c after, cs = before ++ c :: after ∧
    byteLength before < offset ∧ offset < byteLength before + c.utf8Size

theorem boundary_or_between (cs : List Char) (offset : Nat) :
    (∃ before after, cs = before ++ after ∧ byteLength before = offset) ∨
      byteLength cs < offset ∨ InsideCharacter cs offset := by
  induction cs generalizing offset with
  | nil =>
      cases offset with
      | zero => exact Or.inl ⟨[], [], rfl, rfl⟩
      | succ offset => exact Or.inr (Or.inl (Nat.succ_pos offset))
  | cons c cs ih =>
      by_cases isStart : offset = 0
      · exact Or.inl ⟨[], c :: cs, rfl, isStart.symm⟩
      by_cases inside : offset < c.utf8Size
      · refine Or.inr (Or.inr ⟨[], c, cs, rfl, Nat.pos_of_ne_zero isStart, ?_⟩)
        rwa [byteLength, Nat.zero_add]
      -- the offset counts from behind the first character in what remains
      obtain ⟨further, rfl⟩ := Nat.exists_eq_add_of_le (Nat.le_of_not_lt inside)
      rcases ih further with ⟨before, after, rfl, place⟩ | past | ⟨before, d, after, rfl, low, high⟩
      · exact Or.inl ⟨c :: before, after, rfl, by rw [byteLength, place]⟩
      · exact Or.inr (Or.inl (Nat.add_lt_add_left past _))
      · refine Or.inr (Or.inr ⟨c :: before, d, after, rfl, ?_, ?_⟩)
        · exact Nat.add_lt_add_left low _
        · rw [byteLength, Nat.add_assoc]
          exact Nat.add_lt_add_left high _

/-- **An offset is no boundary** if and only if it lies past the end or inside a character. -/
theorem not_isValid_iff {text : String} {offset : Nat} :
    ¬ (⟨offset⟩ : String.Pos.Raw).IsValid text ↔
      text.utf8ByteSize < offset ∨ InsideCharacter text.toList offset := by
  rw [isValid_iff_split]
  constructor
  · intro noBoundary
    rw [utf8ByteSize_eq_byteLength]
    exact (boundary_or_between text.toList offset).resolve_left noBoundary
  · intro between ⟨before, after, split, place⟩
    rcases between with past | ⟨front, c, rest, otherSplit, low, high⟩
    · exact absurd (byteLength_le_of_split split) (Nat.not_le_of_lt (place ▸ past))
    · -- of the two fronts the longer one takes the character whole
      rw [split] at otherSplit
      rcases List.append_eq_append_iff.mp otherSplit with ⟨gap, rfl, _⟩ | ⟨gap, rfl, behind⟩
      · rw [byteLength_append] at low
        omega
      · cases gap with
        | nil =>
            rw [List.append_nil] at place
            omega
        | cons d gap =>
            obtain ⟨rfl, _⟩ := List.cons.inj behind
            rw [byteLength_append, byteLength] at place
            omega

end StyleBaseline
