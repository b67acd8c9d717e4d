/-
**What a reader comes to.** A reader of a part of a text gives the value that the part has and
stands behind it, or stops if the part has none. What it makes of a part depends on that part alone,
so long as the text does not go on within it.

* `Gives` — a reader gives the value there is, or stops if there is none.
* `Passes` — a reader that gives no value comes to the place behind.
* `Boundary` — what may follow a value.
-/

import StyleBaseline.Proofs.Json.Grammar

namespace StyleBaseline.Json

/-! ### Outcomes -/

/-- A reader that is at `rest` afterwards gives the value that is expected; where none is, it
stops. -/
inductive Gives {α : Type} (rest : List Char) (rounds : Nat) :
    Except Stop (α × Cursor) → Option α → Prop
  | value (value : α) (offset : Nat) :
      Gives rest rounds (.ok (value, ⟨rest, offset, rounds⟩)) (some value)
  | failure (stop : Stop) : Gives rest rounds (.error stop) none

/-- A reader without a value comes to `rest`. -/
def Passes (rest : List Char) (rounds : Nat) (result : Except Stop Cursor) : Prop :=
  ∃ offset, result = .ok ⟨rest, offset, rounds⟩

section Outcomes

variable {α β : Type} {rest behind : List Char} {rounds : Nat}

theorem Gives.bind {result : Except Stop (α × Cursor)} {expected : Option α}
    {next : α × Cursor → Except Stop (β × Cursor)} {continued : α → Option β}
    (first : Gives rest rounds result expected)
    (second : ∀ value offset, expected = some value →
      Gives behind rounds (next (value, ⟨rest, offset, rounds⟩)) (continued value)) :
    Gives behind rounds (result >>= next) (expected.bind continued) := by
  cases first with
  | value value offset => exact second value offset rfl
  | failure stop => exact .failure stop

theorem Gives.map {result : Except Stop (α × Cursor)} {expected : Option α}
    {next : α × Cursor → Except Stop (β × Cursor)} {change : α → β}
    (first : Gives rest rounds result expected)
    (second : ∀ value cursor, next (value, cursor) = .ok (change value, cursor)) :
    Gives rest rounds (result >>= next) (expected.map change) := by
  cases first with
  | value value offset =>
      show Gives rest rounds (next (value, _)) _
      rw [second]
      exact .value _ offset
  | failure stop => exact .failure stop

theorem Passes.bind {result : Except Stop Cursor} {next : Cursor → Except Stop (β × Cursor)}
    {expected : Option β} (first : Passes rest rounds result)
    (second : ∀ offset, Gives behind rounds (next ⟨rest, offset, rounds⟩) expected) :
    Gives behind rounds (result >>= next) expected := by
  obtain ⟨offset, rfl⟩ := first
  exact second offset

theorem Passes.trans {result : Except Stop Cursor} {next : Cursor → Except Stop Cursor}
    (first : Passes rest rounds result)
    (second : ∀ offset, Passes behind rounds (next ⟨rest, offset, rounds⟩)) :
    Passes behind rounds (result >>= next) := by
  obtain ⟨offset, rfl⟩ := first
  exact second offset

end Outcomes

/-! ### What may follow a value -/

/-- The end, white space, a comma or a closing bracket. -/
def Boundary (rest : List Char) : Prop :=
  ∀ c ∈ rest.head?, c ∈ [' ', '\t', '\n', '\r', ',', ']', '\x7d']

theorem boundary_nil : Boundary [] :=
  fun _ member => nomatch member

theorem boundary_cons {c : Char} (ends : c ∈ [',', ']', '\x7d']) (rest : List Char) :
    Boundary (c :: rest) := by
  rintro _ ⟨⟩
  exact List.mem_append_right [' ', '\t', '\n', '\r'] ends

theorem Blank.boundary (blank : Blank) {rest : List Char} (boundary : Boundary rest) :
    Boundary (blank.chars ++ rest) := by
  obtain ⟨chars, padding⟩ := blank
  cases chars with
  | nil => exact boundary
  | cons c chars =>
      rintro _ ⟨⟩
      have among : c ∈ [' ', '\t', '\n', '\r'] := by
        simpa [isPadding, or_assoc] using padding c List.mem_cons_self
      exact List.mem_append_left [',', ']', '\x7d'] among

namespace Boundary

variable {rest : List Char} (boundary : Boundary rest)
include boundary

theorem avoids {test : Char → Bool}
    (apart : [' ', '\t', '\n', '\r', ',', ']', '\x7d'].all fun c => !test c) :
    ∀ c ∈ rest.head?, test c = false := by
  intro c member
  have other := List.all_eq_true.mp apart c (boundary c member)
  rwa [Bool.not_eq_true'] at other

theorem ne_cons {c : Char} (other : c ∉ [' ', '\t', '\n', '\r', ',', ']', '\x7d'])
    (cs : List Char) : rest ≠ c :: cs := by
  rintro rfl
  exact other (boundary c rfl)

end Boundary

/-! ### Moving a cursor -/

namespace Cursor

variable {rest : List Char} {offset rounds : Nat}

@[simp]
theorem skip_append (word rest : List Char) (offset rounds : Nat) :
    (⟨word ++ rest, offset, rounds⟩ : Cursor).skip word.length =
      ⟨rest, offset + byteLength word, rounds⟩ := by
  simp only [skip, List.drop_left, List.take_left]

@[simp]
theorem skip_one (c : Char) (rest : List Char) (offset rounds : Nat) :
    (⟨c :: rest, offset, rounds⟩ : Cursor).skip 1 = ⟨rest, offset + byteLength [c], rounds⟩ :=
  rfl

end Cursor

/-- A run of characters of one class ends where the class does. -/
theorem takeWhile_run {test : Char → Bool} {word rest : List Char} (within : ∀ c ∈ word, test c)
    (ends : ∀ c ∈ rest.head?, test c = false) : (word ++ rest).takeWhile test = word := by
  rw [List.takeWhile_append_of_pos within]
  cases rest with
  | nil => rw [List.takeWhile_nil, List.append_nil]
  | cons c rest =>
      rw [List.takeWhile_cons_of_neg (Bool.eq_false_iff.mp (ends c rfl)), List.append_nil]

namespace Cursor

/-- White space is skipped up to something else. -/
theorem skipPadding_blank (blank : Blank) {rest : List Char}
    (ends : ∀ c ∈ rest.head?, isPadding c = false) (offset rounds : Nat) :
    (⟨blank.chars ++ rest, offset, rounds⟩ : Cursor).skipPadding =
      ⟨rest, offset + byteLength blank.chars, rounds⟩ := by
  simp [skipPadding, takeWhile_run blank.padding ends]

theorem skipPadding_cons (blank : Blank) {c : Char} (visible : isPadding c = false)
    (rest : List Char) (offset rounds : Nat) :
    (⟨blank.chars ++ c :: rest, offset, rounds⟩ : Cursor).skipPadding =
      ⟨c :: rest, offset + byteLength blank.chars, rounds⟩ := by
  refine skipPadding_blank blank ?_ offset rounds
  rintro _ ⟨⟩
  exact visible

theorem skipDigits_run {digits rest : List Char} (areDigits : ∀ c ∈ digits, c.isDigit)
    (ends : ∀ c ∈ rest.head?, c.isDigit = false) (offset rounds : Nat) :
    (⟨digits ++ rest, offset, rounds⟩ : Cursor).skipDigits =
      ⟨rest, offset + byteLength digits, rounds⟩ := by
  simp [skipDigits, takeWhile_run areDigits ends]

theorem readLiteral_passes (letters rest : List Char) (offset rounds : Nat) :
    Passes rest rounds
      ((⟨letters ++ rest, offset, rounds⟩ : Cursor).readLiteral letters) := by
  induction letters generalizing offset with
  | nil => exact ⟨offset, rfl⟩
  | cons letter letters ih =>
      simp only [List.cons_append, readLiteral, if_true]
      exact ih _

end Cursor

end StyleBaseline.Json
