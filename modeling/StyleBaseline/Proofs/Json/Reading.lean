/-
**Reading values of JSON.** The reader of any value gives what the phrase that is spelt comes to,
and stops if that has no value. Arrays and objects are read part by part; what is shown of them
holds for any reader of the parts.

* `readList_gives` — arrays, from what their items give.
* `readMembers_gives` — objects, from what happens at each member.
* `readMap_gives` — objects of which each member has a value.
* `readValue_gives` — values, by induction on the levels of nesting.
* `Value.ofText_toOption` — whole texts.
-/

import StyleBaseline.Proofs.Json.Strings
import StyleBaseline.Proofs.Json.Numbers

namespace StyleBaseline.Json

/-! ### How phrases begin -/

theorem ne_of_isDigit {c d : Char} (isDigit : c.isDigit) (other : d.isDigit = false) : c ≠ d := by
  rintro rfl
  exact absurd isDigit (Bool.eq_false_iff.mp other)

theorem NumberForm.text_eq_cons (form : NumberForm) :
    ∃ c cs, form.text = c :: cs ∧ (c = '-' ∨ c.isDigit) ∧
      ∀ d, d ≠ '-' → d.isDigit = false → c ≠ d := by
  obtain ⟨isNegative, ⟨digits, nonempty, areDigits⟩, leading, fraction, exponent⟩ := form
  obtain ⟨c, others, rfl⟩ := List.exists_cons_of_ne_nil nonempty
  have isDigit : c.isDigit := areDigits c List.mem_cons_self
  cases isNegative with
  | true => exact ⟨'-', _, rfl, Or.inl rfl, fun d notSign _ => notSign.symm⟩
  | false => exact ⟨c, _, rfl, Or.inr isDigit, fun d _ other => ne_of_isDigit isDigit other⟩

/-- A value begins neither with white space nor with a closing bracket, and only one with parts
begins with an opening bracket. -/
theorem Phrase.text_eq_cons (phrase : Phrase) :
    ∃ c cs, phrase.text = c :: cs ∧ isPadding c = false ∧ c ≠ ']' ∧ c ≠ '\x7d' ∧
      (phrase.depth = 0 → c ≠ '[' ∧ c ≠ '\x7b') := by
  cases phrase with
  | null => exact ⟨_, _, rfl, by decide⟩
  | bool value => cases value <;> exact ⟨_, _, rfl, by decide⟩
  | string form => exact ⟨_, _, rfl, by decide, by decide, by decide, fun _ => by decide⟩
  | array inside items =>
      exact ⟨_, _, rfl, by decide, by decide, by decide, fun flat => nomatch flat⟩
  | object inside members =>
      exact ⟨_, _, rfl, by decide, by decide, by decide, fun flat => nomatch flat⟩
  | number form =>
      obtain ⟨c, cs, split, _, apart⟩ := form.text_eq_cons
      refine ⟨c, cs, split, ?_, apart _ (by decide) rfl, apart _ (by decide) rfl,
        fun _ => ⟨apart _ (by decide) rfl, apart _ (by decide) rfl⟩⟩
      simp [isPadding, apart ' ' (by decide) rfl, apart '\t' (by decide) rfl,
        apart '\n' (by decide) rfl, apart '\r' (by decide) rfl]

theorem Phrase.visible (phrase : Phrase) (rest : List Char) :
    ∀ c ∈ (phrase.text ++ rest).head?, isPadding c = false := by
  obtain ⟨c, cs, split, visible, _⟩ := phrase.text_eq_cons
  rw [split]
  rintro _ ⟨⟩
  exact visible

theorem Phrase.string_text_append (form : StringForm) (rest : List Char) :
    (Phrase.string form).text ++ rest = '"' :: (form.text ++ '"' :: rest) := by
  simp [text]

theorem Phrase.array_text_append (inside : Blank) (items : List (Padded Phrase))
    (rest : List Char) :
    (Phrase.array inside items).text ++ rest =
      '[' :: (inside.chars ++ (commaSeparated (itemTexts items) ++ ']' :: rest)) := by
  simp [text]

theorem Phrase.object_text_append (inside : Blank)
    (members : List (Padded StringForm × Padded Phrase)) (rest : List Char) :
    (Phrase.object inside members).text ++ rest =
      '\x7b' :: (inside.chars ++ (commaSeparated (memberTexts members) ++ '\x7d' :: rest)) := by
  simp [text]

/-! ### Parts with commas between them -/

/-- The parts of an array or an object from one of them on: a comma stands before each but the
first. -/
def partsText (isFirst : Bool) : List (List Char) → List Char
  | [] => []
  | part :: parts => (if isFirst then [] else [',']) ++ (part ++ partsText false parts)

theorem commaSeparated_eq_partsText (parts : List (List Char)) :
    commaSeparated parts = partsText true parts := by
  induction parts with
  | nil => rfl
  | cons part parts ih =>
      cases parts with
      | nil => exact (List.append_nil part).symm
      | cons next parts =>
          show part ++ ',' :: commaSeparated (next :: parts) = _
          rw [ih]
          rfl

theorem boundary_partsText (parts : List (List Char)) {c : Char} (ends : c ∈ [',', ']', '\x7d'])
    (rest : List Char) : Boundary (partsText false parts ++ c :: rest) := by
  cases parts with
  | nil => exact boundary_cons ends rest
  | cons part parts => exact boundary_cons List.mem_cons_self _

def Blank.append (first second : Blank) : Blank where
  chars := first.chars ++ second.chars
  padding := List.forall_mem_append.mpr ⟨first.padding, second.padding⟩

namespace Cursor

variable {rounds : Nat}

/-! ### Arrays -/

theorem nextItem_close (blank : Blank) (rest : List Char) (isFirst : Bool) (offset : Nat) :
    (⟨blank.chars ++ ']' :: rest, offset, rounds⟩ : Cursor).nextItem isFirst = .ok none := by
  simp only [nextItem, @skipPadding_cons blank ']' rfl]

/-- The next item begins behind the comma before it, if there is one, and the white space. -/
theorem nextItem_item (blank before : Blank) {c : Char} (visible : isPadding c = false)
    (notClosing : c ≠ ']') (cs : List Char) (isFirst : Bool) (offset : Nat) :
    ∃ further,
      (⟨blank.chars ++ ((if isFirst then [] else [',']) ++ (before.chars ++ c :: cs)), offset,
        rounds⟩ : Cursor).nextItem isFirst = .ok (some ⟨c :: cs, further, rounds⟩) := by
  cases isFirst with
  | true =>
      have skipped := skipPadding_cons (blank.append before) visible cs offset rounds
      rw [Blank.append, List.append_assoc] at skipped
      simp only [nextItem, if_true, List.nil_append, skipped]
      exact ⟨_, rfl⟩
  | false =>
      have notEnd : ',' ≠ ']' := by decide
      simp only [nextItem, Bool.false_eq_true, if_false, List.cons_append, List.nil_append,
        @skipPadding_cons blank ',' rfl, if_true, skip_one, skipPadding_cons before visible]
      split
      · rename_i here
        exact nomatch here
      · rename_i here
        exact absurd (List.cons.inj here).1 notClosing
      · exact ⟨_, rfl⟩

theorem closeList_passes (blank : Blank) (rest : List Char) (offset : Nat) :
    Passes rest rounds (⟨blank.chars ++ ']' :: rest, offset, rounds⟩ : Cursor).closeList := by
  simp only [closeList, @skipPadding_cons blank ']' rfl, skip_one]
  exact ⟨_, rfl⟩

section Lists

variable {α : Type} {readItem : Cursor → Except Stop (α × Cursor)} (valueOf? : Phrase → Option α)
  {items : List (Padded Phrase)}

/-- The items that are still to come, each read as it is wherever it stands. -/
theorem readItems_gives
    (each : ∀ item ∈ items, ∀ rest offset, Boundary rest →
      (item.word.text ++ rest).length < rounds →
      Gives rest rounds (readItem ⟨item.word.text ++ rest, offset, rounds⟩) (valueOf? item.word))
    (isFirst : Bool) {fuel : Nat} (enough : items.length < fuel) (blank : Blank) (rest : List Char)
    (short : (partsText isFirst (items.map Phrase.itemText) ++ ']' :: rest).length < rounds) :
    ∃ last : Blank, ∀ offset, Gives (last.chars ++ ']' :: rest) rounds
      (readItems readItem fuel isFirst
        ⟨blank.chars ++ (partsText isFirst (items.map Phrase.itemText) ++ ']' :: rest), offset,
          rounds⟩)
      (items.mapM fun item => valueOf? item.word) := by
  obtain ⟨fuel, rfl⟩ : ∃ more, fuel = more + 1 := ⟨fuel - 1, by omega⟩
  induction items generalizing isFirst fuel blank with
  | nil =>
      refine ⟨blank, fun offset => ?_⟩
      rw [readItems, List.map_nil, partsText, List.nil_append, nextItem_close]
      exact .value _ _
  | cons item items ih =>
      obtain ⟨first, others⟩ := List.forall_mem_cons.mp each
      rw [List.length_cons] at enough
      obtain ⟨fuel, rfl⟩ : ∃ more, fuel = more + 1 := ⟨fuel - 1, by omega⟩
      have behind :
          (partsText false (items.map Phrase.itemText) ++ ']' :: rest).length < rounds := by
        simp only [List.map_cons, partsText, List.length_append] at short ⊢
        omega
      obtain ⟨last, tail⟩ := ih others false item.after behind fuel (by omega)
      refine ⟨last, fun offset => ?_⟩
      obtain ⟨c, cs, split, visible, notClosing, _⟩ := item.word.text_eq_cons
      obtain ⟨further, next⟩ := @nextItem_item rounds blank item.before c visible notClosing
        (cs ++ (item.after.chars ++ (partsText false (items.map Phrase.itemText) ++ ']' :: rest)))
        isFirst offset
      have here := first (item.after.chars ++
          (partsText false (items.map Phrase.itemText) ++ ']' :: rest)) further
        (item.after.boundary (boundary_partsText _ (by decide) rest)) (by
          simp only [List.map_cons, partsText, Phrase.itemText, List.length_append] at short ⊢
          omega)
      rw [← List.cons_append, ← split] at next
      rw [mapM_cons_eq_bind, readItems, List.map_cons, partsText, Phrase.itemText]
      simp only [List.append_assoc, next]
      exact here.bind fun value offset _ => (tail offset).map fun _ _ => rfl

theorem length_le_length_partsText (isFirst : Bool) (items : List (Padded Phrase)) :
    items.length ≤ (partsText isFirst (items.map Phrase.itemText)).length := by
  induction items generalizing isFirst with
  | nil => exact Nat.le_refl _
  | cons item items ih =>
      obtain ⟨c, cs, split, _⟩ := item.word.text_eq_cons
      have others := ih false
      simp only [List.map_cons, partsText, Phrase.itemText, split, List.length_append,
        List.length_cons]
      omega

/-- **Arrays**: the values of the items, if each of them has one. -/
theorem readList_gives (inside : Blank)
    (each : ∀ item ∈ items, ∀ rest offset, Boundary rest →
      (item.word.text ++ rest).length < rounds →
      Gives rest rounds (readItem ⟨item.word.text ++ rest, offset, rounds⟩) (valueOf? item.word))
    (rest : List Char)
    (short : (commaSeparated (Phrase.itemTexts items) ++ ']' :: rest).length < rounds)
    (offset : Nat) :
    Gives rest rounds
      (readList readItem
        ⟨inside.chars ++ (commaSeparated (Phrase.itemTexts items) ++ ']' :: rest), offset, rounds⟩)
      (items.mapM fun item => valueOf? item.word) := by
  rw [Phrase.itemTexts_eq_map, commaSeparated_eq_partsText] at short ⊢
  have fuel : items.length < rounds := by
    have count := length_le_length_partsText true items
    rw [List.length_append] at short
    omega
  obtain ⟨last, read⟩ := readItems_gives valueOf? each true fuel inside rest short
  have closed (values : List α) (offset : Nat) : Gives rest rounds
      (do
        let behind ← closeList ⟨last.chars ++ ']' :: rest, offset, rounds⟩
        .ok (values, behind))
      (some values) :=
    (closeList_passes last rest offset).bind fun further => .value _ _
  rw [← Option.bind_fun_some (List.mapM _ _)]
  exact (read offset).bind fun values offset _ => closed values offset

end Lists

/-! ### Objects -/

theorem nextMember_close (blank : Blank) (rest : List Char) (isFirst : Bool) (offset : Nat) :
    (⟨blank.chars ++ '\x7d' :: rest, offset, rounds⟩ : Cursor).nextMember isFirst = .ok none := by
  simp only [nextMember, @skipPadding_cons blank '\x7d' rfl]

theorem nextMember_member (blank before : Blank) (cs : List Char) (isFirst : Bool) (offset : Nat) :
    ∃ further,
      (⟨blank.chars ++ ((if isFirst then [] else [',']) ++ (before.chars ++ '"' :: cs)), offset,
        rounds⟩ : Cursor).nextMember isFirst = .ok (some ⟨cs, further, rounds⟩) := by
  cases isFirst with
  | true =>
      have skipped := @skipPadding_cons (blank.append before) '"' rfl cs offset rounds
      rw [Blank.append, List.append_assoc] at skipped
      have notEnd : '"' ≠ '\x7d' := by decide
      simp only [nextMember, if_true, List.nil_append, skipped, skip_one]
      exact ⟨_, rfl⟩
  | false =>
      have notEnd : ',' ≠ '\x7d' := by decide
      simp only [nextMember, Bool.false_eq_true, if_false, List.cons_append, List.nil_append,
        @skipPadding_cons blank ',' rfl, if_true, skip_one, @skipPadding_cons before '"' rfl]
      exact ⟨_, rfl⟩

theorem readColon_passes (blank : Blank) (rest : List Char) (offset : Nat) :
    Passes rest rounds (⟨blank.chars ++ ':' :: rest, offset, rounds⟩ : Cursor).readColon := by
  simp only [readColon, @skipPadding_cons blank ':' rfl, skip_one]
  exact ⟨_, rfl⟩

theorem closeObject_passes (blank : Blank) (rest : List Char) (offset : Nat) :
    Passes rest rounds
      (⟨blank.chars ++ '\x7d' :: rest, offset, rounds⟩ : Cursor).closeObject := by
  simp only [closeObject, @skipPadding_cons blank '\x7d' rfl, skip_one]
  exact ⟨_, rfl⟩

section Members

variable {σ : Type} {readMember : σ → String → Cursor → Except Stop (σ × Cursor)}
  (step? : σ → String → Phrase → Option σ) {members : List (Padded StringForm × Padded Phrase)}

/-- **Objects**, member by member: each name that is written is handed to the reader of members,
and the run stops where that does or a name has no value. -/
theorem readMembers_gives
    (each : ∀ member ∈ members, ∀ state name rest offset, Boundary rest →
      (member.2.word.text ++ rest).length < rounds →
      Gives rest rounds
        (readMember state name
          ⟨member.1.after.chars ++ ':' :: (member.2.before.chars ++ (member.2.word.text ++ rest)),
            offset, rounds⟩)
        (step? state name member.2.word))
    (isFirst : Bool) {fuel : Nat} (enough : members.length < fuel) (blank : Blank)
    (rest : List Char)
    (short :
      (partsText isFirst (members.map Phrase.memberText) ++ '\x7d' :: rest).length < rounds) :
    ∃ last : Blank, ∀ state offset, Gives (last.chars ++ '\x7d' :: rest) rounds
      (readMembers readMember fuel isFirst state
        ⟨blank.chars ++ (partsText isFirst (members.map Phrase.memberText) ++ '\x7d' :: rest),
          offset, rounds⟩)
      (members.foldlM (fun state member =>
        member.1.word.value?.bind fun name => step? state name member.2.word) state) := by
  obtain ⟨fuel, rfl⟩ : ∃ more, fuel = more + 1 := ⟨fuel - 1, by omega⟩
  induction members generalizing isFirst fuel blank with
  | nil =>
      refine ⟨blank, fun state offset => ?_⟩
      rw [readMembers, List.map_nil, partsText, List.nil_append, nextMember_close]
      exact .value _ _
  | cons member members ih =>
      obtain ⟨first, others⟩ := List.forall_mem_cons.mp each
      rw [List.length_cons] at enough
      obtain ⟨fuel, rfl⟩ : ∃ more, fuel = more + 1 := ⟨fuel - 1, by omega⟩
      have behind :
          (partsText false (members.map Phrase.memberText) ++ '\x7d' :: rest).length < rounds := by
        simp only [List.map_cons, partsText, List.length_append] at short ⊢
        omega
      obtain ⟨last, tail⟩ := ih others false member.2.after behind fuel (by omega)
      refine ⟨last, fun state offset => ?_⟩
      have boundary := member.2.after.boundary
        (@boundary_partsText (members.map Phrase.memberText) '\x7d' (by decide) rest)
      generalize remainingText : partsText false (members.map Phrase.memberText) ++ '\x7d' :: rest =
        remaining at tail boundary
      generalize behindText : member.2.after.chars ++ remaining = behindValue at boundary
      generalize nameText : member.1.after.chars ++ ':' ::
        (member.2.before.chars ++ (member.2.word.text ++ behindValue)) = behindName
      have text : partsText isFirst ((member :: members).map Phrase.memberText) ++ '\x7d' :: rest =
          (if isFirst then [] else [',']) ++
            (member.1.before.chars ++ '"' :: (member.1.word.text ++ '"' :: behindName)) := by
        simp only [List.map_cons, partsText, Phrase.memberText, Phrase.itemText, List.append_assoc,
          List.cons_append, ← nameText, ← behindText, ← remainingText]
      rw [text] at short ⊢
      simp only [List.length_append, List.length_cons] at short
      obtain ⟨further, next⟩ := @nextMember_member rounds blank member.1.before
        (member.1.word.text ++ '"' :: behindName) isFirst offset
      have named := @readString_gives rounds member.1.word behindName (by
        simp only [List.length_append, List.length_cons]
        omega) further
      have valued (name : String) (offset : Nat) := first state name _ offset boundary (by
        simp only [← nameText, List.length_append, List.length_cons] at short ⊢
        omega)
      rw [behindText] at tail
      rw [nameText] at valued
      rw [readMembers, next, List.foldlM_cons]
      show Gives _ rounds _ ((Option.bind _ _).bind _)
      rw [Option.bind_assoc]
      exact named.bind fun name offset _ =>
        (valued name offset).bind fun state offset _ => tail state offset

theorem length_le_length_partsText_members (isFirst : Bool)
    (members : List (Padded StringForm × Padded Phrase)) :
    members.length ≤ (partsText isFirst (members.map Phrase.memberText)).length := by
  induction members generalizing isFirst with
  | nil => exact Nat.le_refl _
  | cons member members ih =>
      have others := ih false
      simp only [List.map_cons, partsText, Phrase.memberText, List.length_append, List.length_cons]
      omega

end Members

/-- A fold that stops at what has no value folds the values. -/
theorem foldlM_map_eq {α β σ : Type} (valueOf? : α → Option β) (add : σ → β → σ) (xs : List α)
    (state : σ) :
    xs.foldlM (fun state x => (valueOf? x).map (add state)) state =
      (xs.mapM valueOf?).map (List.foldl add state) := by
  induction xs generalizing state with
  | nil => rfl
  | cons x xs ih =>
      rw [List.foldlM_cons, mapM_cons_eq_bind]
      cases valueOf? x with
      | none => rfl
      | some value =>
          show xs.foldlM _ (add state value) = _
          rw [ih, Option.bind_some, Option.map_map]
          rfl

/-- **Objects of values**: the entries one after the other, if each has a name and a value. -/
theorem readMap_gives {σ α : Type} (add : σ → String → α → σ) (empty : σ)
    {readValue : Cursor → Except Stop (α × Cursor)} (valueOf? : Phrase → Option α)
    {members : List (Padded StringForm × Padded Phrase)} (inside : Blank)
    (each : ∀ member ∈ members, ∀ rest offset, Boundary rest →
      (member.2.word.text ++ rest).length < rounds →
      Gives rest rounds
        (readValue ⟨member.2.before.chars ++ (member.2.word.text ++ rest), offset, rounds⟩)
        (valueOf? member.2.word))
    (rest : List Char)
    (short : (commaSeparated (Phrase.memberTexts members) ++ '\x7d' :: rest).length < rounds)
    (offset : Nat) :
    Gives rest rounds
      (readMap add empty readValue
        ⟨inside.chars ++ (commaSeparated (Phrase.memberTexts members) ++ '\x7d' :: rest), offset,
          rounds⟩)
      ((members.mapM (Phrase.memberValue? valueOf?)).map
        (List.foldl (fun state entry => add state entry.1 entry.2) empty)) := by
  rw [Phrase.memberTexts_eq_map, commaSeparated_eq_partsText] at short ⊢
  have fuel : members.length < rounds := by
    have count := length_le_length_partsText_members true members
    rw [List.length_append] at short
    omega
  let step? (state : σ) (name : String) (phrase : Phrase) : Option σ :=
    (valueOf? phrase).map (add state name)
  let readMember (state : σ) (name : String) (cursor : Cursor) : Except Stop (σ × Cursor) := do
    let read ← readValue (← cursor.readColon)
    .ok (add state name read.1, read.2)
  have eachMember : ∀ member ∈ members, ∀ state name rest offset, Boundary rest →
      (member.2.word.text ++ rest).length < rounds →
      Gives rest rounds
        (readMember state name
          ⟨member.1.after.chars ++ ':' :: (member.2.before.chars ++ (member.2.word.text ++ rest)),
            offset, rounds⟩)
        (step? state name member.2.word) := by
    intro member isMember state name rest offset boundary short
    exact (readColon_passes member.1.after _ offset).bind fun further =>
      (each member isMember rest further boundary short).map fun _ _ => rfl
  obtain ⟨last, read⟩ := readMembers_gives step? eachMember true fuel inside rest short
  have closed (state : σ) (offset : Nat) : Gives rest rounds
      (do
        let behind ← closeObject ⟨last.chars ++ '\x7d' :: rest, offset, rounds⟩
        .ok (state, behind))
      (some state) :=
    (closeObject_passes last rest offset).bind fun further => .value _ _
  have steps : (fun (state : σ) (member : Padded StringForm × Padded Phrase) =>
        member.1.word.value?.bind fun name => step? state name member.2.word) =
      fun state member => (Phrase.memberValue? valueOf? member).map fun entry =>
        add state entry.1 entry.2 := by
    funext state member
    rw [Phrase.memberValue?, Option.map_bind]
    simp only [step?, Function.comp_def, Option.map_map]
  rw [← foldlM_map_eq, ← steps, ← Option.bind_fun_some (List.foldlM _ _ _)]
  exact (read empty offset).bind fun state offset _ => closed state offset

/-! ### Values -/

theorem readLiteral_gives (value : Value) (letters rest : List Char) (offset : Nat) :
    Gives rest rounds
      (do
        let behind ← (⟨letters ++ rest, offset, rounds⟩ : Cursor).readLiteral letters
        .ok (value, behind))
      (some value) :=
  (readLiteral_passes letters rest offset rounds).bind fun _ => .value _ _

theorem readScalar_number (form : NumberForm) {rest : List Char} (boundary : Boundary rest)
    (offset : Nat) :
    Gives rest rounds (⟨form.text ++ rest, offset, rounds⟩ : Cursor).readScalar
      (form.value?.map .number) := by
  have read := @readNumber_gives rest rounds form boundary offset
  obtain ⟨c, cs, split, begins, apart⟩ := form.text_eq_cons
  rw [split, List.cons_append] at read ⊢
  rw [readScalar]
  split
  · rename_i here
    exact nomatch here
  · rename_i here
    exact absurd (List.cons.inj here).1 (apart 'n' (by decide) rfl)
  · rename_i here
    exact absurd (List.cons.inj here).1 (apart 't' (by decide) rfl)
  · rename_i here
    exact absurd (List.cons.inj here).1 (apart 'f' (by decide) rfl)
  · rename_i here
    exact absurd (List.cons.inj here).1 (apart '"' (by decide) rfl)
  · rename_i here
    obtain ⟨rfl, _⟩ := List.cons.inj here
    rw [if_pos begins]
    exact read.map fun _ _ => rfl

/-- Values without parts. -/
theorem readScalar_gives {phrase : Phrase} (noParts : phrase.depth = 0) {rest : List Char}
    (boundary : Boundary rest) (short : (phrase.text ++ rest).length < rounds)
    (levels offset : Nat) :
    Gives rest rounds (⟨phrase.text ++ rest, offset, rounds⟩ : Cursor).readScalar
      (phrase.value? levels) := by
  cases phrase with
  | null => exact readLiteral_gives .null ['u', 'l', 'l'] rest _
  | bool value =>
      cases value with
      | true => exact readLiteral_gives (.bool true) ['r', 'u', 'e'] rest _
      | false => exact readLiteral_gives (.bool false) ['a', 'l', 's', 'e'] rest _
  | number form => exact readScalar_number form boundary offset
  | string form =>
      rw [Phrase.string_text_append] at short ⊢
      exact (readString_gives form (Nat.lt_of_succ_lt short) _).map fun _ _ => rfl
  | array inside items => exact absurd noParts (Nat.succ_ne_zero _)
  | object inside members => exact absurd noParts (Nat.succ_ne_zero _)

/-- A value without parts is read in the same way on every level. -/
theorem readValue_eq_readScalar {phrase : Phrase} (noParts : phrase.depth = 0) (levels : Nat)
    (blank : Blank) (rest : List Char) (offset : Nat) :
    readValue levels ⟨blank.chars ++ (phrase.text ++ rest), offset, rounds⟩ =
      readScalar ⟨phrase.text ++ rest, offset + byteLength blank.chars, rounds⟩ := by
  obtain ⟨c, cs, split, _, _, _, opens⟩ := phrase.text_eq_cons
  obtain ⟨notList, notObject⟩ := opens noParts
  have skipped := skipPadding_blank blank (phrase.visible rest) offset rounds
  rw [split, List.cons_append] at skipped ⊢
  cases levels
  all_goals
    rw [readValue]
    simp only [skipped]
    split
    · rename_i here
      exact absurd (List.cons.inj here).1 notList
    · rename_i here
      exact absurd (List.cons.inj here).1 notObject
    · rfl

/-- **Values**: what the phrase comes to, by induction on the levels of nesting. -/
theorem readValue_gives (levels : Nat) (phrase : Phrase) (blank : Blank) {rest : List Char}
    (boundary : Boundary rest) (short : (phrase.text ++ rest).length < rounds) (offset : Nat) :
    Gives rest rounds (readValue levels ⟨blank.chars ++ (phrase.text ++ rest), offset, rounds⟩)
      (phrase.value? levels) := by
  induction levels generalizing phrase blank rest offset with
  | zero =>
      have skipped := skipPadding_blank blank (phrase.visible rest) offset rounds
      cases phrase with
      | array inside items =>
          rw [readValue]
          simp only [skipped]
          exact .failure _
      | object inside members =>
          rw [readValue]
          simp only [skipped]
          exact .failure _
      | _ =>
          rw [readValue_eq_readScalar rfl]
          exact readScalar_gives rfl boundary short 0 _
  | succ levels ih =>
      have skipped := skipPadding_blank blank (phrase.visible rest) offset rounds
      cases phrase with
      | array inside items =>
          rw [Phrase.array_text_append] at short skipped ⊢
          rw [List.length_cons, List.length_append] at short
          have read := readList_gives (·.value? levels) inside
            (fun item (_ : item ∈ items) rest offset boundary short =>
              ih item.word Blank.none boundary short offset)
            rest (by omega) (offset + byteLength blank.chars + byteLength ['['])
          rw [readValue, Phrase.value?, Phrase.itemValues?_eq_mapM]
          simp only [skipped, skip_one]
          exact read.map fun _ _ => rfl
      | object inside members =>
          rw [Phrase.object_text_append] at short skipped ⊢
          rw [List.length_cons, List.length_append] at short
          have read := readMap_gives
            (fun members name value => Table.insertAmong name value members) []
            (·.value? levels) inside
            (fun member (_ : member ∈ members) rest offset boundary short =>
              ih member.2.word member.2.before boundary short offset)
            rest (by omega) (offset + byteLength blank.chars + byteLength ['\x7b'])
          rw [readValue, Phrase.value?, Phrase.memberValues?_eq_mapM]
          simp only [skipped, skip_one]
          exact read.map fun _ _ => rfl
      | _ =>
          rw [readValue_eq_readScalar rfl]
          exact readScalar_gives rfl boundary short _ _

end Cursor

/-! ### Whole texts -/

theorem toOption_eq_some_iff {ε α : Type} {result : Except ε α} {value : α} :
    result.toOption = some value ↔ result = .ok value := by
  cases result <;> simp [Except.toOption]

/-- White space may follow the value of a text. -/
theorem readWhole_toOption {α : Type} {readOne : Cursor → Except Stop (α × Cursor)}
    {text : String} {expected : Option α} (after : Blank)
    (read : Gives after.chars (text.toList.length + 1) (readOne (Cursor.ofText text)) expected) :
    (readWhole readOne text).toOption = expected := by
  unfold readWhole
  generalize readOne (Cursor.ofText text) = result at read
  cases read with
  | failure stop => rfl
  | value value offset =>
      have ends : ∀ c ∈ ([] : List Char).head?, isPadding c = false :=
        fun _ member => nomatch member
      have skipped := Cursor.skipPadding_blank after ends offset (text.toList.length + 1)
      rw [List.append_nil] at skipped
      have finished : Cursor.readEnd ⟨after.chars, offset, text.toList.length + 1⟩ = .ok () := by
        simp only [Cursor.readEnd, skipped, List.isEmpty_nil, if_true]
      show (Except.mapError _ (Cursor.readEnd _ >>= fun _ => .ok value)).toOption = _
      rw [finished]
      rfl

/-- **A text has the value of the phrase that spells it**, and none if that has none. -/
theorem Value.ofText_toOption {text : String} {phrase : Phrase} (writes : Writes text phrase) :
    (Value.ofText text).toOption = phrase.value? levelLimit := by
  obtain ⟨before, after, split⟩ := writes
  refine readWhole_toOption after ?_
  rw [Cursor.ofText, split]
  refine Cursor.readValue_gives levelLimit phrase before ?_ ?_ 0
  · rw [← List.append_nil after.chars]
    exact after.boundary boundary_nil
  · simp only [List.length_append]
    omega

end StyleBaseline.Json
