/-
**Skimming values of JSON.** Every value that is well formed is passed over, whatever its numbers,
its surrogates and its depth are: on the way through it the brackets around it stay as they are, and
the rounds it takes are fewer than twice its characters.

* `Skimmable` — what passing over a value takes.
* `skimOn_parts` — the way through an array or an object, from its parts.
* `skimmable` — every phrase is passed over, by induction on its parts.
* `skimValue_passes` — the value that is skimmed.
-/

import StyleBaseline.Json.Skim
import StyleBaseline.Proofs.Json.Reading

namespace StyleBaseline.Json

namespace Cursor

/-- What passing over a phrase takes: a number of rounds that its length bounds. -/
def Skimmable (rounds : Nat) (phrase : Phrase) : Prop :=
  ∃ cost, cost < 2 * phrase.text.length ∧
    ∀ (fuel : Nat) (enclosing : List Bracket) (blank : Blank) (rest : List Char) (offset : Nat),
      Boundary rest → (phrase.text ++ rest).length < rounds →
      ∃ further,
        skimOn (fuel + cost) enclosing .lead
            ⟨blank.chars ++ (phrase.text ++ rest), offset, rounds⟩ =
          skimOn fuel enclosing .value ⟨rest, further, rounds⟩

variable {rounds : Nat}

/-! ### Values without parts -/

theorem skimScalar_number (form : NumberForm) {rest : List Char} (boundary : Boundary rest)
    (offset : Nat) :
    Passes rest rounds (⟨form.text ++ rest, offset, rounds⟩ : Cursor).skimScalar := by
  have passed := @skimNumber_passes rest rounds form boundary offset
  obtain ⟨c, cs, split, begins, apart⟩ := form.text_eq_cons
  rw [split, List.cons_append] at passed ⊢
  rw [skimScalar]
  split
  · rename_i here
    exact nomatch here
  · rename_i here
    exact absurd (List.cons.inj here).1 (apart 'n' (by decide) rfl)
  · rename_i here
    exact absurd (List.cons.inj here).1 (apart 't' (by decide) rfl)
  · rename_i here
    exact absurd (List.cons.inj here).1 (apart 'f' (by decide) rfl)
  · rename_i here
    exact absurd (List.cons.inj here).1 (apart '"' (by decide) rfl)
  · rename_i here
    obtain ⟨rfl, _⟩ := List.cons.inj here
    rw [if_pos begins]
    exact passed

theorem skimScalar_passes {phrase : Phrase} (noParts : phrase.depth = 0) {rest : List Char}
    (boundary : Boundary rest) (short : (phrase.text ++ rest).length < rounds) (offset : Nat) :
    Passes rest rounds (⟨phrase.text ++ rest, offset, rounds⟩ : Cursor).skimScalar := by
  cases phrase with
  | null => exact readLiteral_passes ['u', 'l', 'l'] rest _ rounds
  | bool value =>
      cases value with
      | true => exact readLiteral_passes ['r', 'u', 'e'] rest _ rounds
      | false => exact readLiteral_passes ['a', 'l', 's', 'e'] rest _ rounds
  | number form => exact skimScalar_number form boundary offset
  | string form =>
      rw [Phrase.string_text_append] at short ⊢
      exact skimString_passes form (Nat.lt_of_succ_lt short) _
  | array inside items => exact absurd noParts (Nat.succ_ne_zero _)
  | object inside members => exact absurd noParts (Nat.succ_ne_zero _)

theorem skimmable_of_noParts {phrase : Phrase} (noParts : phrase.depth = 0) :
    Skimmable rounds phrase := by
  obtain ⟨c, cs, split, _, _, _, opens⟩ := phrase.text_eq_cons
  obtain ⟨notList, notObject⟩ := opens noParts
  refine ⟨1, ?_, fun fuel enclosing blank rest offset boundary short => ?_⟩
  · rw [split, List.length_cons]
    omega
  · have skipped := skipPadding_blank blank (phrase.visible rest) offset rounds
    obtain ⟨further, passed⟩ := skimScalar_passes noParts boundary short
      (offset + byteLength blank.chars)
    refine ⟨further, ?_⟩
    rw [skimOn]
    simp only [skipped]
    rw [split, List.cons_append] at passed ⊢
    simp only [passed]
    split
    · rename_i here
      exact absurd (List.cons.inj here).1 notList
    · rename_i here
      exact absurd (List.cons.inj here).1 notObject
    · rfl

/-! ### Values with parts -/

/-- What is behind when the next part comes: the opening bracket or a part. -/
def behindPart (isFirst : Bool) : Skimmed :=
  if isFirst then .bracket else .value

theorem skimOn_close (fuel : Nat) (bracket : Bracket) (outer : List Bracket) (isFirst : Bool)
    (blank : Blank) (rest : List Char) (offset : Nat) :
    ∃ further,
      skimOn (fuel + 1) (bracket :: outer) (behindPart isFirst)
          ⟨blank.chars ++ bracket.closing :: rest, offset, rounds⟩ =
        skimOn fuel outer .value ⟨rest, further, rounds⟩ := by
  have visible : isPadding bracket.closing = false := by cases bracket <;> rfl
  have skipped := skipPadding_cons blank visible rest offset rounds
  refine ⟨offset + byteLength blank.chars + byteLength [bracket.closing], ?_⟩
  cases isFirst with
  | true =>
      rw [behindPart, if_pos rfl, skimOn]
      · simp only [skipped, if_true, skip_one]
      · intro isLead
        cases isLead
  | false =>
      rw [behindPart, if_neg Bool.false_ne_true, skimOn]
      · simp only [skipped, if_true, skip_one]
      · intro isLead
        cases isLead

/-- A round leads from one part to the next. -/
theorem skimOn_next (fuel : Nat) (bracket : Bracket) (outer : List Bracket) (isFirst : Bool)
    (blank before : Blank) {c : Char} (visible : isPadding c = false) (open' : c ≠ bracket.closing)
    (cs : List Char) (offset : Nat) :
    ∃ (lead : Blank) (further : Nat),
      skimOn (fuel + 1) (bracket :: outer) (behindPart isFirst)
          ⟨blank.chars ++ ((if isFirst then [] else [',']) ++ (before.chars ++ c :: cs)), offset,
            rounds⟩ =
        skimName ⟨lead.chars ++ c :: cs, further, rounds⟩ bracket >>=
          skimOn fuel (bracket :: outer) .lead := by
  cases isFirst with
  | true =>
      have skipped := skipPadding_cons (blank.append before) visible cs offset rounds
      rw [Blank.append, List.append_assoc] at skipped
      refine ⟨Blank.none, offset + byteLength (blank.append before).chars, ?_⟩
      rw [behindPart, if_pos rfl, if_pos rfl, List.nil_append, skimOn]
      · simp only [skipped, if_neg open', if_true]
        rfl
      · intro isLead
        cases isLead
  | false =>
      have notEnd : ',' ≠ bracket.closing := by cases bracket <;> decide
      have skipped := @skipPadding_cons blank ',' rfl (before.chars ++ c :: cs) offset rounds
      refine ⟨before, offset + byteLength blank.chars + byteLength [','], ?_⟩
      rw [behindPart, if_neg Bool.false_ne_true, if_neg Bool.false_ne_true, List.singleton_append,
        skimOn]
      · simp only [skipped, if_neg notEnd, reduceCtorEq, if_false, if_true, skip_one]
      · intro isLead
        cases isLead

/-- The way through an array or an object. A round leads to each part, the value in it is passed
over, and a last round closes the bracket. -/
theorem skimOn_parts {β : Type} (bracket : Bracket) (textOf : β → List Char)
    (valueOf : β → Padded Phrase) (parts : List β)
    (reaches : ∀ part ∈ parts, ∀ (fuel : Nat) (outer : List Bracket) (isFirst : Bool)
      (blank : Blank) (behind : List Char) (offset : Nat),
      (textOf part ++ behind).length < rounds →
      ∃ (lead : Blank) (further : Nat),
        skimOn (fuel + 1) (bracket :: outer) (behindPart isFirst)
            ⟨blank.chars ++ ((if isFirst then [] else [',']) ++ (textOf part ++ behind)), offset,
              rounds⟩ =
          skimOn fuel (bracket :: outer) .lead
            ⟨lead.chars ++ ((valueOf part).word.text ++ ((valueOf part).after.chars ++ behind)),
              further, rounds⟩)
    (contains : ∀ part ∈ parts, (valueOf part).word.text.length +
      (valueOf part).after.chars.length ≤ (textOf part).length)
    (skims : ∀ part ∈ parts, Skimmable rounds (valueOf part).word) (isFirst : Bool) :
    ∃ cost, cost ≤ 2 * (partsText isFirst (parts.map textOf)).length + 1 ∧
      ∀ (fuel : Nat) (outer : List Bracket) (blank : Blank) (rest : List Char) (offset : Nat),
        (partsText isFirst (parts.map textOf) ++ bracket.closing :: rest).length < rounds →
        ∃ further,
          skimOn (fuel + cost) (bracket :: outer) (behindPart isFirst)
              ⟨blank.chars ++ (partsText isFirst (parts.map textOf) ++ bracket.closing :: rest),
                offset, rounds⟩ =
            skimOn fuel outer .value ⟨rest, further, rounds⟩ := by
  induction parts generalizing isFirst with
  | nil =>
      refine ⟨1, by simp [partsText], fun fuel outer blank rest offset _ => ?_⟩
      exact skimOn_close fuel bracket outer isFirst blank rest offset
  | cons part parts ih =>
      obtain ⟨reach, reachOthers⟩ := List.forall_mem_cons.mp reaches
      obtain ⟨contained, containedOthers⟩ := List.forall_mem_cons.mp contains
      obtain ⟨⟨cost, bounded, pass⟩, skimOthers⟩ := List.forall_mem_cons.mp skims
      obtain ⟨costOthers, boundedOthers, passOthers⟩ :=
        ih reachOthers containedOthers skimOthers false
      refine ⟨costOthers + cost + 1, ?_, fun fuel outer blank rest offset short => ?_⟩
      · simp only [List.map_cons, partsText, List.length_append]
        omega
      · have ends : bracket.closing ∈ [',', ']', '\x7d'] := by cases bracket <;> decide
        have boundary := (valueOf part).after.boundary
          (boundary_partsText (parts.map textOf) ends rest)
        have text : partsText isFirst ((part :: parts).map textOf) ++ bracket.closing :: rest =
            (if isFirst then [] else [',']) ++ (textOf part ++
              (partsText false (parts.map textOf) ++ bracket.closing :: rest)) := by
          simp only [List.map_cons, partsText, List.append_assoc]
        rw [text] at short ⊢
        simp only [List.length_append] at short
        obtain ⟨lead, atValue, led⟩ := reach (fuel + costOthers + cost) outer isFirst blank
          (partsText false (parts.map textOf) ++ bracket.closing :: rest) offset (by
            simp only [List.length_append]
            omega)
        obtain ⟨behindValue, passed⟩ := pass (fuel + costOthers) (bracket :: outer) lead _ atValue
          boundary (by
            simp only [List.length_append]
            omega)
        obtain ⟨further, closed⟩ := passOthers fuel outer (valueOf part).after rest behindValue (by
          simp only [List.length_append]
          omega)
        refine ⟨further, ?_⟩
        rw [← Nat.add_assoc, ← Nat.add_assoc, led, passed]
        exact closed

theorem skimOn_item (item : Padded Phrase) (fuel : Nat) (outer : List Bracket) (isFirst : Bool)
    (blank : Blank) (behind : List Char) (offset : Nat) :
    ∃ (lead : Blank) (further : Nat),
      skimOn (fuel + 1) (.list :: outer) (behindPart isFirst)
          ⟨blank.chars ++ ((if isFirst then [] else [',']) ++ (Phrase.itemText item ++ behind)),
            offset, rounds⟩ =
        skimOn fuel (.list :: outer) .lead
          ⟨lead.chars ++ (item.word.text ++ (item.after.chars ++ behind)), further, rounds⟩ := by
  obtain ⟨c, cs, split, visible, notClosing, _⟩ := item.word.text_eq_cons
  rw [Phrase.itemText, split, List.append_assoc, List.append_assoc, List.cons_append]
  exact skimOn_next fuel .list outer isFirst blank item.before visible notClosing _ offset

theorem skimName_passes (lead : Blank) (form : StringForm) (after : Blank) (rest : List Char)
    (short : (form.text ++ '"' :: (after.chars ++ ':' :: rest)).length < rounds) (offset : Nat) :
    Passes rest rounds
      (skimName ⟨lead.chars ++ '"' :: (form.text ++ '"' :: (after.chars ++ ':' :: rest)), offset,
        rounds⟩ .object) := by
  rw [skimName]
  simp only [@skipPadding_cons lead '"' rfl, skip_one]
  exact (skimString_passes form short _).trans fun further => readColon_passes after rest further

theorem skimOn_member (member : Padded StringForm × Padded Phrase) (fuel : Nat)
    (outer : List Bracket) (isFirst : Bool) (blank : Blank) (behind : List Char) (offset : Nat)
    (short : (Phrase.memberText member ++ behind).length < rounds) :
    ∃ (lead : Blank) (further : Nat),
      skimOn (fuel + 1) (.object :: outer) (behindPart isFirst)
          ⟨blank.chars ++ ((if isFirst then [] else [',']) ++ (Phrase.memberText member ++ behind)),
            offset, rounds⟩ =
        skimOn fuel (.object :: outer) .lead
          ⟨lead.chars ++ (member.2.word.text ++ (member.2.after.chars ++ behind)), further,
            rounds⟩ := by
  have text : Phrase.memberText member ++ behind = member.1.before.chars ++ '"' ::
      (member.1.word.text ++ '"' :: (member.1.after.chars ++ ':' ::
        (member.2.before.chars ++ (member.2.word.text ++ (member.2.after.chars ++ behind))))) := by
    simp only [Phrase.memberText, Phrase.itemText, List.append_assoc, List.cons_append]
  rw [text] at short ⊢
  rw [List.length_append, List.length_cons] at short
  obtain ⟨lead, atName, led⟩ := @skimOn_next rounds fuel .object outer isFirst blank
    member.1.before '"' rfl (by decide) _ offset
  obtain ⟨further, named⟩ := @skimName_passes rounds lead member.1.word member.1.after
    (member.2.before.chars ++ (member.2.word.text ++ (member.2.after.chars ++ behind))) (by omega)
    atName
  refine ⟨member.2.before, further, ?_⟩
  rw [led, named]
  rfl

/-! ### All values -/

/-- A value with parts takes one round more than what is between its brackets. -/
theorem skimmable_of_inside {phrase : Phrase} {bracket : Bracket} (opening : Char) (inside : Blank)
    {parts : List (List Char)} {cost : Nat}
    (text : ∀ rest, phrase.text ++ rest =
      opening :: (inside.chars ++ (partsText true parts ++ bracket.closing :: rest)))
    (opens : ∀ fuel enclosing cursor behind, (skipPadding cursor).rest = opening :: behind →
      skimOn (fuel + 1) enclosing .lead cursor =
        skimOn fuel (bracket :: enclosing) .bracket (cursor.skipPadding.skip 1))
    (bounded : cost ≤ 2 * (partsText true parts).length + 1)
    (pass : ∀ (fuel : Nat) (outer : List Bracket) (blank : Blank) (rest : List Char)
      (offset : Nat),
      (partsText true parts ++ bracket.closing :: rest).length < rounds →
      ∃ further,
        skimOn (fuel + cost) (bracket :: outer) .bracket
            ⟨blank.chars ++ (partsText true parts ++ bracket.closing :: rest), offset, rounds⟩ =
          skimOn fuel outer .value ⟨rest, further, rounds⟩) :
    Skimmable rounds phrase := by
  refine ⟨cost + 1, ?_, fun fuel enclosing blank rest offset _ short => ?_⟩
  · have length := congrArg List.length (text [])
    simp only [List.append_nil, List.length_cons, List.length_append] at length
    omega
  · have skipped := skipPadding_blank blank (phrase.visible rest) offset rounds
    rw [text] at short skipped ⊢
    rw [List.length_cons, List.length_append] at short
    obtain ⟨further, passed⟩ := pass fuel enclosing inside rest
      (offset + byteLength blank.chars + byteLength [opening]) (by omega)
    refine ⟨further, ?_⟩
    rw [← Nat.add_assoc, opens (fuel + cost) enclosing _ _ (congrArg Cursor.rest skipped), skipped,
      skip_one]
    exact passed

/-- **Every phrase can be passed over**, by induction on its parts. -/
theorem skimmable (rounds : Nat) (phrase : Phrase) : Skimmable rounds phrase := by
  induction phrase with
  | array inside items ih =>
      obtain ⟨cost, bounded, pass⟩ := skimOn_parts .list Phrase.itemText id items
        (fun item _ fuel outer isFirst blank behind offset _ =>
          skimOn_item item fuel outer isFirst blank behind offset)
        (fun item _ => by
          simp only [Phrase.itemText, List.length_append, id]
          omega)
        ih true
      refine skimmable_of_inside '[' inside (fun rest => ?_)
        (fun fuel enclosing cursor behind here => ?_) bounded pass
      · rw [Phrase.array_text_append, Phrase.itemTexts_eq_map, commaSeparated_eq_partsText]
        rfl
      · rw [skimOn]
        simp only [here]
  | object inside members ih =>
      obtain ⟨cost, bounded, pass⟩ := skimOn_parts .object Phrase.memberText (·.2) members
        (fun member _ => skimOn_member member)
        (fun member _ => by
          simp only [Phrase.memberText, Phrase.itemText, List.length_append, List.length_cons]
          omega)
        ih true
      refine skimmable_of_inside '\x7b' inside (fun rest => ?_)
        (fun fuel enclosing cursor behind here => ?_) bounded pass
      · rw [Phrase.object_text_append, Phrase.memberTexts_eq_map, commaSeparated_eq_partsText]
        rfl
      · rw [skimOn]
        simp only [here]
  | _ => exact skimmable_of_noParts rfl

/-- **Skimming passes over every value.** -/
theorem skimValue_passes (phrase : Phrase) (blank : Blank) {rest : List Char}
    (boundary : Boundary rest) (short : (phrase.text ++ rest).length < rounds) (offset : Nat) :
    Passes rest rounds (skimValue ⟨blank.chars ++ (phrase.text ++ rest), offset, rounds⟩) := by
  obtain ⟨cost, bounded, pass⟩ := skimmable rounds phrase
  obtain ⟨further, passed⟩ := pass (2 * rounds - cost + 1) [] blank rest offset boundary short
  have fuel : 2 * rounds - cost + 1 + cost = 2 * rounds + 1 := by
    rw [List.length_append] at short
    omega
  refine ⟨further, ?_⟩
  rw [skimValue, ← fuel, passed]
  rfl

end Cursor

end StyleBaseline.Json
