/-
**Lines and columns by what stands before a place.** A line table finds a place by the offsets at
which lines begin. What it answers can be read off the text before the place alone: the line is
counted by its line feeds, and the column by the characters behind the last of them.

* `lineAt?_joinFirst` — the line of a place, by induction on the text before it.
* `position?_of_split` — the line and column of a place between two characters.
* `positionBehind_append` — how they change when a text is put in front.
* `position?_le` — how far they can go.
-/

import Mathlib.Data.List.TakeWhile
import StyleBaseline.Text.Lines

namespace StyleBaseline

/-- The line that a text leaves open: what stands behind its last line feed. -/
def lastLine (text : List Char) : List Char :=
  (text.reverse.takeWhile (· ≠ '\n')).reverse

/-- The line and column of the place behind a text. -/
def positionBehind (before : List Char) : Position :=
  ⟨before.count '\n' + 1, (lastLine before).length + 1⟩

/-! ### The last line -/

theorem lastLine_of_noFeed {text : List Char} (noFeed : '\n' ∉ text) : lastLine text = text := by
  have kept : ∀ c ∈ text.reverse, decide (c ≠ '\n') = true := fun c member =>
    decide_eq_true fun isFeed => noFeed (isFeed ▸ List.mem_reverse.mp member)
  rw [lastLine, List.takeWhile_eq_self_iff.mpr kept, List.reverse_reverse]

@[simp]
theorem lastLine_append_feed (before after : List Char) :
    lastLine (before ++ '\n' :: after) = lastLine after := by
  have stops : ('\n' :: before.reverse).takeWhile (· ≠ '\n') = [] := by simp
  rw [lastLine, lastLine, List.reverse_append, List.reverse_cons, List.append_assoc,
    List.singleton_append, List.takeWhile_append, stops, List.append_nil]
  split
  · rename_i whole
    rw [(List.takeWhile_prefix _).eq_of_length whole]
  · rfl

/-- Where the second of two texts has no line feed the last line begins in the first. -/
theorem lastLine_append (before after : List Char) :
    lastLine (before ++ after) =
      if '\n' ∈ after then lastLine after else lastLine before ++ after := by
  by_cases feed : '\n' ∈ after
  · obtain ⟨start, rest, rfl⟩ := List.append_of_mem feed
    rw [if_pos feed, ← List.append_assoc, lastLine_append_feed, lastLine_append_feed]
  · have kept : ∀ c ∈ after.reverse, decide (c ≠ '\n') = true := fun c member =>
      decide_eq_true fun isFeed => feed (isFeed ▸ List.mem_reverse.mp member)
    rw [if_neg feed, lastLine, List.reverse_append, List.takeWhile_append_of_pos kept,
      List.reverse_append, List.reverse_reverse]
    rfl

/-! ### Counting characters -/

@[simp]
theorem charCountFrom?_append (count : Nat) (front rest : List Char) :
    charCountFrom? count (front ++ rest) (byteLength front) = some (count + front.length) := by
  induction front generalizing count with
  | nil => cases rest <;> rfl
  | cons c front ih =>
      have size : c.utf8Size ≤ byteLength (c :: front) := Nat.le_add_right _ _
      have behind : byteLength (c :: front) - c.utf8Size = byteLength front := by
        rw [byteLength, Nat.add_sub_cancel_left]
      obtain ⟨bytes, positive⟩ := Nat.exists_eq_succ_of_ne_zero
        (Nat.ne_of_gt (Nat.lt_of_lt_of_le c.utf8Size_pos size))
      rw [List.cons_append, positive, charCountFrom?, ← Nat.succ_eq_add_one, ← positive,
        if_pos size, behind, ih, List.length_cons, Nat.add_assoc, Nat.add_comm 1]

/-- The front of a text has as many characters as fill its bytes. -/
@[simp]
theorem charCount?_append (front rest : List Char) :
    charCount? (front ++ rest) (byteLength front) = some front.length := by
  simp [charCount?]

/-! ### The lines of a text -/

/-- Lines with characters put in front of the first of them. -/
def joinFirst (start : Nat) (front : List Char) : List Line → List Line
  | [] => [⟨start, front⟩]
  | line :: rest => ⟨start, front ++ line.text⟩ :: rest

theorem joinFirst_joinFirst (start here : Nat) (front more : List Char) (lines : List Line) :
    joinFirst start front (joinFirst here more lines) = joinFirst start (front ++ more) lines := by
  cases lines with
  | nil => rfl
  | cons line rest =>
      show (⟨start, front ++ (more ++ line.text)⟩ :: rest : List Line) = _
      rw [← List.append_assoc]
      rfl

theorem linesFrom_cons_of_ne {c : Char} (noFeed : c ≠ '\n') (here : Nat) (cs : List Char) :
    linesFrom here (c :: cs) = joinFirst here [c] (linesFrom (here + c.utf8Size) cs) := by
  rw [linesFrom, if_neg noFeed]
  cases linesFrom (here + c.utf8Size) cs <;> rfl

/-- The first line begins where the text begins, and the others behind that. -/
theorem linesFrom_eq_cons (here : Nat) (cs : List Char) :
    ∃ text rest, linesFrom here cs = ⟨here, text⟩ :: rest ∧ ∀ line ∈ rest, here < line.start := by
  induction cs generalizing here with
  | nil => exact ⟨[], [], rfl, fun _ member => absurd member List.not_mem_nil⟩
  | cons c cs ih =>
      by_cases feed : c = '\n'
      · obtain ⟨text, rest, split, later⟩ := ih (here + 1)
        refine ⟨[], linesFrom (here + 1) cs, by rw [linesFrom, if_pos feed], ?_⟩
        rw [split]
        exact List.forall_mem_cons.mpr ⟨Nat.lt_succ_self here, fun line member =>
          Nat.lt_of_succ_lt (later line member)⟩
      · obtain ⟨text, rest, split, later⟩ := ih (here + c.utf8Size)
        refine ⟨c :: text, rest, by rw [linesFrom_cons_of_ne feed, split]; rfl, ?_⟩
        exact fun line member => (Nat.le_add_right _ _).trans_lt (later line member)

/-! ### The line of a place -/

/-- A place before all later lines is on the first one. -/
theorem lineAt?_first {offset number : Nat} {line : Line} {rest : List Line}
    (later : ∀ other ∈ rest, offset < other.start) :
    lineAt? offset number (line :: rest) = some (number, line) := by
  cases rest with
  | nil => rfl
  | cons next rest =>
      have behind : ¬ next.start ≤ offset := Nat.not_le_of_lt (later next List.mem_cons_self)
      rw [lineAt?, if_neg behind]

/-- A place at or behind the beginning of the next line is not on the first one. -/
theorem lineAt?_next {offset number : Nat} {line next : Line} {rest : List Line}
    (reached : next.start ≤ offset) :
    lineAt? offset number (line :: next :: rest) = lineAt? offset (number + 1) (next :: rest) := by
  rw [lineAt?, if_pos reached]

/-- **The line of a place.** The induction is on the text before it; what is read of the line so
far is put in front. -/
theorem lineAt?_joinFirst (front before after : List Char) {start here offset : Nat}
    (number : Nat) (noFeed : '\n' ∉ front) (begins : here = start + byteLength front)
    (ends : offset = here + byteLength before) :
    ∃ line,
      lineAt? offset number (joinFirst start front (linesFrom here (before ++ after))) =
        some (number + before.count '\n', line) ∧
      charCount? line.text (offset - line.start) = some (lastLine (front ++ before)).length := by
  induction before generalizing front start here number with
  | nil =>
      obtain ⟨text, rest, split, later⟩ := linesFrom_eq_cons here after
      have isHere : offset = here := ends
      refine ⟨⟨start, front ++ text⟩, ?_, ?_⟩
      · rw [List.nil_append, split, joinFirst, isHere]
        exact lineAt?_first later
      · have bytes : offset - start = byteLength front := by omega
        show charCount? (front ++ text) (offset - start) = _
        simp [bytes, lastLine_of_noFeed noFeed]
  | cons c before ih =>
      rw [byteLength] at ends
      by_cases feed : c = '\n'
      · subst feed
        have one : '\n'.utf8Size = 1 := rfl
        obtain ⟨text, rest, split, _⟩ := linesFrom_eq_cons (here + 1) (before ++ after)
        have behind : offset = here + 1 + byteLength before := by omega
        obtain ⟨line, found, column⟩ :=
          ih [] (number + 1) List.not_mem_nil (Nat.add_zero (here + 1)).symm behind
        refine ⟨line, ?_, ?_⟩
        · have reached : here + 1 ≤ offset := by omega
          rw [split] at found
          rw [List.cons_append, linesFrom, if_pos rfl, split, joinFirst, lineAt?_next reached,
            List.count_cons_self, ← Nat.add_assoc, Nat.add_right_comm]
          exact found
        · rw [column, lastLine_append_feed]
          rfl
      · have stillNoFeed : '\n' ∉ front ++ [c] := by
          simpa [noFeed] using Ne.symm feed
        have bytes : here + c.utf8Size = start + byteLength (front ++ [c]) := by
          rw [byteLength_append, begins, Nat.add_assoc]
          rfl
        have behind : offset = here + c.utf8Size + byteLength before := by omega
        obtain ⟨line, found, column⟩ := ih (front ++ [c]) number stillNoFeed bytes behind
        refine ⟨line, ?_, ?_⟩
        · rw [List.cons_append, linesFrom_cons_of_ne feed, joinFirst_joinFirst, found,
            List.count_cons_of_ne feed]
        · rw [column, List.append_assoc, List.singleton_append]

/-- **Line and column of a place** between two characters. -/
theorem position?_of_split {text : String} {before after : List Char}
    (split : text.toList = before ++ after) :
    (LineTable.ofText text).position? (byteLength before) = some (positionBehind before) := by
  have begins : 0 = 0 + byteLength [] := rfl
  obtain ⟨line, found, column⟩ :=
    lineAt?_joinFirst [] before after 1 List.not_mem_nil begins (Nat.zero_add _).symm
  have lines : (LineTable.ofText text).lines = joinFirst 0 [] (linesFrom 0 (before ++ after)) := by
    obtain ⟨first, rest, shape, _⟩ := linesFrom_eq_cons 0 (before ++ after)
    show linesFrom 0 text.toList = _
    rw [split, shape]
    rfl
  rw [LineTable.position?, lines, found]
  show ((charCount? line.text (byteLength before - line.start)).bind fun count =>
    some (⟨1 + before.count '\n', count + 1⟩ : Position)) = _
  rw [column, Nat.add_comm 1]
  rfl

example : positionBehind "ab\nüx".toList = ⟨2, 3⟩ := by decide

/-- **With a text put in front** the line grows by the line feeds of that text, and on the first
line the column by the characters of its last line. -/
theorem positionBehind_append (front before : List Char) :
    positionBehind (front ++ before) =
      ⟨(positionBehind before).line + front.count '\n',
        if (positionBehind before).line = 1 then
          (positionBehind before).column + (lastLine front).length
        else (positionBehind before).column⟩ := by
  have firstLine : (positionBehind before).line = 1 ↔ '\n' ∉ before := by
    rw [positionBehind, Nat.add_eq_right, List.count_eq_zero]
  have lines : (front ++ before).count '\n' + 1 = before.count '\n' + 1 + front.count '\n' := by
    rw [List.count_append]
    omega
  rw [positionBehind, lines, lastLine_append]
  simp only [firstLine]
  by_cases feed : '\n' ∈ before
  · rw [if_pos feed, if_neg (not_not.mpr feed)]
    rfl
  · have columns : (lastLine front ++ before).length + 1 =
        (lastLine before).length + 1 + (lastLine front).length := by
      rw [List.length_append, lastLine_of_noFeed feed]
      omega
    rw [if_neg feed, if_pos feed, columns]
    rfl

/-! ### How far lines and columns go -/

theorem charCountFrom?_le {count bytes total : Nat} {cs : List Char}
    (counted : charCountFrom? count cs bytes = some total) : total ≤ count + bytes := by
  induction cs generalizing count bytes with
  | nil =>
      cases bytes with
      | zero => exact (Option.some.inj counted).symm.le
      | succ bytes => exact nomatch counted
  | cons c cs ih =>
      cases bytes with
      | zero => exact (Option.some.inj counted).symm.le
      | succ bytes =>
          rw [charCountFrom?] at counted
          split at counted
          · have further := ih counted
            have size : 0 < c.utf8Size := c.utf8Size_pos
            omega
          · exact nomatch counted

theorem linesFrom_ascending (here : Nat) (cs : List Char) :
    (linesFrom here cs).Pairwise fun first second => first.start < second.start := by
  induction cs generalizing here with
  | nil => exact List.pairwise_singleton _ _
  | cons c cs ih =>
      obtain ⟨text, rest, split, later⟩ := linesFrom_eq_cons here (c :: cs)
      rw [split]
      refine List.pairwise_cons.mpr ⟨later, ?_⟩
      by_cases feed : c = '\n'
      · rw [linesFrom, if_pos feed] at split
        obtain ⟨_, rfl⟩ := List.cons.inj split
        exact ih (here + 1)
      · obtain ⟨_, others, otherSplit, _⟩ := linesFrom_eq_cons (here + c.utf8Size) cs
        have behind := ih (here + c.utf8Size)
        rw [linesFrom_cons_of_ne feed, otherSplit] at split
        obtain ⟨_, rfl⟩ := List.cons.inj split
        rw [otherSplit] at behind
        exact (List.pairwise_cons.mp behind).2

/-- Each further line begins at least one byte further on. -/
theorem lineAt?_le {offset number found : Nat} {line other : Line} {rest : List Line}
    (ascending : (line :: rest).Pairwise fun first second => first.start < second.start)
    (reached : line.start ≤ offset) (isAt : lineAt? offset number (line :: rest) = some (found, other)) :
    found + line.start ≤ number + offset := by
  induction rest generalizing line number with
  | nil =>
      obtain ⟨rfl, rfl⟩ := Prod.mk.inj (Option.some.inj isAt)
      exact Nat.add_le_add_left reached _
  | cons next rest ih =>
      obtain ⟨later, ascending⟩ := List.pairwise_cons.mp ascending
      have apart := later next List.mem_cons_self
      rw [lineAt?] at isAt
      split at isAt
      · rename_i further
        have bound := ih ascending further isAt
        omega
      · obtain ⟨rfl, rfl⟩ := Prod.mk.inj (Option.some.inj isAt)
        exact Nat.add_le_add_left reached _

/-- **Lines and columns go no further than bytes.** -/
theorem position?_le {text : String} {offset : Nat} {position : Position}
    (found : (LineTable.ofText text).position? offset = some position) :
    position.line ≤ offset + 1 ∧ position.column ≤ offset + 1 := by
  obtain ⟨first, rest, split, _⟩ := linesFrom_eq_cons 0 text.toList
  have ascending := linesFrom_ascending 0 text.toList
  rw [split] at ascending
  rw [LineTable.position?, LineTable.ofText, split] at found
  obtain ⟨⟨number, line⟩, isAt, found⟩ := Option.bind_eq_some_iff.mp found
  obtain ⟨count, counted, found⟩ := Option.bind_eq_some_iff.mp found
  obtain rfl := Option.some.inj found
  have lines := lineAt?_le ascending (Nat.zero_le _) isAt
  have columns := charCountFrom?_le counted
  constructor
  · show number ≤ offset + 1
    omega
  · show count + 1 ≤ offset + 1
    omega

end StyleBaseline
