/-
**Which offsets have a position.** The offsets of a text with a line and column are its boundaries,
the place behind its last character among them; further on in the text they are further on in the
order of lines and columns. The line is the one that a search among the offsets at which lines begin
leads to.

* `SearchAnswer` — what such a search may answer; `lineAt?_of_searchAnswer` — the line it leads to.
* `isValid_of_position?` — only boundaries have a position.
* `positionBehind_before` — positions stand in the order of the text.
* `positions_of_text` — the positions of a text, and how large their numbers are.
-/

import StyleBaseline.Proofs.Text.Lines

namespace StyleBaseline

/-! ### Searching for a line -/

/-- **What a search for an offset may answer** among the offsets at which lines begin: the place at
which the offset stands, or else the place before the one at which it would have to be put in. -/
inductive SearchAnswer (starts : List Nat) (offset : Nat) : Nat → Prop
  | found {behind ahead : List Nat} (split : starts = behind ++ offset :: ahead) :
      SearchAnswer starts offset behind.length
  | between {behind ahead : List Nat} (split : starts = behind ++ ahead)
      (less : ∀ start ∈ behind, start < offset) (greater : ∀ start ∈ ahead, offset < start) :
      SearchAnswer starts offset (behind.length - 1)

theorem exists_searchAnswer {starts : List Nat} (ascending : starts.Pairwise (· < ·))
    (offset : Nat) : ∃ place, SearchAnswer starts offset place := by
  have split : starts = starts.takeWhile (· < offset) ++ starts.dropWhile (· < offset) :=
    List.takeWhile_append_dropWhile.symm
  have less : ∀ start ∈ starts.takeWhile (· < offset), start < offset := fun start member =>
    of_decide_eq_true (List.mem_takeWhile_imp (p := fun start => decide (start < offset)) member)
  cases rest : starts.dropWhile (· < offset) with
  | nil =>
      rw [rest] at split
      exact ⟨_, .between split less fun start member => absurd member List.not_mem_nil⟩
  | cons next later =>
      have stops := List.head?_dropWhile_not (· < offset) starts
      rw [rest] at stops split
      have reached : offset ≤ next := by simpa using stops
      rw [split] at ascending
      have behindNext := (List.pairwise_cons.mp (List.pairwise_append.mp ascending).2.1).1
      by_cases isHere : next = offset
      · subst isHere
        exact ⟨_, .found split⟩
      · have further : offset < next := Nat.lt_of_le_of_ne reached (Ne.symm isHere)
        exact ⟨_, .between split less (List.forall_mem_cons.mpr
          ⟨further, fun start member => further.trans (behindNext start member)⟩)⟩

/-- The line of an offset is the one before the lines that begin behind it. -/
theorem lineAt?_split {offset : Nat} {earlier later : List Line} {line : Line}
    (begun : ∀ other ∈ earlier, other.start ≤ offset) (reached : line.start ≤ offset)
    (further : ∀ other ∈ later, offset < other.start) (number : Nat) :
    lineAt? offset number (earlier ++ line :: later) = some (number + earlier.length, line) := by
  induction earlier generalizing number with
  | nil => exact lineAt?_first further
  | cons first earlier ih =>
      obtain ⟨_, othersBegun⟩ := List.forall_mem_cons.mp begun
      have goesOn := ih othersBegun (number + 1)
      have counts : number + 1 + earlier.length = number + (first :: earlier).length := by
        rw [List.length_cons]
        omega
      rw [counts] at goesOn
      rw [← goesOn]
      cases earlier with
      | nil => exact lineAt?_next reached
      | cons next earlier => exact lineAt?_next (othersBegun next List.mem_cons_self)

/-- **The line that a search leads to** is one of the lines, and the line of the offset. -/
theorem lineAt?_of_searchAnswer {lines : List Line} {offset place : Nat}
    (ascending : lines.Pairwise fun first second => first.start < second.start)
    (begins : ∃ line ∈ lines, line.start ≤ offset)
    (answer : SearchAnswer (lines.map (·.start)) offset place) :
    ∃ line, lines[place]? = some line ∧ line.start ≤ offset ∧
      ∀ number, lineAt? offset number lines = some (number + place, line) := by
  have place_of_split : ∀ (earlier : List Line) (line : Line) (later : List Line),
      (earlier ++ line :: later)[earlier.length]? = some line := fun earlier line later => by
    rw [List.getElem?_append_right (Nat.le_refl _), Nat.sub_self, List.getElem?_cons_zero]
  cases answer with
  | @found behind ahead split =>
      obtain ⟨earlier, rest, rfl, rfl, isRest⟩ := List.map_eq_append_iff.mp split
      obtain ⟨line, later, rfl, rfl, rfl⟩ := List.map_eq_cons_iff.mp isRest
      obtain ⟨_, behindLine, apart⟩ := List.pairwise_append.mp ascending
      rw [List.length_map]
      refine ⟨line, place_of_split earlier line later, Nat.le_refl _, lineAt?_split ?_ ?_ ?_⟩
      · intro other member
        exact Nat.le_of_lt (apart other member line List.mem_cons_self)
      · exact Nat.le_refl _
      · exact (List.pairwise_cons.mp behindLine).1
  | @between behind ahead split less greater =>
      obtain ⟨earlier, later, rfl, rfl, rfl⟩ := List.map_eq_append_iff.mp split
      rw [List.forall_mem_map] at less greater
      rw [List.length_map]
      -- the line that has begun cannot be among those that begin behind the offset
      obtain ⟨begun, member, reached⟩ := begins
      have inEarlier : begun ∈ earlier := by
        refine (List.mem_append.mp member).resolve_right fun inLater => ?_
        exact absurd (greater begun inLater) (Nat.not_lt_of_le reached)
      obtain ⟨front, line, rfl⟩ := (List.eq_nil_or_concat' earlier).resolve_left
        (List.ne_nil_of_mem inEarlier)
      rw [List.forall_mem_append, List.forall_mem_singleton] at less
      rw [List.append_assoc, List.length_append, List.length_singleton, Nat.add_sub_cancel]
      refine ⟨line, place_of_split front line later, Nat.le_of_lt less.2, lineAt?_split ?_ ?_ ?_⟩
      · exact fun other member => Nat.le_of_lt (less.1 other member)
      · exact Nat.le_of_lt less.2
      · exact greater

/-- **A search among the lines of a text** leads to one of them, which begins at or before the offset,
and it is the line of the offset. -/
theorem lineAt?_ofText {text : String} {offset place : Nat}
    (answer : SearchAnswer ((LineTable.ofText text).lines.map (·.start)) offset place) :
    ∃ line, (LineTable.ofText text).lines[place]? = some line ∧ line.start ≤ offset ∧
      ∀ number, lineAt? offset number (LineTable.ofText text).lines =
        some (number + place, line) := by
  obtain ⟨first, rest, split, _⟩ := linesFrom_eq_cons 0 text.toList
  refine lineAt?_of_searchAnswer (linesFrom_ascending 0 text.toList) ?_ answer
  refine ⟨⟨0, first⟩, ?_, Nat.zero_le offset⟩
  show _ ∈ linesFrom 0 text.toList
  rw [split]
  exact List.mem_cons_self

theorem exists_searchAnswer_ofText (text : String) (offset : Nat) :
    ∃ place, SearchAnswer ((LineTable.ofText text).lines.map (·.start)) offset place :=
  exists_searchAnswer (List.pairwise_map.mpr (linesFrom_ascending 0 text.toList)) offset

/-! ### Offsets with a position -/

/-- Characters that fill so many bytes stand at the front of the text. -/
theorem charCountFrom?_split {count bytes total : Nat} {cs : List Char}
    (counted : charCountFrom? count cs bytes = some total) :
    ∃ front rest, cs = front ++ rest ∧ byteLength front = bytes := by
  induction cs generalizing count bytes with
  | nil =>
      cases bytes with
      | zero => exact ⟨[], [], rfl, rfl⟩
      | succ bytes => cases counted
  | cons c cs ih =>
      cases bytes with
      | zero => exact ⟨[], c :: cs, rfl, rfl⟩
      | succ bytes =>
          rw [charCountFrom?] at counted
          split at counted
          · rename_i fits
            obtain ⟨front, rest, rfl, fills⟩ := ih counted
            refine ⟨c :: front, rest, rfl, ?_⟩
            rw [byteLength, fills, Nat.add_sub_cancel' fits]
          · cases counted

/-- **Only boundaries have a position.** -/
theorem isValid_of_position? {text : String} {offset : Nat} {position : Position}
    (found : (LineTable.ofText text).position? offset = some position) :
    (⟨offset⟩ : String.Pos.Raw).IsValid text := by
  obtain ⟨place, answer⟩ := exists_searchAnswer_ofText text offset
  obtain ⟨line, isLine, reached, isAt⟩ := lineAt?_ofText answer
  rw [LineTable.position?, isAt] at found
  rw [Option.bind_eq_bind, Option.bind_some] at found
  obtain ⟨count, counted, _⟩ := Option.bind_eq_some_iff.mp found
  obtain ⟨front, more, split, _, _, rfl⟩ := exists_front_of_getElem? isLine
  obtain ⟨taken, left, apart, fills⟩ := charCountFrom?_split counted
  obtain ⟨rest, behind⟩ : firstLine more <+: more := List.takeWhile_prefix _
  refine isValid_iff_split.mpr ⟨front ++ taken, left ++ rest, ?_, ?_⟩
  · rw [split, ← behind, show firstLine more = taken ++ left from apart]
    simp only [List.append_assoc]
  · rw [byteLength_append, fills]
    exact Nat.add_sub_cancel' reached

/-- **The position of an offset** is that behind the characters before it. -/
theorem position?_eq_some_iff {text : String} {offset : Nat} {position : Position} :
    (LineTable.ofText text).position? offset = some position ↔
      ∃ before after, text.toList = before ++ after ∧ byteLength before = offset ∧
        position = positionBehind before := by
  constructor
  · intro found
    obtain ⟨before, after, split, rfl⟩ := isValid_iff_split.mp (isValid_of_position? found)
    refine ⟨before, after, split, rfl, ?_⟩
    exact Option.some.inj (found.symm.trans (position?_of_split split))
  · intro ⟨before, after, split, place, isBehind⟩
    rw [← place, isBehind]
    exact position?_of_split split

/-- **An offset without a position** lies past the end of the text or inside a character. -/
theorem position?_eq_none_iff {text : String} {offset : Nat} :
    (LineTable.ofText text).position? offset = none ↔
      text.utf8ByteSize < offset ∨ InsideCharacter text.toList offset := by
  rw [← not_isValid_iff, ← Option.not_isSome_iff_eq_none, not_iff_not]
  constructor
  · intro found
    obtain ⟨position, isPosition⟩ := Option.isSome_iff_exists.mp found
    exact isValid_of_position? isPosition
  · intro boundary
    obtain ⟨before, after, split, rfl⟩ := isValid_iff_split.mp boundary
    rw [position?_of_split split]
    rfl

/-! ### The order of positions -/

/-- **The order of positions**: by lines, and within a line by columns. -/
def Position.Before (first second : Position) : Prop :=
  first.line < second.line ∨ (first.line = second.line ∧ first.column < second.column)

/-- **Positions stand in the order of the text.** -/
theorem positionBehind_before (before : List Char) {gap : List Char} (nonempty : gap ≠ []) :
    (positionBehind before).Before (positionBehind (before ++ gap)) := by
  unfold Position.Before positionBehind
  rw [List.count_append]
  by_cases feed : '\n' ∈ gap
  · have further : 0 < gap.count '\n' := List.count_pos_iff.mpr feed
    exact Or.inl (Nat.add_lt_add_right (Nat.lt_add_of_pos_right further) 1)
  · have longer : 0 < gap.length := List.length_pos_of_ne_nil nonempty
    have columns : lastLine (before ++ gap) = lastLine before ++ gap := by
      rw [lastLine_append, if_neg feed]
    refine Or.inr ⟨?_, ?_⟩
    · rw [List.count_eq_zero_of_not_mem feed, Nat.add_zero]
    · show (lastLine before).length + 1 < (lastLine (before ++ gap)).length + 1
      rw [columns, List.length_append]
      omega

/-- Of two places in a text the later one stands behind more of its characters. -/
theorem exists_gap {before after other more : List Char} (same : before ++ after = other ++ more)
    (further : byteLength before < byteLength other) : ∃ gap, gap ≠ [] ∧ other = before ++ gap := by
  rcases List.append_eq_append_iff.mp same with ⟨gap, rfl, _⟩ | ⟨gap, rfl, _⟩
  · refine ⟨gap, fun isEmpty => ?_, rfl⟩
    rw [isEmpty, List.append_nil] at further
    exact absurd further (Nat.lt_irrefl _)
  · rw [byteLength_append] at further
    omega

theorem position?_before {text : String} {offset further : Nat} {position later : Position}
    (less : offset < further)
    (first : (LineTable.ofText text).position? offset = some position)
    (second : (LineTable.ofText text).position? further = some later) :
    position.Before later := by
  obtain ⟨before, after, split, rfl, rfl⟩ := position?_eq_some_iff.mp first
  obtain ⟨other, more, otherSplit, rfl, rfl⟩ := position?_eq_some_iff.mp second
  obtain ⟨gap, nonempty, rfl⟩ := exists_gap (split.symm.trans otherSplit) less
  exact positionBehind_before before nonempty

/-! ### How large the numbers are -/

/-- **The numbers of a line table** go no further than one behind the size of its text. -/
structure NumbersBelow (text : String) (bound : Nat) : Prop where
  count : (LineTable.ofText text).lineCount < bound
  starts : ∀ line ∈ (LineTable.ofText text).lines, line.start < bound
  positions : ∀ offset position, (LineTable.ofText text).position? offset = some position →
    position.line < bound ∧ position.column < bound

theorem numbersBelow_of_size {text : String} {bound : Nat} (fits : text.utf8ByteSize + 1 < bound) :
    NumbersBelow text bound := by
  refine ⟨?_, ?_, ?_⟩
  · have feeds : text.toList.count '\n' ≤ text.utf8ByteSize := by
      rw [utf8ByteSize_eq_byteLength]
      exact List.count_le_length.trans (length_le_byteLength _)
    rw [lineCount_ofText]
    omega
  · intro line member
    obtain ⟨number, isLine⟩ := List.mem_iff_getElem?.mp member
    obtain ⟨front, more, split, _, _, rfl⟩ := exists_front_of_getElem? isLine
    have start : byteLength front ≤ text.utf8ByteSize := byteLength_le_of_split split
    show byteLength front < bound
    omega
  · intro offset position found
    obtain ⟨before, after, split, place, _⟩ := position?_eq_some_iff.mp found
    have inText : offset ≤ text.utf8ByteSize := place ▸ byteLength_le_of_split split
    obtain ⟨line, column⟩ := position?_le found
    omega

/-- **The positions of a text.** An offset has none if and only if it lies past the end or inside a
character. The line of another is counted by the line feeds before it, and the column by the
characters behind the last of them, so that positions go up from boundary to boundary. Every search
for the offset among the beginnings of lines leads to its line, which begins no further on. In a text
of fewer than 2³² - 1 bytes every number fits into 32 bits. -/
theorem positions_of_text (text : String) :
    let table := LineTable.ofText text
    let starts := table.lines.map (·.start)
    (∀ offset, table.position? offset = none ↔
      text.utf8ByteSize < offset ∨ InsideCharacter text.toList offset) ∧
      (∀ offset position, table.position? offset = some position ↔
        ∃ before after, text.toList = before ++ after ∧ byteLength before = offset ∧
          position = ⟨1 + before.count '\n', 1 + (lastLine before).length⟩) ∧
      (∀ offset further position later, offset < further →
        table.position? offset = some position → table.position? further = some later →
          position.Before later) ∧
      (∀ offset, (∃ place, SearchAnswer starts offset place) ∧
        ∀ place, SearchAnswer starts offset place → ∃ line, table.lines[place]? = some line ∧
          line.start ≤ offset ∧ lineAt? offset 1 table.lines = some (1 + place, line)) ∧
      (text.utf8ByteSize < 2 ^ 32 - 1 → NumbersBelow text (2 ^ 32)) := by
  intro table starts
  refine ⟨fun offset => position?_eq_none_iff, ?_, ?_, ?_, ?_⟩
  · intro offset position
    simp only [Nat.add_comm 1]
    exact position?_eq_some_iff
  · intro offset further position later less first second
    exact position?_before less first second
  · intro offset
    refine ⟨exists_searchAnswer_ofText text offset, fun place answer => ?_⟩
    obtain ⟨line, isLine, reached, isAt⟩ := lineAt?_ofText answer
    exact ⟨line, isLine, reached, isAt 1⟩
  · intro small
    exact numbersBelow_of_size (by omega)

end StyleBaseline
