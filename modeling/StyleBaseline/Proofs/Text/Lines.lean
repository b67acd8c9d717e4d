/-
**The lines of a text.** Cut at its line feeds, a text falls into pieces. The line table has a line
for each of them, with the offset at which the piece begins; a line is shown without the carriage
return that may stand at its end.

* `linesFrom_behind` — behind a text that leaves no line open, the lines are those of the rest.
* `exists_closed_front` — every line stands behind such a text.
* `map_text_linesFrom` — the lines hold the pieces of the text.
* `lineSlice_of_getElem?` — a line is a slice of the text that ends before the next one.
* `lines_of_text` — the line table of a text, and how positions in a line agree with it.
-/

import StyleBaseline.Proofs.Text.Positions
import StyleBaseline.Proofs.Text.Stretches

namespace StyleBaseline

/-! ### First and last lines -/

/-- What stands in a text before its first line feed. -/
def firstLine (text : List Char) : List Char :=
  text.takeWhile (· ≠ '\n')

theorem firstLine_noFeed (text : List Char) : '\n' ∉ firstLine text := by
  intro member
  have kept := List.mem_takeWhile_imp (p := fun c => decide (c ≠ '\n')) member
  exact absurd rfl (of_decide_eq_true kept)

theorem firstLine_cons_of_ne {c : Char} (noFeed : c ≠ '\n') (text : List Char) :
    firstLine (c :: text) = c :: firstLine text :=
  List.takeWhile_cons_of_pos (decide_eq_true noFeed)

/-- The first line is the whole text, or a line feed stands behind it. -/
theorem firstLine_ends (text : List Char) :
    text = firstLine text ∨ ∃ rest, text = firstLine text ++ '\n' :: rest := by
  induction text with
  | nil => exact Or.inl rfl
  | cons c text ih =>
      by_cases feed : c = '\n'
      · subst feed
        exact Or.inr ⟨text, rfl⟩
      · rw [firstLine_cons_of_ne feed]
        refine ih.imp (congrArg (c :: ·)) fun ⟨rest, split⟩ => ⟨rest, ?_⟩
        rw [List.cons_append, ← split]

theorem lastLine_noFeed (before : List Char) : '\n' ∉ lastLine before := by
  intro member
  have kept := List.mem_takeWhile_imp (List.mem_reverse.mp member)
  exact absurd rfl (of_decide_eq_true kept)

/-- What stands in front of the last line leaves no line open. -/
theorem exists_front_lastLine (before : List Char) :
    ∃ front, before = front ++ lastLine before ∧ lastLine front = [] := by
  refine ⟨(before.reverse.dropWhile (· ≠ '\n')).reverse, ?_, ?_⟩
  · rw [lastLine, ← List.reverse_append, List.takeWhile_append_dropWhile, List.reverse_reverse]
  · cases behind : before.reverse.dropWhile (· ≠ '\n') with
    | nil => rfl
    | cons c rest =>
        have stops := List.head?_dropWhile_not (· ≠ '\n') before.reverse
        rw [behind] at stops
        have isFeed : c = '\n' := by simpa using stops
        rw [List.reverse_cons, isFeed, lastLine_append_feed]
        rfl

/-- With a character in front that is no line feed, a text that leaves no line open holds one. -/
theorem feed_mem_of_closed {c : Char} (noFeed : c ≠ '\n') {front : List Char}
    (closed : lastLine (c :: front) = []) : '\n' ∈ front := by
  by_contra free
  have whole : lastLine (c :: front) = c :: front :=
    lastLine_of_noFeed (List.not_mem_cons_of_ne_of_not_mem (Ne.symm noFeed) free)
  exact List.cons_ne_nil c front (whole ▸ closed)

/-- A text that leaves no line open still does so without its first character. -/
theorem closed_of_cons {c : Char} {front : List Char} (closed : lastLine (c :: front) = []) :
    lastLine front = [] := by
  by_cases feed : c = '\n'
  · subst feed
    exact (lastLine_append_feed [] front).symm.trans closed
  · have behind := lastLine_append [c] front
    rw [if_pos (feed_mem_of_closed feed closed), List.singleton_append, closed] at behind
    exact behind.symm

/-- **So many lines into a text** there is a front that leaves no line open. -/
theorem exists_closed_front {cs : List Char} {number : Nat} (within : number ≤ cs.count '\n') :
    ∃ front more, cs = front ++ more ∧ lastLine front = [] ∧ front.count '\n' = number := by
  induction number generalizing cs with
  | zero => exact ⟨[], cs, rfl, rfl, rfl⟩
  | succ number ih =>
      have feed : '\n' ∈ cs := List.count_pos_iff.mp (Nat.lt_of_lt_of_le number.succ_pos within)
      obtain ⟨piece, rest, rfl, free⟩ := List.eq_append_cons_of_mem feed
      have counts : (piece ++ '\n' :: rest).count '\n' = rest.count '\n' + 1 := by
        rw [List.count_append, List.count_eq_zero_of_not_mem free, List.count_cons_self,
          Nat.zero_add]
      rw [counts] at within
      obtain ⟨front, more, rfl, closed, count⟩ := ih (Nat.le_of_succ_le_succ within)
      refine ⟨piece ++ '\n' :: front, more, ?_, ?_, ?_⟩
      · rw [List.append_assoc, List.cons_append]
      · simp [closed]
      · rw [List.count_append, List.count_eq_zero_of_not_mem free, List.count_cons_self, count,
          Nat.zero_add]

/-! ### Where lines begin -/

theorem drop_succ_joinFirst (start count : Nat) (front : List Char) (lines : List Line) :
    (joinFirst start front lines).drop (count + 1) = lines.drop (count + 1) := by
  cases lines with
  | nil => exact List.drop_nil.trans List.drop_nil.symm
  | cons line rest => rfl

/-- **Behind a text that leaves no line open**, the lines are those of the rest. -/
theorem linesFrom_behind (here : Nat) {front : List Char} (closed : lastLine front = [])
    (more : List Char) :
    (linesFrom here (front ++ more)).drop (front.count '\n') =
      linesFrom (here + byteLength front) more := by
  induction front generalizing here with
  | nil => rfl
  | cons c front ih =>
      have behind := ih (here + c.utf8Size) (closed_of_cons closed)
      rw [List.cons_append, byteLength, ← Nat.add_assoc, ← behind]
      by_cases feed : c = '\n'
      · subst feed
        rw [linesFrom, if_pos rfl, List.count_cons_self, List.drop_succ_cons]
        rfl
      · -- the first line is not complete, so that what stands in front of it is dropped as well
        obtain ⟨count, counts⟩ := Nat.exists_eq_succ_of_ne_zero
          (Nat.ne_of_gt (List.count_pos_iff.mpr (feed_mem_of_closed feed closed)))
        rw [linesFrom_cons_of_ne feed, List.count_cons_of_ne feed, counts, Nat.succ_eq_add_one,
          drop_succ_joinFirst]

/-- The first line goes up to the first line feed. -/
@[simp]
theorem head?_linesFrom (here : Nat) (cs : List Char) :
    (linesFrom here cs).head? = some ⟨here, firstLine cs⟩ := by
  induction cs generalizing here with
  | nil => rfl
  | cons c cs ih =>
      by_cases feed : c = '\n'
      · subst feed
        rfl
      · obtain ⟨rest, split⟩ := List.head?_eq_some_iff.mp (ih (here + c.utf8Size))
        rw [linesFrom_cons_of_ne feed, split, firstLine_cons_of_ne feed]
        rfl

/-- **The line behind a text that leaves no line open.** -/
theorem getElem?_linesFrom (here : Nat) {front : List Char} (closed : lastLine front = [])
    (more : List Char) :
    (linesFrom here (front ++ more))[front.count '\n']? =
      some ⟨here + byteLength front, firstLine more⟩ := by
  rw [← List.head?_drop, linesFrom_behind here closed, head?_linesFrom]

/-! ### The pieces of a text -/

theorem length_splitOn {α : Type} [BEq α] (a : α) (items : List α) :
    (items.splitOn a).length = items.count a + 1 := by
  induction items with
  | nil => rfl
  | cons b items ih =>
      unfold List.splitOn at ih ⊢
      rw [List.splitOnP_cons_eq_if_modifyHead, List.count_cons]
      split
      · rw [List.length_cons, ih]
      · rw [List.length_modifyHead, ih, Nat.add_zero]

/-- **The lines of a text hold its pieces.** -/
@[simp]
theorem map_text_linesFrom (here : Nat) (cs : List Char) :
    (linesFrom here cs).map (·.text) = cs.splitOn '\n' := by
  induction cs generalizing here with
  | nil => rfl
  | cons c cs ih =>
      unfold List.splitOn at ih ⊢
      rw [List.splitOnP_cons_eq_if_modifyHead]
      by_cases feed : c = '\n'
      · rw [if_pos (beq_iff_eq.mpr feed), linesFrom, if_pos feed, List.map_cons, ih]
      · obtain ⟨rest, split⟩ := List.head?_eq_some_iff.mp (head?_linesFrom (here + c.utf8Size) cs)
        have noFeed : ¬ (c == '\n') = true := fun same => feed (beq_iff_eq.mp same)
        rw [if_neg noFeed, ← ih (here + c.utf8Size), linesFrom_cons_of_ne feed, split]
        rfl

@[simp]
theorem length_linesFrom (here : Nat) (cs : List Char) :
    (linesFrom here cs).length = cs.count '\n' + 1 := by
  rw [← length_splitOn, ← map_text_linesFrom here, List.length_map]

/-! ### Lines as slices -/

/-- **A line is a slice of its text.** It goes from the offset at which it begins to one byte before
the next line begins, or to the end of the text; both are boundaries, and what stands between them
is the piece of its number. -/
structure LineSlice (text : String) (number : Nat) (line : Line) (stop : Nat) : Prop where
  beforeNext : ∀ next, (LineTable.ofText text).lines[number + 1]? = some next →
    next.start = stop + 1
  last : (LineTable.ofText text).lines[number + 1]? = none → stop = text.utf8ByteSize
  ordered : line.start ≤ stop
  startValid : (⟨line.start⟩ : String.Pos.Raw).IsValid text
  stopValid : (⟨stop⟩ : String.Pos.Raw).IsValid text
  taken : (⟨line.start, stop⟩ : Span).textIn text = String.ofList line.text
  piece : (text.toList.splitOn '\n')[number]? = some line.text

theorem getElem?_splitOn {text : String} {number : Nat} {line : Line}
    (found : (LineTable.ofText text).lines[number]? = some line) :
    (text.toList.splitOn '\n')[number]? = some line.text := by
  rw [← map_text_linesFrom 0, List.getElem?_map]
  exact congrArg (Option.map (·.text)) found

/-- A line stands behind a text that leaves no line open. -/
theorem exists_front_of_getElem? {text : String} {number : Nat} {line : Line}
    (found : (LineTable.ofText text).lines[number]? = some line) :
    ∃ front more, text.toList = front ++ more ∧ lastLine front = [] ∧ front.count '\n' = number ∧
      line = ⟨byteLength front, firstLine more⟩ := by
  have within : number < (linesFrom 0 text.toList).length := (List.getElem?_eq_some_iff.mp found).1
  rw [length_linesFrom] at within
  obtain ⟨front, more, split, closed, count⟩ := exists_closed_front (Nat.le_of_lt_succ within)
  refine ⟨front, more, split, closed, count, ?_⟩
  have isLine := getElem?_linesFrom 0 closed more
  rw [← split, count, Nat.zero_add] at isLine
  exact Option.some.inj (found.symm.trans isLine)

/-- Where no line feed is left there is no further line. -/
theorem getElem?_linesFrom_last (here : Nat) (front : List Char) {more : List Char}
    (free : '\n' ∉ more) : (linesFrom here (front ++ more))[front.count '\n' + 1]? = none := by
  apply List.getElem?_eq_none
  simp [List.count_eq_zero_of_not_mem free]

/-- **The next line** begins behind the line feed that ends the one before. -/
theorem getElem?_linesFrom_next (here : Nat) (front : List Char) {piece : List Char}
    (free : '\n' ∉ piece) (rest : List Char) :
    (linesFrom here (front ++ (piece ++ '\n' :: rest)))[front.count '\n' + 1]? =
      some ⟨here + (byteLength (front ++ piece) + 1), firstLine rest⟩ := by
  have closed : lastLine (front ++ piece ++ ['\n']) = [] := lastLine_append_feed _ []
  have counts : (front ++ piece ++ ['\n']).count '\n' = front.count '\n' + 1 := by
    rw [List.count_append, List.count_append, List.count_eq_zero_of_not_mem free]
    rfl
  have bytes : byteLength (front ++ piece ++ ['\n']) = byteLength (front ++ piece) + 1 :=
    byteLength_append _ _
  have next := getElem?_linesFrom here closed rest
  rw [counts, bytes] at next
  rw [← next]
  simp only [List.append_assoc, List.singleton_append]

/-- **A line of a table is a slice of the text.** -/
theorem lineSlice_of_getElem? {text : String} {number : Nat} {line : Line}
    (found : (LineTable.ofText text).lines[number]? = some line) :
    ∃ stop, LineSlice text number line stop := by
  have piece := getElem?_splitOn found
  obtain ⟨front, more, split, closed, rfl, rfl⟩ := exists_front_of_getElem? found
  have lines : (LineTable.ofText text).lines = linesFrom 0 (front ++ more) := by
    rw [← split]
    rfl
  obtain ⟨rest, behind⟩ : firstLine more <+: more := List.takeWhile_prefix _
  have stretch : text.toList = front ++ (firstLine more ++ rest) := by rw [split, behind]
  have whole : text.toList = (front ++ firstLine more) ++ rest := by
    rw [stretch, List.append_assoc]
  refine ⟨byteLength (front ++ firstLine more), ?_, ?_, ?_, isValid_of_split split,
    isValid_of_split whole, ?_, piece⟩
  · intro next isNext
    rw [lines] at isNext
    rcases firstLine_ends more with free | ⟨rest, feed⟩
    · rw [getElem?_linesFrom_last 0 front (free ▸ firstLine_noFeed more)] at isNext
      exact nomatch isNext
    · rw [feed, getElem?_linesFrom_next 0 front (firstLine_noFeed more)] at isNext
      rw [← Option.some.inj isNext, Nat.zero_add]
  · intro isLast
    rw [lines] at isLast
    rcases firstLine_ends more with free | ⟨rest, feed⟩
    · rw [← free, utf8ByteSize_eq_byteLength, split]
    · rw [feed, getElem?_linesFrom_next 0 front (firstLine_noFeed more)] at isLast
      exact nomatch isLast
  · rw [byteLength_append]
    exact Nat.le_add_right _ _
  · rw [byteLength_append]
    exact textIn_of_split stretch

/-! ### What is shown of a line -/

/-- A number is written in digits. -/
theorem isDigit_of_mem_toString {n : Nat} {c : Char} (member : c ∈ (toString n).toList) :
    c.isDigit = true := by
  have inDigits : c ∈ (Nat.repr n).toList := member
  rw [Nat.toList_repr] at inDigits
  exact Nat.isDigit_of_mem_toDigits (by decide) (by decide) inDigits

/-- **A line is shown without one carriage return at its end**, if there is one. -/
def ShownAs (piece shown : List Char) : Prop :=
  piece = shown ++ ['\r'] ∨ (piece = shown ∧ piece.getLast? ≠ some '\r')

theorem shownAs_dropFinalReturn (piece : List Char) : ShownAs piece (dropFinalReturn piece) := by
  unfold dropFinalReturn
  by_cases isReturn : piece.getLast? = some '\r'
  · rw [if_pos isReturn]
    exact Or.inl (List.dropLast_append_getLast? '\r' isReturn).symm
  · rw [if_neg isReturn]
    exact Or.inr ⟨rfl, isReturn⟩

theorem lineText?_eq_some {text : String} {number : Nat} {piece : List Char}
    (found : (text.toList.splitOn '\n')[number]? = some piece) :
    (LineTable.ofText text).lineText? (number + 1) =
      some (String.ofList (dropFinalReturn piece)) := by
  rw [← map_text_linesFrom 0, List.getElem?_map] at found
  obtain ⟨line, isLine, rfl⟩ := Option.map_eq_some_iff.mp found
  have isLine : (LineTable.ofText text).lines[number]? = some line := isLine
  rw [LineTable.lineText?, isLine, Option.map_some]

theorem lineCount_ofText (text : String) :
    (LineTable.ofText text).lineCount = text.toList.count '\n' + 1 :=
  length_linesFrom 0 text.toList

theorem isSome_lineText?_iff {text : String} {number : Nat} :
    ((LineTable.ofText text).lineText? number).isSome ↔
      1 ≤ number ∧ number ≤ (LineTable.ofText text).lineCount := by
  unfold LineTable.lineText? LineTable.lineCount
  cases number with
  | zero => simp
  | succ number =>
      rw [Option.isSome_map, isSome_getElem?]
      exact (and_iff_right (Nat.le_add_left 1 number)).symm

/-! ### Positions in a line -/

/-- **A position in its line.** The characters of the line before it are those between the offset at
which the line begins and the offset of the position. -/
structure InLine (text : String) (offset : Nat) (position : Position) (line : Line) : Prop where
  found : (LineTable.ofText text).lines[position.line - 1]? = some line
  piece : (text.toList.splitOn '\n')[position.line - 1]? = some line.text
  reached : line.start ≤ offset
  within : position.column - 1 ≤ line.text.length
  taken : (⟨line.start, offset⟩ : Span).textIn text =
    String.ofList (line.text.take (position.column - 1))

/-- **The line of a place** is what stands before it back to the last line feed, and behind it up to
the next one. -/
theorem getElem?_lines_of_split {text : String} {before after : List Char}
    (split : text.toList = before ++ after) :
    ∃ front, before = front ++ lastLine before ∧
      (LineTable.ofText text).lines[before.count '\n']? =
        some ⟨byteLength front, lastLine before ++ firstLine after⟩ := by
  obtain ⟨front, apart, closed⟩ := exists_front_lastLine before
  have free : '\n' ∉ lastLine before := lastLine_noFeed before
  have counts : front.count '\n' = before.count '\n' := by
    conv_rhs => rw [apart, List.count_append, List.count_eq_zero_of_not_mem free, Nat.add_zero]
  have stretch : text.toList = front ++ (lastLine before ++ after) := by
    rw [split, ← List.append_assoc, ← apart]
  have line : firstLine (lastLine before ++ after) = lastLine before ++ firstLine after :=
    List.takeWhile_append_of_pos fun c member =>
      decide_eq_true fun isFeed => free (isFeed ▸ member)
  have isLine := getElem?_linesFrom 0 closed (lastLine before ++ after)
  rw [← stretch, counts, line, Nat.zero_add] at isLine
  exact ⟨front, apart, isLine⟩

theorem exists_inLine {text : String} {before after : List Char}
    (split : text.toList = before ++ after) :
    ∃ line, InLine text (byteLength before) (positionBehind before) line := by
  obtain ⟨front, apart, isLine⟩ := getElem?_lines_of_split split
  have bytes : byteLength before = byteLength front + byteLength (lastLine before) := by
    conv_lhs => rw [apart, byteLength_append]
  have stretch : text.toList = front ++ (lastLine before ++ after) := by
    rw [split, ← List.append_assoc, ← apart]
  refine ⟨⟨byteLength front, lastLine before ++ firstLine after⟩, isLine,
    getElem?_splitOn isLine, ?_, ?_, ?_⟩
  · rw [bytes]
    exact Nat.le_add_right _ _
  · show (lastLine before).length ≤ (lastLine before ++ firstLine after).length
    rw [List.length_append]
    exact Nat.le_add_right _ _
  · show _ = String.ofList ((lastLine before ++ firstLine after).take (lastLine before).length)
    rw [bytes, List.take_left]
    exact textIn_of_split stretch

end StyleBaseline
