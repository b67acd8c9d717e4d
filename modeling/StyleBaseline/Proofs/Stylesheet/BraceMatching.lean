/-
**Which braces are unmatched.** By the usual nesting a closing brace has as its partner the nearest
opening brace before it that is still without one. The faults of a source are the braces that this
leaves over, and no other token has a part in them.

* `Partners` — the partner of a closing brace, by recursion on its place.
* `Scanner.Holds` — the pass holds the opening braces that wait for a partner: what one token keeps,
  and a run (`holds_after`).
* `Scanner.Layered` — what lies between the blocks still open is balanced: the step and the run.
* `faults_unmatched` — the faults of a source.
-/

import Mathlib.Order.Bounds.Basic
import StyleBaseline.Proofs.Stylesheet.Concatenation

namespace StyleBaseline

/-! ### Partners -/

/-- **The partner of a closing brace** is the last of the opening braces before it that no earlier
closing brace has for a partner. -/
def Partners (run : List Token) (closing opening : Nat) : Prop :=
  kindAt run closing = some .rightBrace ∧
    IsGreatest {place | place < closing ∧ kindAt run place = some .leftBrace ∧
      ∀ earlier, earlier < closing → ¬ Partners run earlier place} opening
termination_by closing

/-- An opening brace among the first tokens of a run that has no partner among them. -/
def Waits (run : List Token) (count place : Nat) : Prop :=
  place < count ∧ kindAt run place = some .leftBrace ∧
    ∀ earlier, earlier < count → ¬ Partners run earlier place

theorem partners_iff {run : List Token} {closing opening : Nat} :
    Partners run closing opening ↔
      kindAt run closing = some .rightBrace ∧
        IsGreatest {place | Waits run closing place} opening := by
  rw [Partners]
  rfl

/-- Words of braces in which each brace has a partner. -/
inductive Balanced : List TokenKind → Prop
  | empty : Balanced []
  | block {inner later : List TokenKind} : Balanced inner → Balanced later →
      Balanced (.leftBrace :: (inner ++ .rightBrace :: later))

theorem Balanced.append {first second : List TokenKind} (balanced : Balanced first)
    (others : Balanced second) : Balanced (first ++ second) := by
  induction balanced with
  | empty => exact others
  | block inner _ _ ih =>
      have split := Balanced.block inner ih
      simpa using split

/-! ### What waits behind a token -/

section Waits

variable {run : List Token} {count : Nat}

/-- A token that is no closing brace is nobody's partner. -/
theorem waits_succ_of_ne (noClosing : kindAt run count ≠ some .rightBrace) (place : Nat) :
    Waits run (count + 1) place ↔
      Waits run count place ∨ (place = count ∧ kindAt run count = some .leftBrace) := by
  have alone : ∀ opening, ¬ Partners run count opening := fun opening partner =>
    noClosing (partners_iff.mp partner).1
  constructor
  · rintro ⟨within, isOpening, free⟩
    rcases Nat.lt_succ_iff_lt_or_eq.mp within with before | rfl
    · exact Or.inl ⟨before, isOpening, fun earlier isEarlier => free earlier (by omega)⟩
    · exact Or.inr ⟨rfl, isOpening⟩
  · rintro (⟨before, isOpening, free⟩ | ⟨rfl, isOpening⟩)
    · refine ⟨by omega, isOpening, fun earlier isEarlier partner => ?_⟩
      rcases Nat.lt_succ_iff_lt_or_eq.mp isEarlier with isBefore | rfl
      · exact free earlier isBefore partner
      · exact alone place partner
    · refine ⟨by omega, isOpening, fun earlier isEarlier partner => ?_⟩
      have ahead := (partners_iff.mp partner).2.1.1
      omega

/-- A closing brace takes the last opening brace that waits. -/
theorem waits_succ_of_rightBrace (isClosing : kindAt run count = some .rightBrace) (place : Nat) :
    Waits run (count + 1) place ↔ Waits run count place ∧ ¬ Partners run count place := by
  constructor
  · rintro ⟨within, isOpening, free⟩
    have before : place < count := by
      rcases Nat.lt_succ_iff_lt_or_eq.mp within with before | rfl
      · exact before
      · rw [isClosing] at isOpening
        exact absurd isOpening (by decide)
    exact ⟨⟨before, isOpening, fun earlier isEarlier => free earlier (by omega)⟩,
      free count (Nat.lt_succ_self count)⟩
  · rintro ⟨⟨before, isOpening, free⟩, unpaired⟩
    refine ⟨by omega, isOpening, fun earlier isEarlier partner => ?_⟩
    rcases Nat.lt_succ_iff_lt_or_eq.mp isEarlier with isBefore | rfl
    · exact free earlier isBefore partner
    · exact unpaired partner

/-- The partner of a closing brace is the first of the waiting ones, listed from the last on. -/
theorem partners_head_iff {last : Nat} {others : List Nat}
    (isClosing : kindAt run count = some .rightBrace)
    (descending : (last :: others).Pairwise (· > ·))
    (waiting : ∀ place, place ∈ last :: others ↔ Waits run count place) (place : Nat) :
    Partners run count place ↔ place = last := by
  have greatest : IsGreatest {place | Waits run count place} last := by
    refine ⟨(waiting last).mp List.mem_cons_self, fun other waits => ?_⟩
    rcases List.mem_cons.mp ((waiting other).mpr waits) with rfl | member
    · exact Nat.le_refl other
    · exact Nat.le_of_lt ((List.pairwise_cons.mp descending).1 other member)
  rw [partners_iff, and_iff_right isClosing]
  constructor
  · exact fun other => other.unique greatest
  · rintro rfl
    exact greatest

end Waits

/-! ### What the pass holds -/

namespace Scanner

/-- **The pass holds what waits**: the spans of the open blocks are those of the opening braces that
wait behind the first tokens of a run, the last one first. -/
def Holds (run : List Token) (count : Nat) (scanner : Scanner) : Prop :=
  ∃ places : List Nat, places.Pairwise (· > ·) ∧ (∀ place, place ∈ places ↔ Waits run count place) ∧
    scanner.openBlocks.map some = places.map fun place => run[place]?.map (·.span)

theorem holds_initial (run : List Token) : Holds run 0 initial :=
  ⟨[], List.Pairwise.nil, fun place => by simp [Waits], rfl⟩

/-- **The step.** An opening brace begins to wait; a closing one takes the last that waits. -/
theorem Holds.step {run : List Token} {count : Nat} {scanner : Scanner} {token : Token}
    (holds : Holds run count scanner) (here : run[count]? = some token)
    (notEnd : token.kind ≠ .eof) : Holds run (count + 1) (scanner.step token) := by
  obtain ⟨places, descending, waiting, spans⟩ := holds
  have kind : kindAt run count = some token.kind := by rw [kindAt, here, Option.map_some]
  cases isKind : token.kind with
  | leftBrace =>
      rw [isKind] at kind
      refine ⟨count :: places, List.pairwise_cons.mpr ⟨fun place member => ?_, descending⟩,
        fun place => ?_, ?_⟩
      · exact ((waiting place).mp member).1
      · rw [waits_succ_of_ne (by rw [kind]; decide), List.mem_cons, waiting]
        simp [kind, or_comm]
      · rw [openBlocks_step, isKind]
        simp [here, spans]
  | rightBrace =>
      rw [isKind] at kind
      cases places with
      | nil =>
          have noBlock : scanner.openBlocks = [] := by simpa using spans
          refine ⟨[], List.Pairwise.nil, fun place => ?_, ?_⟩
          · rw [waits_succ_of_rightBrace kind, ← waiting]
            simp
          · rw [openBlocks_step, isKind, noBlock]
            rfl
      | cons last others =>
          obtain ⟨behind, descendingOthers⟩ := List.pairwise_cons.mp descending
          refine ⟨others, descendingOthers, fun place => ?_, ?_⟩
          · rw [waits_succ_of_rightBrace kind, partners_head_iff kind descending waiting, ← waiting,
              List.mem_cons]
            constructor
            · exact fun member => ⟨Or.inr member, Nat.ne_of_lt (behind place member)⟩
            · rintro ⟨rfl | member, other⟩
              · exact absurd rfl other
              · exact member
          · rw [openBlocks_step, isKind]
            show scanner.openBlocks.tail.map some = _
            rw [List.map_tail, spans, List.map_cons, List.tail_cons]
  | eof => exact absurd isKind notEnd
  | comment | string | url | ident | atKeyword | semicolon | colon | delim | error =>
      rw [isKind] at kind
      refine ⟨places, descending, fun place => ?_, ?_⟩
      · rw [waits_succ_of_ne (by rw [kind]; decide), waiting, kind]
        simp
      · rw [openBlocks_step, isKind]
        exact spans

/-- A closing brace is without a partner if no block is open. -/
theorem Holds.openBlocks_eq_nil_iff {run : List Token} {count : Nat} {scanner : Scanner}
    (holds : Holds run count scanner) (isClosing : kindAt run count = some .rightBrace) :
    scanner.openBlocks = [] ↔ ∀ opening, ¬ Partners run count opening := by
  obtain ⟨places, descending, waiting, spans⟩ := holds
  have empty : scanner.openBlocks = [] ↔ places = [] := by
    rw [← List.map_eq_nil_iff (f := some), spans, List.map_eq_nil_iff]
  rw [empty]
  cases places with
  | nil =>
      refine iff_of_true rfl fun opening partner => ?_
      exact List.not_mem_nil ((waiting opening).mpr (partners_iff.mp partner).2.1)
  | cons last others =>
      refine iff_of_false (List.cons_ne_nil _ _) fun unpaired => unpaired last ?_
      exact (partners_head_iff isClosing descending waiting last).mpr rfl

/-- A block is open if its brace waits. -/
theorem Holds.mem_openBlocks_iff {run : List Token} {count : Nat} {scanner : Scanner}
    (holds : Holds run count scanner) (span : Span) :
    span ∈ scanner.openBlocks ↔
      ∃ place token, run[place]? = some token ∧ token.span = span ∧ Waits run count place := by
  obtain ⟨places, _, waiting, spans⟩ := holds
  have held : span ∈ scanner.openBlocks ↔ some span ∈ scanner.openBlocks.map some := by simp
  rw [held, spans, List.mem_map]
  constructor
  · rintro ⟨place, member, found⟩
    obtain ⟨token, here, rfl⟩ := Option.map_eq_some_iff.mp found
    exact ⟨place, token, here, rfl, (waiting place).mp member⟩
  · rintro ⟨place, token, here, rfl, waits⟩
    exact ⟨place, (waiting place).mpr waits, by rw [here, Option.map_some]⟩

/-- **A whole run** up to its end. -/
theorem holds_after {body : List Token} (inner : ∀ token ∈ body, token.kind ≠ .eof)
    (more : List Token) {count : Nat} (within : count ≤ body.length) :
    Holds (body ++ more) count (initial.after (body.take count)) := by
  induction count with
  | zero => exact holds_initial _
  | succ count ih =>
      have inBody : count < body.length := within
      have here : (body ++ more)[count]? = some body[count] := by
        rw [List.getElem?_append_left inBody, List.getElem?_eq_getElem inBody]
      have later := (ih (Nat.le_of_lt inBody)).step here (inner _ (List.getElem_mem inBody))
      rw [List.take_succ_eq_append_getElem inBody, after, List.foldl_append]
      exact later

/-! ### A fault and its place -/

theorem mem_faults_iff {scanner : Scanner} {run : List Token} {fault : BlockFault} :
    fault ∈ scanner.faults run ↔ ∃ place token, run[place]? = some token ∧
      fault ∈ (scanner.after (run.take place)).faultsAt token := by
  induction run generalizing scanner with
  | nil => simp [faults]
  | cons token run ih =>
      rw [faults, List.mem_append, ih]
      constructor
      · rintro (shown | ⟨place, later, here, shown⟩)
        · exact ⟨0, token, rfl, shown⟩
        · exact ⟨place + 1, later, here, shown⟩
      · rintro ⟨_ | place, later, here, shown⟩
        · obtain rfl : token = later := Option.some.inj here
          exact Or.inl shown
        · exact Or.inr ⟨place, later, here, shown⟩

section Unmatched

variable {body : List Token} {last : Token}

/-- What is not the end of a run stands before it. -/
theorem lt_of_kindAt (isLast : last.kind = .eof) {place : Nat} {kind : TokenKind}
    (found : kindAt (body ++ [last]) place = some kind) (notEnd : kind ≠ .eof) :
    place < body.length := by
  by_contra beyond
  obtain ⟨token, here, rfl⟩ := Option.map_eq_some_iff.mp found
  rw [List.getElem?_append_right (Nat.le_of_not_lt beyond)] at here
  rw [List.mem_singleton.mp (List.mem_of_getElem? here)] at notEnd
  exact notEnd isLast

/-- Before the end of a run no block is reported to be open. -/
theorem kind_of_mem_faults (inner : ∀ token ∈ body, token.kind ≠ .eof) {scanner : Scanner}
    {fault : BlockFault} (member : fault ∈ scanner.faults body) :
    fault.kind = .unexpectedCloseBrace := by
  obtain ⟨place, token, here, shown⟩ := mem_faults_iff.mp member
  have notEnd := inner token (List.mem_of_getElem? here)
  rw [faultsAt] at shown
  split at shown
  · split at shown
    · rw [List.mem_singleton.mp shown]
    · exact absurd shown List.not_mem_nil
  · exact absurd ‹_› notEnd
  · exact absurd shown List.not_mem_nil

/-- The faults of a run: those before its end, and then the blocks that are open there. -/
theorem faults_concat_eof (isLast : last.kind = .eof) (scanner : Scanner) :
    scanner.faults (body ++ [last]) =
      scanner.faults body ++ (scanner.after body).openBlocks.reverse.map
        fun span => ⟨.unclosedBlock, span⟩ := by
  simp [faults, faultsAt, isLast]

/-- **The closing braces that are reported** are those without a partner. -/
theorem unexpectedCloseBrace_mem_faults_iff (inner : ∀ token ∈ body, token.kind ≠ .eof)
    (isLast : last.kind = .eof) (span : Span) :
    ⟨.unexpectedCloseBrace, span⟩ ∈ initial.faults (body ++ [last]) ↔
      ∃ place token, (body ++ [last])[place]? = some token ∧ token.kind = .rightBrace ∧
        token.span = span ∧ ∀ opening, ¬ Partners (body ++ [last]) place opening := by
  have before : ⟨.unexpectedCloseBrace, span⟩ ∈ initial.faults (body ++ [last]) ↔
      ⟨.unexpectedCloseBrace, span⟩ ∈ initial.faults body := by
    rw [faults_concat_eof isLast, List.mem_append]
    simp
  rw [before, mem_faults_iff]
  constructor
  · rintro ⟨place, token, here, shown⟩
    have within : place < body.length := (List.getElem?_eq_some_iff.mp here).1
    have inRun : (body ++ [last])[place]? = some token := by
      rw [List.getElem?_append_left within, here]
    have notEnd := inner token (List.mem_of_getElem? here)
    rw [faultsAt] at shown
    split at shown
    · rename_i isClosing
      have kind : kindAt (body ++ [last]) place = some .rightBrace := by
        rw [kindAt, inRun, Option.map_some, isClosing]
      split at shown
      · rename_i noBlock
        obtain rfl : span = token.span := congrArg BlockFault.span (List.mem_singleton.mp shown)
        have holds := holds_after inner [last] (Nat.le_of_lt within)
        exact ⟨place, token, inRun, isClosing, rfl,
          (holds.openBlocks_eq_nil_iff kind).mp (List.isEmpty_iff.mp noBlock)⟩
      · exact absurd shown List.not_mem_nil
    · exact absurd ‹_› notEnd
    · exact absurd shown List.not_mem_nil
  · rintro ⟨place, token, here, isClosing, rfl, unpaired⟩
    have kind : kindAt (body ++ [last]) place = some .rightBrace := by
      rw [kindAt, here, Option.map_some, isClosing]
    have within : place < body.length := lt_of_kindAt isLast kind (by decide)
    have holds := holds_after inner [last] (Nat.le_of_lt within)
    have noBlock := (holds.openBlocks_eq_nil_iff kind).mpr unpaired
    rw [List.getElem?_append_left within] at here
    refine ⟨place, token, here, ?_⟩
    rw [faultsAt, isClosing]
    simp [noBlock]

/-- **The opening braces that are reported** are those without a partner. -/
theorem unclosedBlock_mem_faults_iff (inner : ∀ token ∈ body, token.kind ≠ .eof)
    (isLast : last.kind = .eof) (span : Span) :
    ⟨.unclosedBlock, span⟩ ∈ initial.faults (body ++ [last]) ↔
      ∃ place token, (body ++ [last])[place]? = some token ∧ token.kind = .leftBrace ∧
        token.span = span ∧ ∀ closing, ¬ Partners (body ++ [last]) closing place := by
  have atEnd : ⟨.unclosedBlock, span⟩ ∈ initial.faults (body ++ [last]) ↔
      span ∈ (initial.after body).openBlocks := by
    have notBefore : ⟨.unclosedBlock, span⟩ ∉ initial.faults body := fun member =>
      BlockFaultKind.noConfusion (kind_of_mem_faults inner member)
    rw [faults_concat_eof isLast, List.mem_append, or_iff_right notBefore]
    simp
  have holds := holds_after inner [last] (Nat.le_refl body.length)
  rw [List.take_length] at holds
  rw [atEnd, holds.mem_openBlocks_iff]
  refine exists_congr fun place => exists_congr fun token => and_congr_right fun here => ?_
  have kind : kindAt (body ++ [last]) place = some token.kind := by
    rw [kindAt, here, Option.map_some]
  constructor
  · rintro ⟨rfl, _, isOpening, free⟩
    refine ⟨Option.some.inj (kind.symm.trans isOpening), rfl, fun closing partner => ?_⟩
    have isClosing := (partners_iff.mp partner).1
    exact free closing (lt_of_kindAt isLast isClosing (by decide)) partner
  · rintro ⟨isOpening, rfl, unpaired⟩
    rw [isOpening] at kind
    exact ⟨rfl, lt_of_kindAt isLast kind (by decide), kind, fun closing _ => unpaired closing⟩

end Unmatched

/-! ### What is left when the reported braces are deleted -/

/-- **What lies between the open blocks is balanced**: the given braces are a balanced word, and for
each open block its brace and another balanced word behind it. -/
inductive Layered : List Token → List Span → Prop
  | ground {kept : List Token} : Balanced (kept.map (·.kind)) → Layered kept []
  | block {kept inner : List Token} {blocks : List Span} {opening : Token} :
      Layered kept blocks → opening.kind = .leftBrace → Balanced (inner.map (·.kind)) →
        Layered (kept ++ opening :: inner) (opening.span :: blocks)

theorem Layered.append {kept more : List Token} {blocks : List Span} (layered : Layered kept blocks)
    (balanced : Balanced (more.map (·.kind))) : Layered (kept ++ more) blocks := by
  cases layered with
  | ground ground =>
      refine .ground ?_
      rw [List.map_append]
      exact ground.append balanced
  | block outer isOpening inner =>
      rw [List.append_assoc, List.cons_append]
      refine .block outer isOpening ?_
      rw [List.map_append]
      exact inner.append balanced

/-- A closing brace makes a balanced word of the innermost block. -/
theorem Layered.close {kept : List Token} {blocks : List Span} {innermost : Span} {token : Token}
    (layered : Layered kept (innermost :: blocks)) (isClosing : token.kind = .rightBrace) :
    Layered (kept ++ [token]) blocks := by
  cases layered with
  | @block kept inner _ opening outer isOpening balanced =>
      rw [List.append_assoc]
      refine outer.append ?_
      have nested := Balanced.block balanced .empty
      simpa [isOpening, isClosing] using nested

/-- The open blocks are among the given braces. -/
theorem Layered.subset {kept : List Token} {blocks : List Span} (layered : Layered kept blocks) :
    blocks ⊆ kept.map (·.span) := by
  induction layered with
  | ground => exact List.nil_subset _
  | block _ _ _ ih =>
      rw [List.map_append, List.map_cons]
      refine List.cons_subset.mpr ⟨?_, List.Subset.trans ih (List.subset_append_left _ _)⟩
      exact List.mem_append_right _ List.mem_cons_self

/-- **Without the braces of the open blocks** what is left is balanced. -/
theorem Layered.balanced_filter {kept : List Token} {blocks : List Span}
    (layered : Layered kept blocks) (distinct : (kept.map (·.span)).Nodup) :
    Balanced ((kept.filter (·.span ∉ blocks)).map (·.kind)) := by
  induction layered with
  | ground balanced => simpa using balanced
  | @block kept inner blocks opening outer isOpening balanced ih =>
      rw [List.map_append, List.map_cons, List.nodup_append, List.nodup_cons] at distinct
      obtain ⟨distinctKept, ⟨notInner, _⟩, apart⟩ := distinct
      have below : kept.filter (·.span ∉ opening.span :: blocks) =
          kept.filter (·.span ∉ blocks) := by
        refine List.filter_congr fun token member => ?_
        have other : token.span ≠ opening.span :=
          apart _ (List.mem_map_of_mem member) _ List.mem_cons_self
        simp [other]
      have inside : inner.filter (·.span ∉ opening.span :: blocks) = inner := by
        refine List.filter_eq_self.mpr fun token member => decide_eq_true ?_
        have inSpans : token.span ∈ inner.map (·.span) := List.mem_map_of_mem member
        intro member
        rcases List.mem_cons.mp member with same | isBlock
        · exact notInner (same ▸ inSpans)
        · exact apart _ (outer.subset isBlock) _ (List.mem_cons_of_mem _ inSpans) rfl
      rw [List.filter_append, List.filter_cons_of_neg (by simp), below, inside, List.map_append]
      exact (ih distinctKept).append balanced

end Scanner

/-- The braces of a run without those that are reported. -/
def unreported (reported : List BlockFault) (run : List Token) : List Token :=
  (braces run).filter (·.span ∉ reported.map (·.span))

section Unreported

variable {reported : List BlockFault} {past : List Token} {token : Token}

theorem braces_concat (past : List Token) (token : Token) :
    braces (past ++ [token]) = braces past ++ if token.kind.isBrace then [token] else [] := by
  rw [braces, List.filter_append]
  by_cases isBrace : token.kind.isBrace <;> simp [isBrace, braces]

theorem unreported_concat_of_not_brace (noBrace : ¬ token.kind.isBrace) :
    unreported reported (past ++ [token]) = unreported reported past := by
  rw [unreported, braces_concat, if_neg noBrace, List.append_nil]
  rfl

theorem unreported_concat_of_notMem (isBrace : token.kind.isBrace)
    (notReported : token.span ∉ reported.map (·.span)) :
    unreported reported (past ++ [token]) = unreported reported past ++ [token] := by
  rw [unreported, braces_concat, if_pos isBrace, List.filter_append,
    List.filter_cons_of_pos (by simpa using notReported), List.filter_nil]
  rfl

theorem unreported_concat_of_reported {fault : BlockFault} (isBrace : token.kind.isBrace)
    (isReported : fault.span = token.span) (new : token.span ∉ (braces past).map (·.span)) :
    unreported (reported ++ [fault]) (past ++ [token]) = unreported reported past := by
  have before : unreported (reported ++ [fault]) past = unreported reported past := by
    refine List.filter_congr fun other member => ?_
    have apart : other.span ≠ token.span := fun meets => new (meets ▸ List.mem_map_of_mem member)
    simp [isReported, apart]
  rw [← before, unreported, braces_concat, if_pos isBrace, List.filter_append,
    List.filter_cons_of_neg (by simp [isReported]), List.filter_nil, List.append_nil]
  rfl

end Unreported

namespace Scanner

/-- **The step.** An opening brace begins a layer; a closing one ends a layer or is reported. -/
theorem Layered.step {scanner : Scanner} {reported : List BlockFault} {past : List Token}
    {token : Token} (layered : Layered (unreported reported past) scanner.openBlocks)
    (notEnd : token.kind ≠ .eof) (within : reported.map (·.span) ⊆ (braces past).map (·.span))
    (new : token.kind.isBrace → token.span ∉ (braces past).map (·.span)) :
    Layered (unreported (reported ++ scanner.faultsAt token) (past ++ [token]))
      (scanner.step token).openBlocks := by
  rw [openBlocks_step, faultsAt]
  cases isKind : token.kind with
  | leftBrace =>
      have isBrace : token.kind.isBrace := by rw [isKind]; rfl
      show Layered (unreported (reported ++ []) (past ++ [token])) _
      rw [List.append_nil, unreported_concat_of_notMem isBrace fun member =>
        new isBrace (within member)]
      exact .block layered isKind .empty
  | rightBrace =>
      have isBrace : token.kind.isBrace := by rw [isKind]; rfl
      cases blocks : scanner.openBlocks with
      | nil =>
          show Layered (unreported (reported ++ [⟨.unexpectedCloseBrace, token.span⟩])
            (past ++ [token])) []
          rw [unreported_concat_of_reported isBrace rfl (new isBrace), ← blocks]
          exact layered
      | cons innermost others =>
          rw [blocks] at layered
          show Layered (unreported (reported ++ []) (past ++ [token])) others
          rw [List.append_nil, unreported_concat_of_notMem isBrace fun member =>
            new isBrace (within member)]
          exact layered.close isKind
  | eof => exact absurd isKind notEnd
  | comment | string | url | ident | atKeyword | semicolon | colon | delim | error =>
      show Layered (unreported (reported ++ []) (past ++ [token])) scanner.openBlocks
      rw [List.append_nil, unreported_concat_of_not_brace (by rw [isKind]; decide)]
      exact layered

/-- **A whole run**, token by token. -/
theorem layered_after {run : List Token} (inner : ∀ token ∈ run, token.kind ≠ .eof)
    (distinct : ((braces run).map (·.span)).Nodup) :
    Layered (unreported (initial.faults run) run) (initial.after run).openBlocks := by
  induction run using List.reverseRecOn with
  | nil => exact .ground .empty
  | append_singleton past token ih =>
      rw [braces_concat, List.map_append, List.nodup_append] at distinct
      have layered := ih (fun other member => inner other (List.mem_append_left _ member))
        distinct.1
      have faults : initial.faults (past ++ [token]) =
          initial.faults past ++ (initial.after past).faultsAt token := by
        simp [Scanner.faults]
      have after : initial.after (past ++ [token]) = (initial.after past).step token := by
        rw [Scanner.after, List.foldl_append]
        rfl
      rw [faults, after]
      refine layered.step (inner token (by simp)) (initial.faults_sublist past).subset ?_
      intro isBrace member
      exact distinct.2.2 _ member _ (by simp [isBrace]) rfl

/-- **What is left of a run to its end is balanced** when the reported braces are deleted. -/
theorem balanced_unreported {body : List Token} {last : Token}
    (inner : ∀ token ∈ body, token.kind ≠ .eof) (isLast : last.kind = .eof)
    (distinct : ((braces body).map (·.span)).Nodup) :
    Balanced ((unreported (initial.faults (body ++ [last])) (body ++ [last])).map (·.kind)) := by
  have noBrace : ¬ last.kind.isBrace := by
    rw [isLast]
    decide
  have layered := layered_after inner distinct
  have distinctKept : ((unreported (initial.faults body) body).map (·.span)).Nodup :=
    distinct.sublist (List.filter_sublist.map _)
  have spans : (initial.faults (body ++ [last])).map (·.span) =
      (initial.faults body).map (·.span) ++ (initial.after body).openBlocks.reverse := by
    rw [faults_concat_eof isLast, List.map_append, List.map_map]
    exact congrArg _ (List.map_id _)
  have left : unreported (initial.faults (body ++ [last])) body =
      (unreported (initial.faults body) body).filter
        (·.span ∉ (initial.after body).openBlocks) := by
    rw [unreported, unreported, List.filter_filter, spans]
    refine List.filter_congr fun token _ => ?_
    rw [← Bool.decide_and, decide_eq_decide, List.mem_append, not_or, List.mem_reverse, and_comm]
  rw [unreported_concat_of_not_brace noBrace, left]
  exact layered.balanced_filter distinctKept

/-! ### The tokens that count -/

/-- Only the braces and the end of a run show in its faults. -/
theorem faults_filter (run : List Token) {scanner other : Scanner}
    (same : scanner.openBlocks = other.openBlocks) :
    scanner.faults (run.filter fun token => token.kind.isBrace ∨ token.kind = .eof) =
      other.faults run := by
  induction run generalizing scanner other with
  | nil => rfl
  | cons token run ih =>
      have shown : scanner.faultsAt token = other.faultsAt token := by
        rw [faultsAt, faultsAt, same]
      have behind : (scanner.step token).openBlocks = (other.step token).openBlocks := by
        rw [openBlocks_step, openBlocks_step, same]
      by_cases counts : token.kind.isBrace ∨ token.kind = .eof
      · rw [List.filter_cons_of_pos (by simpa using counts), faults, faults, shown, ih behind]
      · have passed : other.faultsAt token = [] ∧
            scanner.openBlocks = (other.step token).openBlocks := by
          rw [same, openBlocks_step, faultsAt]
          cases isKind : token.kind <;> simp_all [TokenKind.isBrace]
        rw [List.filter_cons_of_neg (by simpa using counts), faults, passed.1, List.nil_append,
          ih passed.2]

end Scanner

/-! ### The faults of a source -/

/-- **The faults of a source are its unmatched braces.** A closing brace is reported if it has no
partner and an opening one if it is nobody's partner; what is left is balanced. The reports stand in
the order of the source, so that each brace is reported once, and all that are about closing braces
come first. Comments, strings, addresses and whatever else is no brace have no part in it. -/
theorem faults_unmatched (source : String) :
    let run := tokens source
    let faults := (Outline.ofSource source).faults
    (∀ span, ⟨.unexpectedCloseBrace, span⟩ ∈ faults ↔
      ∃ place token, run[place]? = some token ∧ token.kind = .rightBrace ∧ token.span = span ∧
        ∀ opening, ¬ Partners run place opening) ∧
    (∀ span, ⟨.unclosedBlock, span⟩ ∈ faults ↔
      ∃ place token, run[place]? = some token ∧ token.kind = .leftBrace ∧ token.span = span ∧
        ∀ closing, ¬ Partners run closing place) ∧
    Balanced ((unreported faults run).map (·.kind)) ∧
    (∀ first ∈ faults, ∀ second ∈ faults, first.kind = .unexpectedCloseBrace →
      second.kind = .unclosedBlock → first.span.start < second.span.start) ∧
    faults.Pairwise (fun first second => first.span.start < second.span.start) ∧
    faults = Scanner.initial.faults
      (run.filter fun token => token.kind.isBrace ∨ token.kind = .eof) ∧
    (∀ fault ∈ faults, ∀ token ∈ run, ¬ token.kind.isBrace →
      token.span.stop ≤ fault.span.start ∨ fault.span.stop ≤ token.span.start) := by
  intro run faults
  obtain ⟨body, last, split, isLast, inner⟩ := Grammar.tokens_eof source
  have faultsOf : faults = Scanner.initial.faults (body ++ [last]) := by
    rw [← split]
    rfl
  have ascending := faults_ascending source
  refine ⟨?_, ?_, ?_, ?_, ascending, (Scanner.faults_filter run rfl).symm, ?_⟩
  · intro span
    rw [faultsOf, show run = body ++ [last] from split]
    exact Scanner.unexpectedCloseBrace_mem_faults_iff inner isLast span
  · intro span
    rw [faultsOf, show run = body ++ [last] from split]
    exact Scanner.unclosedBlock_mem_faults_iff inner isLast span
  · have distinct : ((braces run).map (·.span)).Nodup := by
      refine List.pairwise_map.mpr ((braces_ascending source).imp fun before same => ?_)
      rw [same] at before
      exact Nat.lt_irrefl _ before
    rw [show run = body ++ [last] from split, braces_concat, List.map_append] at distinct
    rw [faultsOf, show run = body ++ [last] from split]
    exact Scanner.balanced_unreported inner isLast distinct.of_append_left
  · intro first isFirst second isSecond isClosing isOpening
    have shown : faults = Scanner.initial.faults body ++
        (Scanner.initial.after body).openBlocks.reverse.map fun span => ⟨.unclosedBlock, span⟩ := by
      rw [faultsOf, Scanner.faults_concat_eof isLast]
    have before := ascending
    change faults.Pairwise _ at before
    rw [shown, List.mem_append] at isFirst isSecond
    rw [shown, List.pairwise_append] at before
    refine before.2.2 first (isFirst.resolve_right fun atEnd => ?_) second
      (isSecond.resolve_left fun inBody => ?_)
    · obtain ⟨span, _, rfl⟩ := List.mem_map.mp atEnd
      exact BlockFaultKind.noConfusion isClosing
    · rw [Scanner.kind_of_mem_faults inner inBody] at isOpening
      exact BlockFaultKind.noConfusion isOpening
  · intro fault member token inTokens noBrace
    obtain ⟨brace, braceInTokens, isBrace, place⟩ := exists_brace_of_mem_faults member
    rw [← place]
    refine Grammar.tokens_apart inTokens braceInTokens fun same => noBrace ?_
    rw [same]
    exact isBrace

end StyleBaseline
