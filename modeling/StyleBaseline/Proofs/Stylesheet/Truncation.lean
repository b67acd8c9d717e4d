/-
**A source that is broken off.** Up to the end of a token nothing depends on what follows: the
tokens of a source that is broken off there are those of the whole source up to that place, and its
declarations are those that are complete by then, with one more at most, whose end is awaited.

* `Tokenised.cut` — a cut into tokens is broken off behind one of them.
* `exists_brokenOff` — the tokens of a source that is broken off.
* `AwaitsEnd` — a declaration has begun and awaits its end; `AwaitsEnd.unique` — only one does.
* `completedBy` — a declaration is complete at a place.
* `Parted.declaredNames_eq` — the names declared up to a place.
* `outline_upTo` — the tokens and the declarations of a source that is broken off.
-/

import Mathlib.Data.List.Sort
import StyleBaseline.Proofs.Stylesheet.Concatenation

namespace StyleBaseline

/-! ### Tokens up to a place -/

namespace Grammar

/-- The longest word at the front of a text is so, too, if less of the text is left behind it. -/
theorem LongestAt.of_append {text more word : List Char} (longest : LongestAt (text ++ more) word)
    (atFront : word <+: text) : LongestAt text word := by
  refine ⟨atFront, longest.isLexeme, fun isFront isLexeme => ?_⟩
  exact longest.longest (isFront.trans (List.prefix_append text more)) isLexeme

/-- **A cut into tokens is broken off** behind one of them: what stands before that place is cut
into the tokens up to there, and what stands behind it into the others. -/
theorem Tokenised.cut {here : Nat} {text : List Char} {run : List Token}
    (tokenised : Tokenised here text run) {token : Token} (member : token ∈ run)
    (notEnd : token.kind ≠ .eof) :
    ∃ front rest body more, text = front ++ rest ∧ run = body ++ more ∧
      token.span.stop = here + byteLength front ∧
      Tokenised here front (body ++ [⟨.eof, ⟨token.span.stop, token.span.stop⟩⟩]) ∧
      Tokenised token.span.stop rest more := by
  induction tokenised with
  | @ending here spacing blank =>
      obtain rfl := List.mem_singleton.mp member
      exact absurd rfl notEnd
  | @token here spacing word rest kind run blank visible longest hasKind goesOn ih =>
      -- behind the first token the cut is broken off at once or further on
      have further : ∃ front back body more, rest = front ++ back ∧ run = body ++ more ∧
          token.span.stop = here + byteLength spacing + byteLength word + byteLength front ∧
          Tokenised (here + byteLength spacing + byteLength word) front
            (body ++ [⟨.eof, ⟨token.span.stop, token.span.stop⟩⟩]) ∧
          Tokenised token.span.stop back more := by
        rcases List.mem_cons.mp member with rfl | later
        · refine ⟨[], rest, [], run, rfl, rfl, rfl, ?_, goesOn⟩
          exact .ending fun _ member => absurd member List.not_mem_nil
        · exact ih later
      obtain ⟨front, back, body, more, rfl, rfl, stop, cutFront, cutBack⟩ := further
      refine ⟨spacing ++ (word ++ front), back, _ :: body, more, ?_, rfl, ?_, ?_, cutBack⟩
      · simp only [List.append_assoc]
      · rw [stop, byteLength_append, byteLength_append]
        simp only [Nat.add_assoc]
      · refine .token blank (fun c first => visible c ?_) ?_ hasKind cutFront
        · rw [← List.append_assoc, List.head?_append, first, Option.some_or]
        · rw [← List.append_assoc] at longest
          exact longest.of_append (List.prefix_append word front)

/-- The tokens before the end are none themselves, and they end before it. -/
theorem Tokenised.before_end {here : Nat} {text : List Char} {body : List Token} {last : Token}
    (tokenised : Tokenised here text (body ++ [last])) :
    ∀ token ∈ body, token.kind ≠ .eof ∧ token.span.stop ≤ last.span.start := by
  obtain ⟨inner, _, same, _, inside⟩ := tokenised.eof
  obtain ⟨rfl, _⟩ := List.append_inj' same rfl
  intro token member
  refine ⟨inside token member, ?_⟩
  exact (List.pairwise_append.mp tokenised.ascending).2.2 token member last List.mem_cons_self

end Grammar

/-- The text of a source up to a place. -/
def upTo (source : String) (k : Nat) : String :=
  (⟨0, k⟩ : Span).textIn source

/-- The tokens of a source that end at or before a place; its end is none of them. -/
def tokensUpTo (source : String) (k : Nat) : List Token :=
  (tokens source).filter fun token => token.kind ≠ .eof ∧ token.span.stop ≤ k

/-- If the tokens fall into those that end by a place and others, then the former are those up to
it. -/
theorem tokensUpTo_of_split {source : String} {k : Nat} {body more : List Token}
    (split : tokens source = body ++ more)
    (early : ∀ token ∈ body, token.kind ≠ .eof ∧ token.span.stop ≤ k)
    (late : ∀ token ∈ more, token.kind = .eof ∨ k < token.span.stop) :
    tokensUpTo source k = body := by
  have kept : body.filter (fun token => token.kind ≠ .eof ∧ token.span.stop ≤ k) = body :=
    List.filter_eq_self.mpr fun token isEarly => decide_eq_true (early token isEarly)
  have dropped : more.filter (fun token => token.kind ≠ .eof ∧ token.span.stop ≤ k) = [] := by
    apply List.filter_eq_nil_iff.mpr
    intro token isLate isKept
    obtain ⟨isToken, ends⟩ := of_decide_eq_true isKept
    exact (late token isLate).elim isToken (Nat.not_lt_of_le ends)
  rw [tokensUpTo, split, List.filter_append, kept, dropped, List.append_nil]

/-- **A source is broken off at a place** between two of its tokens. -/
structure BrokenOff (source : String) (k : Nat) (rest : String) (more : List Token) : Prop where
  whole : source = upTo source k ++ rest
  size : (upTo source k).utf8ByteSize = k
  front : tokens (upTo source k) = tokensUpTo source k ++ [⟨.eof, ⟨k, k⟩⟩]
  split : tokens source = tokensUpTo source k ++ more
  later : ∀ token ∈ more, token.kind = .eof ∨ k < token.span.stop

/-- **Behind a token** a source can be broken off. -/
theorem exists_brokenOff {source : String} {token : Token} (member : token ∈ tokens source)
    (notEnd : token.kind ≠ .eof) : ∃ rest more, BrokenOff source token.span.stop rest more := by
  obtain ⟨front, rest, body, more, split, run, stop, cutFront, cutBack⟩ :=
    (Grammar.tokens_tokenised source).cut member notEnd
  rw [Nat.zero_add] at stop
  have isFront : upTo source token.span.stop = String.ofList front := by
    have stretch : source.toList = [] ++ (front ++ rest) := split
    have taken := textIn_of_split stretch
    rwa [byteLength, Nat.zero_add, ← stop] at taken
  have late : ∀ other ∈ more, other.kind = .eof ∨ token.span.stop < other.span.stop := by
    intro other isLate
    by_cases isEnd : other.kind = .eof
    · exact Or.inl isEnd
    · have inTokens : other ∈ tokens source := run ▸ List.mem_append_right body isLate
      exact Or.inr ((cutBack.le_start isLate).trans_lt
        (Grammar.tokens_start_lt_stop inTokens isEnd))
  have isBody : tokensUpTo source token.span.stop = body :=
    tokensUpTo_of_split run cutFront.before_end late
  refine ⟨String.ofList rest, more, ?_, ?_, ?_, ?_, late⟩
  · rw [isFront, ← String.ofList_append, ← split, String.ofList_toList]
  · rw [isFront, utf8ByteSize_eq_byteLength, String.toList_ofList, stop]
  · rw [isBody, isFront, tokens, String.toList_ofList]
    exact cutFront.unique.symm
  · rw [isBody, run]

/-! ### Declarations that have begun -/

/-- **A declaration has begun** at a place: a name stands there inside a block, first in its
statement, with a colon behind it. -/
structure BeginsAt (run : List Token) (place : Nat) : Prop where
  name : kindAt run place = some .ident
  inside : 0 < depthAfter (run.take place)
  first : (kindAt run (place - 1)).any (·.opensStatement)
  colon : kindAt run (place + 1) = some .colon

/-- **A declaration awaits its end**: it has begun, and no brace and no semicolon stands behind it. -/
structure AwaitsEnd (run : List Token) (place : Nat) : Prop extends BeginsAt run place where
  unclosed : closingKind (run.drop (place + 2)) = none

section Runs

variable {past more : List Token} {place : Nat}

theorem declaresAt_iff_beginsAt {run : List Token} :
    DeclaresAt run place ↔
      BeginsAt run place ∧ (closingKind (run.drop (place + 2))).any (· ≠ .leftBrace) := by
  constructor
  · intro ⟨name, inside, first, colon, noBlock⟩
    exact ⟨⟨name, inside, first, colon⟩, noBlock⟩
  · intro ⟨⟨name, inside, first, colon⟩, noBlock⟩
    exact ⟨name, inside, first, colon, noBlock⟩

theorem kindAt_append_left (more : List Token) (within : place < past.length) :
    kindAt (past ++ more) place = kindAt past place := by
  rw [kindAt, List.getElem?_append_left within, kindAt]

theorem lt_length_of_kindAt {run : List Token} {kind : TokenKind}
    (found : kindAt run place = some kind) : place < run.length := by
  obtain ⟨token, isHere, _⟩ := Option.map_eq_some_iff.mp found
  exact (List.getElem?_eq_some_iff.mp isHere).1

/-- Whether a declaration has begun does not depend on what follows its colon. -/
theorem beginsAt_append_iff (more : List Token) (within : place + 1 < past.length) :
    BeginsAt (past ++ more) place ↔ BeginsAt past place := by
  have here := kindAt_append_left more (Nat.lt_of_succ_lt within)
  have next := kindAt_append_left more within
  have before := kindAt_append_left more
    (Nat.lt_of_le_of_lt (Nat.sub_le place 1) (Nat.lt_of_succ_lt within))
  have behind : (past ++ more).take place = past.take place :=
    List.take_append_of_le_length (Nat.le_of_lt (Nat.lt_of_succ_lt within))
  constructor
  · intro ⟨name, inside, first, colon⟩
    exact ⟨here ▸ name, behind ▸ inside, before ▸ first, next ▸ colon⟩
  · intro ⟨name, inside, first, colon⟩
    exact ⟨here.symm ▸ name, behind.symm ▸ inside, before.symm ▸ first, next.symm ▸ colon⟩

/-- The token that closes a statement is looked for in the first part of its rest, and then in the
second. -/
@[simp]
theorem closingKind_append (rest more : List Token) :
    closingKind (rest ++ more) = (closingKind rest).or (closingKind more) := by
  rw [closingKind, List.map_append, List.find?_append, closingKind, closingKind]

theorem closingKind_eq_map (rest : List Token) :
    closingKind rest = (rest.find? (·.kind.closesStatement)).map (·.kind) := by
  rw [closingKind, List.find?_map]
  rfl

theorem closesStatement_of_closingKind {rest : List Token} {kind : TokenKind}
    (closing : closingKind rest = some kind) : kind.closesStatement :=
  List.find?_some closing

theorem closingKind_eq_none_iff {rest : List Token} :
    closingKind rest = none ↔ ∀ token ∈ rest, token.kind.closesStatement = false := by
  rw [closingKind_eq_map, Option.map_eq_none_iff, List.find?_eq_none]
  simp only [Bool.not_eq_true]

/-- A declaration that has begun stands in the run with its colon. -/
theorem BeginsAt.within {run : List Token} (begins : BeginsAt run place) :
    place + 1 < run.length :=
  lt_length_of_kindAt begins.colon

/-- **Where the source is broken off** a declaration ends that no block follows. -/
theorem declaresAt_end_iff {last : Token} (isLast : last.kind = .eof) :
    DeclaresAt (past ++ [last]) place ↔
      BeginsAt past place ∧ closingKind (past.drop (place + 2)) ≠ some .leftBrace := by
  have closes : closingKind [last] = some .eof := by
    rw [closingKind, List.map_singleton, isLast]
    rfl
  have ahead (within : place + 1 < past.length) :
      closingKind ((past ++ [last]).drop (place + 2)) =
        (closingKind (past.drop (place + 2))).or (some .eof) := by
    rw [List.drop_append_of_le_length within, closingKind_append, closes]
  have either : ∀ closing : Option TokenKind,
      (closing.or (some .eof)).any (· ≠ .leftBrace) ↔ closing ≠ some .leftBrace := by
    intro closing
    cases closing <;> simp
  rw [declaresAt_iff_beginsAt]
  constructor
  · rintro ⟨begins, noBlock⟩
    -- the end of the source is no colon
    have within : place + 1 < past.length := by
      refine Nat.lt_of_le_of_ne ?_ fun isEnd => ?_
      · have length := begins.within
        rw [List.length_append, List.length_singleton] at length
        exact Nat.le_of_lt_succ length
      · have colon := begins.colon
        rw [isEnd, kindAt, List.getElem?_concat_length, Option.map_some, isLast] at colon
        cases colon
    rw [ahead within, either] at noBlock
    exact ⟨(beginsAt_append_iff [last] within).mp begins, noBlock⟩
  · rintro ⟨begins, noBlock⟩
    rw [ahead begins.within, either]
    exact ⟨(beginsAt_append_iff [last] begins.within).mpr begins, noBlock⟩

/-- Behind a declaration that awaits its end no other one can have begun. -/
theorem AwaitsEnd.not_lt {run : List Token} {other : Nat} (awaits : AwaitsEnd run place)
    (begins : BeginsAt run other) : ¬ place < other := by
  intro before
  obtain ⟨kind, isBefore, opens⟩ := (Option.any_eq_true _ _).mp begins.first
  by_cases isName : other - 1 = place
  · rw [isName, awaits.name] at isBefore
    rw [← Option.some.inj isBefore] at opens
    exact nomatch opens
  by_cases isColon : other - 1 = place + 1
  · rw [isColon, awaits.colon] at isBefore
    rw [← Option.some.inj isBefore] at opens
    exact nomatch opens
  · obtain ⟨token, found, rfl⟩ := Option.map_eq_some_iff.mp isBefore
    have behind : token ∈ run.drop (place + 2) := by
      have reaches : place + 2 ≤ other - 1 := by omega
      rw [← Nat.add_sub_cancel' reaches, ← List.getElem?_drop] at found
      exact List.mem_of_getElem? found
    have closes : token.kind.closesStatement = true := by
      rw [TokenKind.closesStatement, opens, Bool.true_or]
    exact Bool.false_ne_true
      ((closingKind_eq_none_iff.mp awaits.unclosed token behind).symm.trans closes)

/-- **Only one declaration awaits its end.** -/
theorem AwaitsEnd.unique {run : List Token} {other : Nat} (one : AwaitsEnd run place)
    (two : AwaitsEnd run other) : place = other :=
  Nat.le_antisymm (Nat.le_of_not_lt (two.not_lt one.toBeginsAt))
    (Nat.le_of_not_lt (one.not_lt two.toBeginsAt))

/-! ### Declarations that are complete -/

/-- The token that closes the statement of a declared name: the first brace or semicolon behind the
name and its colon, or the end. -/
def closerOf (run : List Token) (span : Span) : Option Token :=
  ((run.dropWhile (·.span ≠ span)).drop 2).find? (·.kind.closesStatement)

/-- **A declaration is complete** at a place if a semicolon or a closing brace that ends at or before
that place closes its statement. -/
def completedBy (run : List Token) (k : Nat) (span : Span) : Bool :=
  (closerOf run span).any fun closer =>
    (closer.kind = .semicolon || closer.kind = .rightBrace) && closer.span.stop ≤ k

/-- **The tokens of a source fall into two parts** at a place: those that end by then, and the
others. -/
structure Parted (past more : List Token) (k : Nat) : Prop where
  ascending : (past ++ more).Pairwise fun first second => first.span.stop ≤ second.span.start
  nonempty : ∀ token ∈ past ++ more, token.kind ≠ .eof → token.span.start < token.span.stop
  early : ∀ token ∈ past, token.kind ≠ .eof ∧ token.span.stop ≤ k
  late : ∀ token ∈ more, token.kind = .eof ∨ k < token.span.stop

namespace Parted

variable {k : Nat} {token : Token}

/-- The token that closes a statement is the first one behind the name and its colon that can. -/
theorem closerOf_eq (parted : Parted past more k) (found : (past ++ more)[place]? = some token)
    (notEnd : token.kind ≠ .eof) :
    closerOf (past ++ more) token.span =
      ((past ++ more).drop (place + 2)).find? (·.kind.closesStatement) := by
  obtain ⟨within, isHere⟩ := List.getElem?_eq_some_iff.mp found
  have nonempty := parted.nonempty token (List.mem_of_getElem? found) notEnd
  have unlike : ∀ other ∈ (past ++ more).take place, decide (other.span ≠ token.span) = true := by
    intro other member
    obtain ⟨before, bound, rfl⟩ := List.mem_take_iff_getElem.mp member
    refine decide_eq_true fun same => ?_
    have twin := List.getElem?_eq_getElem (Nat.lt_of_lt_of_le bound (Nat.min_le_right _ _))
    have isPlace := place_unique parted.ascending found twin nonempty same.symm
    omega
  have reached : (past ++ more).dropWhile (·.span ≠ token.span) = (past ++ more).drop place := by
    conv_lhs => rw [← List.take_append_drop place (past ++ more)]
    rw [List.dropWhile_append_of_pos unlike, List.drop_eq_getElem_cons within, isHere]
    exact List.dropWhile_cons_of_neg (by simp)
  rw [closerOf, reached, List.drop_drop]

/-- **A declaration is complete** if its statement is closed in the first part, other than by a
block. -/
theorem completedBy_iff (parted : Parted past more k) (found : (past ++ more)[place]? = some token)
    (notEnd : token.kind ≠ .eof) :
    completedBy (past ++ more) k token.span ↔
      closingKind (past.drop (place + 2)) = some .semicolon ∨
        closingKind (past.drop (place + 2)) = some .rightBrace := by
  rw [completedBy, parted.closerOf_eq found notEnd, List.drop_append, List.find?_append,
    closingKind_eq_map]
  cases closed : (past.drop (place + 2)).find? (·.kind.closesStatement) with
  | none =>
      -- what closes the statement in the second part ends too late
      rw [Option.none_or]
      refine iff_of_false (fun complete => ?_) (by simp)
      obtain ⟨closer, isCloser, ends⟩ := (Option.any_eq_true _ _).mp complete
      have inMore : closer ∈ more := List.mem_of_mem_drop (List.mem_of_find?_eq_some isCloser)
      simp only [Bool.and_eq_true, Bool.or_eq_true, decide_eq_true_eq] at ends
      rcases parted.late closer inMore with isEnd | isLater
      · rw [isEnd] at ends
        exact ends.1.elim nofun nofun
      · exact absurd ends.2 (Nat.not_le_of_lt isLater)
  | some closer =>
      have inPast : closer ∈ past := List.mem_of_mem_drop (List.mem_of_find?_eq_some closed)
      simp [(parted.early closer inPast).2]

/-- No end stands in the first part, so that semicolons and closing braces are what is left. -/
theorem closing_cases (parted : Parted past more k) {n : Nat} {kind : TokenKind}
    (closed : closingKind (past.drop n) = some kind) (noBlock : kind ≠ .leftBrace) :
    kind = .semicolon ∨ kind = .rightBrace := by
  have closes := closesStatement_of_closingKind closed
  rw [closingKind_eq_map] at closed
  obtain ⟨closer, isCloser, rfl⟩ := Option.map_eq_some_iff.mp closed
  have inPast : closer ∈ past := List.mem_of_mem_drop (List.mem_of_find?_eq_some isCloser)
  have notEnd := (parted.early closer inPast).1
  cases isKind : closer.kind <;> simp_all [TokenKind.closesStatement, TokenKind.opensStatement]

/-- A declaration whose statement is closed in the first part is declared whatever follows. -/
theorem declaresAt_iff_of_closed {kind : TokenKind}
    (closed : closingKind (past.drop (place + 2)) = some kind) (noBlock : kind ≠ .leftBrace) :
    DeclaresAt (past ++ more) place ↔ BeginsAt past place := by
  have within : place + 2 ≤ past.length := by
    by_contra outside
    rw [List.drop_eq_nil_of_le (Nat.le_of_not_le outside)] at closed
    exact nomatch closed
  rw [declaresAt_iff_beginsAt, beginsAt_append_iff more within, List.drop_append_of_le_length within,
    closingKind_append, closed, Option.some_or, Option.any_some, decide_eq_true noBlock]
  simp

/-- Of a complete declaration the name and the end stand in the first part. -/
theorem exists_closed (parted : Parted past more k) (member : token ∈ declaredNames (past ++ more))
    (complete : completedBy (past ++ more) k token.span) :
    ∃ place kind, BeginsAt past place ∧ past[place]? = some token ∧
      closingKind (past.drop (place + 2)) = some kind ∧ kind ≠ .leftBrace := by
  have notEnd : token.kind ≠ .eof := by
    rw [kind_of_mem_declaredNames member]
    decide
  obtain ⟨place, declares, found⟩ := mem_declaredNames.mp member
  obtain ⟨kind, closed, noBlock⟩ : ∃ kind, closingKind (past.drop (place + 2)) = some kind ∧
      kind ≠ .leftBrace := by
    rcases (parted.completedBy_iff found notEnd).mp complete with closed | closed
    · exact ⟨_, closed, by decide⟩
    · exact ⟨_, closed, by decide⟩
  have begins : BeginsAt past place := (declaresAt_iff_of_closed closed noBlock).mp declares
  rw [List.getElem?_append_left (Nat.lt_of_succ_lt begins.within)] at found
  exact ⟨place, kind, begins, found, closed, noBlock⟩

/-- **The names declared up to a place**: those whose declarations are complete, and the one that
awaits its end. -/
theorem mem_declaredNames_iff (parted : Parted past more k) {last : Token}
    (isLast : last.kind = .eof) :
    token ∈ declaredNames (past ++ [last]) ↔
      (token ∈ declaredNames (past ++ more) ∧ completedBy (past ++ more) k token.span) ∨
        ∃ place, AwaitsEnd past place ∧ past[place]? = some token := by
  constructor
  · intro member
    have notEnd : token.kind ≠ .eof := by
      rw [kind_of_mem_declaredNames member]
      decide
    obtain ⟨place, declares, found⟩ := mem_declaredNames.mp member
    obtain ⟨begins, noBlock⟩ := (declaresAt_end_iff isLast).mp declares
    have inPast : place < past.length := Nat.lt_of_succ_lt begins.within
    rw [List.getElem?_append_left inPast] at found
    cases closed : closingKind (past.drop (place + 2)) with
    | none => exact Or.inr ⟨place, ⟨begins, closed⟩, found⟩
    | some kind =>
        have isOther : kind ≠ .leftBrace := fun isBlock => noBlock (closed.trans (isBlock ▸ rfl))
        have foundWhole : (past ++ more)[place]? = some token := by
          rwa [List.getElem?_append_left inPast]
        have declaresWhole : DeclaresAt (past ++ more) place :=
          (declaresAt_iff_of_closed closed isOther).mpr begins
        refine Or.inl ⟨mem_declaredNames.mpr ⟨place, declaresWhole, foundWhole⟩, ?_⟩
        rw [parted.completedBy_iff foundWhole notEnd, closed, Option.some_inj, Option.some_inj]
        exact parted.closing_cases closed isOther
  · intro either
    apply mem_declaredNames.mpr
    rcases either with ⟨member, complete⟩ | ⟨place, awaits, found⟩
    · obtain ⟨place, kind, begins, found, closed, noBlock⟩ := parted.exists_closed member complete
      refine ⟨place, (declaresAt_iff_of_closed closed noBlock).mpr begins, ?_⟩
      rwa [List.getElem?_append_left (Nat.lt_of_succ_lt begins.within)]
    · refine ⟨place, (declaresAt_end_iff isLast).mpr ⟨awaits.toBeginsAt, ?_⟩, ?_⟩
      · rw [awaits.unclosed]
        exact nofun
      · rwa [List.getElem?_append_left (Nat.lt_of_succ_lt awaits.within)]

/-- A declaration that is complete stands before one that awaits its end. -/
theorem start_lt_of_completed (parted : Parted past more k)
    (member : token ∈ declaredNames (past ++ more))
    (complete : completedBy (past ++ more) k token.span) {awaited : Token}
    (awaits : AwaitsEnd past place) (found : past[place]? = some awaited) :
    token.span.start < awaited.span.start := by
  obtain ⟨earlier, kind, begins, isEarlier, closed, _⟩ := parted.exists_closed member complete
  have before : earlier < place := by
    by_contra notBefore
    have fewer : (past.drop (earlier + 2)).Sublist (past.drop (place + 2)) :=
      List.drop_sublist_drop_left past (by omega)
    have unclosed : closingKind (past.drop (earlier + 2)) = none :=
      closingKind_eq_none_iff.mpr fun other isBehind =>
        closingKind_eq_none_iff.mp awaits.unclosed other (fewer.subset isBehind)
    rw [unclosed] at closed
    exact nomatch closed
  obtain ⟨within, rfl⟩ := List.getElem?_eq_some_iff.mp isEarlier
  obtain ⟨withinPlace, rfl⟩ := List.getElem?_eq_some_iff.mp found
  have ascending := (List.pairwise_append.mp parted.ascending).1
  have inPast := List.getElem_mem within
  have nonempty := parted.nonempty _ (List.mem_append_left more inPast) (parted.early _ inPast).1
  exact nonempty.trans_le (List.pairwise_iff_getElem.mp ascending _ _ within withinPlace before)

/-- One declaration awaits its end, or none does. -/
theorem exists_pending (past : List Token) : ∃ pending : Option Token, ∀ name,
    pending = some name ↔ ∃ place, AwaitsEnd past place ∧ past[place]? = some name := by
  by_cases someAwaits : ∃ place, AwaitsEnd past place
  · obtain ⟨place, awaits⟩ := someAwaits
    refine ⟨past[place]?, fun name => ⟨fun found => ⟨place, awaits, found⟩, ?_⟩⟩
    intro ⟨other, awaitsOther, found⟩
    rwa [awaits.unique awaitsOther]
  · refine ⟨none, fun name => ⟨nofun, fun ⟨place, awaits, _⟩ => ?_⟩⟩
    exact absurd ⟨place, awaits⟩ someAwaits

/-- **The names declared up to a place, in order**: those of the whole run that are complete, and
then the one that awaits its end. -/
theorem declaredNames_eq (parted : Parted past more k) {last : Token} (isLast : last.kind = .eof)
    (inFront : (declaredNames (past ++ [last])).Pairwise fun first second =>
      first.span.start < second.span.start)
    (inWhole : (declaredNames (past ++ more)).Pairwise fun first second =>
      first.span.start < second.span.start) :
    ∃ pending : Option Token,
      declaredNames (past ++ [last]) = (declaredNames (past ++ more)).filter
          (completedBy (past ++ more) k ·.span) ++ pending.toList ∧
        ∀ name, pending = some name ↔ ∃ place, AwaitsEnd past place ∧ past[place]? = some name := by
  obtain ⟨pending, awaits⟩ := exists_pending past
  have antisymmetric : Std.Antisymm fun first second : Token =>
      first.span.start < second.span.start :=
    ⟨fun _ _ one two => absurd two (Nat.lt_asymm one)⟩
  have irreflexive : Std.Irrefl fun first second : Token =>
      first.span.start < second.span.start := ⟨fun _ => Nat.lt_irrefl _⟩
  refine ⟨pending, inFront.eq_of_mem_iff ?_ fun token => ?_, awaits⟩
  · refine List.pairwise_append.mpr ⟨inWhole.filter _, ?_, ?_⟩
    · cases pending with
      | none => exact List.Pairwise.nil
      | some name => exact List.pairwise_singleton _ _
    · intro token isComplete name isPending
      obtain ⟨member, complete⟩ := List.mem_filter.mp isComplete
      obtain ⟨place, awaitsEnd, found⟩ := (awaits name).mp (Option.mem_toList.mp isPending)
      exact parted.start_lt_of_completed member complete awaitsEnd found
  · rw [parted.mem_declaredNames_iff isLast, List.mem_append, List.mem_filter, Option.mem_toList,
      awaits]

end Parted

end Runs

/-! ### The outline of a source that is broken off -/

namespace BrokenOff

variable {source rest : String} {k : Nat} {more : List Token}

theorem withoutComments_split (broken : BrokenOff source k rest more) :
    withoutComments (tokens source) =
      withoutComments (tokensUpTo source k) ++ withoutComments more := by
  rw [broken.split]
  exact List.filter_append _ _

theorem withoutComments_front (broken : BrokenOff source k rest more) :
    withoutComments (tokens (upTo source k)) =
      withoutComments (tokensUpTo source k) ++ [⟨.eof, ⟨k, k⟩⟩] := by
  rw [broken.front]
  exact List.filter_append _ _

/-- But for the comments, the tokens of the source fall into two parts at that place. -/
theorem parted (broken : BrokenOff source k rest more) :
    Parted (withoutComments (tokensUpTo source k)) (withoutComments more) k := by
  refine ⟨?_, ?_, ?_, ?_⟩
  · rw [← broken.withoutComments_split]
    exact withoutComments_ascending source
  · rw [← broken.withoutComments_split]
    intro token member notEnd
    exact Grammar.tokens_start_lt_stop (List.mem_of_mem_filter member) notEnd
  · intro token member
    exact of_decide_eq_true (List.mem_filter.mp (List.mem_of_mem_filter member)).2
  · intro token member
    exact broken.later token (List.mem_of_mem_filter member)

/-- What is declared up to the place is declared so in the whole source. -/
theorem declarations_front (broken : BrokenOff source k rest more) :
    (Outline.ofSource (upTo source k)).declarations =
      (declaredNames (withoutComments (tokens (upTo source k)))).map fun name =>
        Outline.declarationAt source (LineTable.ofText source) name.span := by
  rw [declarations_eq]
  refine List.map_congr_left fun name member => ?_
  have declared : name.span ∈ Scanner.initial.declared (tokens (upTo source k)) := by
    rw [declared_tokens]
    exact List.mem_map_of_mem member
  have unchanged : Outline.declarationAt (upTo source k ++ rest)
      (LineTable.ofText (upTo source k ++ rest)) name.span =
        Outline.declarationAt (upTo source k) (LineTable.ofText (upTo source k)) name.span :=
    declarationAt_front declared
  rw [← unchanged, ← broken.whole]

end BrokenOff

/-- **A source that is broken off** at the end of a token has the tokens that the whole one has up to
there, and the end behind them. Its declarations are those of the whole source that a semicolon or a
closing brace up to that place completes, unchanged and in order, and then one more at most: that of
the name whose colon stands before that place, but neither a semicolon nor a brace behind it. -/
theorem outline_upTo {source : String} {token : Token} (member : token ∈ tokens source)
    (notEnd : token.kind ≠ .eof) :
    let k := token.span.stop
    let run := withoutComments (tokens source)
    let seen := withoutComments (tokensUpTo source k)
    (∃ rest, source = upTo source k ++ rest) ∧ (upTo source k).utf8ByteSize = k ∧
      tokens (upTo source k) = tokensUpTo source k ++ [⟨.eof, ⟨k, k⟩⟩] ∧
      ∃ pending : Option Token,
        (Outline.ofSource (upTo source k)).declarations =
          (Outline.ofSource source).declarations.filter (completedBy run k ·.span) ++
            (pending.map fun name =>
              Outline.declarationAt source (LineTable.ofText source) name.span).toList ∧
        ∀ name, pending = some name ↔ ∃ place, AwaitsEnd seen place ∧ seen[place]? = some name := by
  intro k run seen
  obtain ⟨rest, more, broken⟩ := exists_brokenOff member notEnd
  refine ⟨⟨rest, broken.whole⟩, broken.size, broken.front, ?_⟩
  have inFront := declaredNames_start_lt (upTo source k)
  have inWhole := declaredNames_start_lt source
  rw [broken.withoutComments_front] at inFront
  rw [broken.withoutComments_split] at inWhole
  obtain ⟨pending, names, awaits⟩ := broken.parted.declaredNames_eq rfl inFront inWhole
  rw [← broken.withoutComments_front, ← broken.withoutComments_split] at names
  refine ⟨pending, ?_, awaits⟩
  rw [broken.declarations_front, names, declarations_eq, List.map_append, List.filter_map]
  cases pending <;> rfl

/-- What begins like a declaration awaits its end, though a block follows in the whole source. -/
theorem outline_upTo_selector :
    let source := "a\x7bb:c;p:q\x7br:s\x7d\x7d"
    let token : Token := ⟨.ident, ⟨8, 9⟩⟩
    let run := withoutComments (tokens source)
    let seen := withoutComments (tokensUpTo source 9)
    token ∈ tokens source ∧ token.kind ≠ .eof ∧
      tokens (upTo source 9) = tokensUpTo source 9 ++ [⟨.eof, ⟨9, 9⟩⟩] ∧
      ∃ pending : Option Token,
        (Outline.ofSource (upTo source 9)).declarations =
          (Outline.ofSource source).declarations.filter (completedBy run 9 ·.span) ++
            (pending.map fun name =>
              Outline.declarationAt source (LineTable.ofText source) name.span).toList ∧
        ∀ name, pending = some name ↔ ∃ place, AwaitsEnd seen place ∧ seen[place]? = some name := by
  intro source token run seen
  have member : token ∈ tokens source := by decide
  have notEnd : token.kind ≠ .eof := by decide
  obtain ⟨_, _, front, declared⟩ := outline_upTo member notEnd
  exact ⟨member, notEnd, front, declared⟩

end StyleBaseline
