/-
**Which names are declared.** The pass over the tokens remembers only its place in a statement. What
it declares can be said without it, by looking back and ahead from a name: the name stands first in
a statement inside a block, a colon follows, and the statement ends before a block opens.

* `DeclaresAt` — that a declaration begins at a place of a run of tokens.
* `Scanner.Tracks` — what the pass remembers of the tokens behind it.
* `Scanner.declaredBy_append_awaited` — the step: a token completes what was awaited, or a new name
  is awaited.
* `Scanner.declared_eq_namesFrom` — a whole run, by induction from the step.
* `declarations_eq` — the declarations of a source.
-/

import StyleBaseline.Proofs.Stylesheet.TokenPlaces
import StyleBaseline.Stylesheet.Outline

namespace StyleBaseline

/-! ### Looking back and ahead -/

namespace TokenKind

/-- A statement begins behind a brace and behind a semicolon. -/
def opensStatement : TokenKind → Bool
  | .leftBrace | .rightBrace | .semicolon => true
  | _ => false

/-- A statement goes no further than the next brace, the next semicolon or the end. -/
def closesStatement (kind : TokenKind) : Bool :=
  kind.opensStatement || kind == .eof

end TokenKind

/-- The tokens of a run but for the comments. -/
def withoutComments (run : List Token) : List Token :=
  run.filter (·.kind ≠ .comment)

/-- The number of open blocks when a token is passed; a closing brace without a block counts for
nothing. -/
def depthStep (depth : Nat) (token : Token) : Nat :=
  match token.kind with
  | .leftBrace => depth + 1
  | .rightBrace => depth - 1
  | _ => depth

/-- The number of blocks that are open behind a run. -/
def depthAfter (run : List Token) : Nat :=
  run.foldl depthStep 0

/-- The kind of the token at a place of a run. -/
def kindAt (run : List Token) (place : Nat) : Option TokenKind :=
  run[place]?.map (·.kind)

/-- The kind of the token that closes the statement whose rest is given. -/
def closingKind (rest : List Token) : Option TokenKind :=
  (rest.map (·.kind)).find? (·.closesStatement)

/-- **A declaration begins at a place**: a name stands there inside a block, first in its statement,
with a colon behind it, and no block opens before the statement ends. At the first place of a run
there is nothing to look back at, but no block is open there either. -/
structure DeclaresAt (run : List Token) (place : Nat) : Prop where
  name : kindAt run place = some .ident
  inside : 0 < depthAfter (run.take place)
  first : (kindAt run (place - 1)).any (·.opensStatement)
  colon : kindAt run (place + 1) = some .colon
  noBlock : (closingKind (run.drop (place + 2))).any (· ≠ .leftBrace)

instance (run : List Token) (place : Nat) : Decidable (DeclaresAt run place) :=
  decidable_of_iff
    (kindAt run place = some .ident ∧ 0 < depthAfter (run.take place) ∧
      (kindAt run (place - 1)).any (·.opensStatement) ∧ kindAt run (place + 1) = some .colon ∧
      (closingKind (run.drop (place + 2))).any (· ≠ .leftBrace))
    ⟨fun ⟨name, inside, first, colon, noBlock⟩ => ⟨name, inside, first, colon, noBlock⟩,
      fun ⟨name, inside, first, colon, noBlock⟩ => ⟨name, inside, first, colon, noBlock⟩⟩

/-- The names at which a declaration begins, by their places. -/
def declaredNames (run : List Token) : List Token :=
  ((List.range run.length).filter fun place => DeclaresAt run place).filterMap (run[·]?)

theorem mem_declaredNames {run : List Token} {token : Token} :
    token ∈ declaredNames run ↔ ∃ place, DeclaresAt run place ∧ run[place]? = some token := by
  simp only [declaredNames, List.mem_filterMap, List.mem_filter, List.mem_range, decide_eq_true_eq]
  constructor
  · rintro ⟨place, ⟨_, declares⟩, found⟩
    exact ⟨place, declares, found⟩
  · rintro ⟨place, declares, found⟩
    exact ⟨place, ⟨(List.getElem?_eq_some_iff.mp found).1, declares⟩, found⟩

/-! ### The names from a place on -/

/-- The rest of a run goes on with a colon, and then its statement ends before a block opens. -/
def confirms (rest : List Token) : Bool :=
  kindAt rest 0 = some .colon && (closingKind (rest.drop 1)).any (· ≠ .leftBrace)

/-- The names of a run of tokens that stand in the rest of it. -/
def namesFrom (past rest : List Token) : List Token :=
  ((List.range' past.length rest.length).filter fun place =>
    DeclaresAt (past ++ rest) place).filterMap ((past ++ rest)[·]?)

theorem kindAt_append_length_add (past rest : List Token) (place : Nat) :
    kindAt (past ++ rest) (past.length + place) = kindAt rest place := by
  rw [kindAt, List.getElem?_append_right (Nat.le_add_right _ _), Nat.add_sub_cancel_left, kindAt]

theorem kindAt_append_length_sub_one {past : List Token} (rest : List Token) (nonempty : past ≠ []) :
    kindAt (past ++ rest) (past.length - 1) = past.getLast?.map (·.kind) := by
  have within : past.length - 1 < past.length :=
    Nat.sub_one_lt (List.length_eq_zero_iff.not.mpr nonempty)
  rw [kindAt, List.getElem?_append_left within, List.getLast?_eq_getElem?]

/-- A declaration begins behind some tokens if what it looks back at is right in these, and what it
looks ahead at in the rest. -/
theorem declaresAt_length_iff {past rest : List Token} {token : Token} :
    DeclaresAt (past ++ token :: rest) past.length ↔
      token.kind = .ident ∧ 0 < depthAfter past ∧
        past.getLast?.all (·.kind.opensStatement) ∧ confirms rest := by
  have here : kindAt (past ++ token :: rest) past.length = some token.kind :=
    kindAt_append_length_add past (token :: rest) 0
  have next : kindAt (past ++ token :: rest) (past.length + 1) = kindAt rest 0 :=
    kindAt_append_length_add past (token :: rest) 1
  have ahead : (past ++ token :: rest).drop (past.length + 2) = rest.drop 1 := by
    rw [← List.drop_drop, List.drop_left, List.drop_succ_cons]
  have behind (inside : 0 < depthAfter past) :
      (kindAt (past ++ token :: rest) (past.length - 1)).any (·.opensStatement) =
        past.getLast?.all (·.kind.opensStatement) := by
    have nonempty : past ≠ [] := by
      rintro rfl
      exact absurd inside (by decide)
    rw [kindAt_append_length_sub_one _ nonempty, List.getLast?_eq_some_getLast nonempty]
    rfl
  constructor
  · rintro ⟨name, inside, first, colon, noBlock⟩
    rw [List.take_left] at inside
    rw [here, Option.some.injEq] at name
    rw [behind inside] at first
    rw [next] at colon
    rw [ahead] at noBlock
    exact ⟨name, inside, first, by rw [confirms, colon, noBlock, decide_eq_true rfl, Bool.and_self]⟩
  · rintro ⟨name, inside, first, confirmed⟩
    simp only [confirms, Bool.and_eq_true, decide_eq_true_eq] at confirmed
    refine ⟨?_, ?_, ?_, ?_, ?_⟩
    · rw [here, name]
    · rw [List.take_left]
      exact inside
    · rw [behind inside]
      exact first
    · rw [next]
      exact confirmed.1
    · rw [ahead]
      exact confirmed.2

theorem namesFrom_cons (past rest : List Token) (token : Token) :
    namesFrom past (token :: rest) =
      (if DeclaresAt (past ++ token :: rest) past.length then [token] else []) ++
        namesFrom (past ++ [token]) rest := by
  have found : (past ++ token :: rest)[past.length]? = some token := by
    rw [List.getElem?_append_right (Nat.le_refl _), Nat.sub_self, List.getElem?_cons_zero]
  have shifted : past ++ [token] ++ rest = past ++ token :: rest := by
    rw [List.append_assoc, List.singleton_append]
  rw [namesFrom, namesFrom, shifted, List.length_cons, List.range'_succ, List.filter_cons,
    List.length_append, List.length_singleton]
  by_cases declares : DeclaresAt (past ++ token :: rest) past.length
  · rw [if_pos (decide_eq_true declares), if_pos declares, List.filterMap_cons, found]
    rfl
  · rw [if_neg (by rwa [decide_eq_true_eq]), if_neg declares, List.nil_append]

theorem declaredNames_eq_namesFrom (run : List Token) : declaredNames run = namesFrom [] run := by
  rw [declaredNames, List.range_eq_range']
  rfl

/-- The names at which declarations begin stand in the order of the run. -/
theorem declaredNames_sublist (run : List Token) : (declaredNames run).Sublist run := by
  have onward : ∀ rest past, (namesFrom past rest).Sublist rest := by
    intro rest
    induction rest with
    | nil => exact fun past => List.Sublist.refl []
    | cons token rest ih =>
        intro past
        rw [namesFrom_cons]
        split
        · exact (ih _).cons_cons token
        · exact (ih _).cons token
  rw [declaredNames_eq_namesFrom]
  exact onward run []

/-! ### What the pass remembers -/

namespace Scanner

/-- The blocks that the pass holds open grow and shrink as they are counted. -/
theorem length_openBlocks_step (scanner : Scanner) {token : Token} (notEnd : token.kind ≠ .eof) :
    (scanner.step token).openBlocks.length = depthStep scanner.openBlocks.length token := by
  obtain ⟨kind, span⟩ := token
  cases kind with
  | eof => exact absurd rfl notEnd
  | leftBrace => rfl
  | rightBrace => exact List.length_tail
  | comment | semicolon => rfl
  | ident =>
      unfold Scanner.step depthStep
      cases scanner.statement with
      | start => cases scanner.openBlocks <;> simp
      | name | value | other => rfl
  | string | url | atKeyword | colon | delim | error =>
      unfold Scanner.step depthStep
      cases scanner.statement <;> rfl

/-- The pass stands at the beginning of a statement just behind the tokens that open one. -/
theorem statement_step_eq_start_iff (scanner : Scanner) {token : Token}
    (noComment : token.kind ≠ .comment) :
    (scanner.step token).statement = .start ↔ token.kind.opensStatement := by
  obtain ⟨kind, span⟩ := token
  cases kind with
  | comment => exact absurd rfl noComment
  | leftBrace | rightBrace | semicolon => exact iff_of_true rfl rfl
  | eof => exact iff_of_false Statement.noConfusion Bool.false_ne_true
  | ident =>
      refine iff_of_false ?_ Bool.false_ne_true
      unfold Scanner.step
      cases scanner.statement with
      | start => cases scanner.openBlocks <;> exact Statement.noConfusion
      | name | value | other => exact Statement.noConfusion
  | string | url | atKeyword | colon | delim | error =>
      refine iff_of_false ?_ Bool.false_ne_true
      unfold Scanner.step
      cases scanner.statement <;> exact Statement.noConfusion

/-- **What the pass remembers** of the tokens behind it: the number of open blocks, and whether it
stands at the beginning of a statement. -/
structure Tracks (past : List Token) (scanner : Scanner) : Prop where
  depth : scanner.openBlocks.length = depthAfter past
  start : scanner.statement = .start ↔ past.getLast?.all (·.kind.opensStatement)

theorem tracks_initial : Tracks [] initial :=
  ⟨rfl, iff_of_true rfl rfl⟩

theorem Tracks.step {past : List Token} {scanner : Scanner} (tracks : Tracks past scanner)
    {token : Token} (noComment : token.kind ≠ .comment) (notEnd : token.kind ≠ .eof) :
    Tracks (past ++ [token]) (scanner.step token) := by
  refine ⟨?_, ?_⟩
  · rw [length_openBlocks_step scanner notEnd, tracks.depth, depthAfter, depthAfter,
      List.foldl_append]
    rfl
  · rw [statement_step_eq_start_iff scanner noComment, List.getLast?_concat, Option.all_some]

/-- The name that is awaited in a statement, if the rest of the run completes its declaration. -/
def awaited : Statement → List Token → List Span
  | .name span, rest => if confirms rest then [span] else []
  | .value span, rest => if (closingKind rest).any (· ≠ .leftBrace) then [span] else []
  | .start, _ => []
  | .other, _ => []

theorem closingKind_cons (token : Token) (rest : List Token) :
    closingKind (token :: rest) =
      if token.kind.closesStatement then some token.kind else closingKind rest := by
  rw [closingKind, List.map_cons, List.find?_cons]
  cases token.kind.closesStatement <;> rfl

theorem confirms_cons (token : Token) (rest : List Token) :
    confirms (token :: rest) =
      (token.kind = .colon && (closingKind rest).any (· ≠ .leftBrace)) := by
  rw [confirms, kindAt, List.getElem?_cons_zero, List.drop_one, List.tail_cons]
  simp

/-- **The step.** A token completes the name that was awaited or goes on awaiting it; and a name at
the start of a statement inside a block is awaited from here on. -/
theorem declaredBy_append_awaited (scanner : Scanner) (token : Token) (rest : List Token)
    (noComment : token.kind ≠ .comment) :
    (scanner.declaredBy token).toList ++ awaited (scanner.step token).statement rest =
      awaited scanner.statement (token :: rest) ++
        if token.kind = .ident ∧ scanner.statement = .start ∧ 0 < scanner.openBlocks.length ∧
          confirms rest then [token.span] else [] := by
  obtain ⟨kind, span⟩ := token
  obtain ⟨statement, openBlocks⟩ := scanner
  cases statement with
  | start =>
      cases kind with
      | comment => exact absurd rfl noComment
      | ident => cases openBlocks <;> simp [declaredBy, Scanner.step, awaited]
      | _ => rfl
  | name name =>
      rw [if_neg fun awaits => Statement.noConfusion awaits.2.1, List.append_nil, awaited,
        confirms_cons]
      cases kind with
      | comment => exact absurd rfl noComment
      | colon => simp [declaredBy, Scanner.step, awaited]
      | _ => rfl
  | value name =>
      rw [if_neg fun awaits => Statement.noConfusion awaits.2.1, List.append_nil, awaited,
        closingKind_cons]
      cases kind with
      | comment => exact absurd rfl noComment
      | _ => rfl
  | other =>
      rw [if_neg fun awaits => Statement.noConfusion awaits.2.1, List.append_nil]
      cases kind with
      | comment => exact absurd rfl noComment
      | _ => rfl

/-! ### A whole run -/

/-- **A run to the end.** What is declared in the rest of a run is what is awaited, if that is
completed, and then the names in it at which a declaration begins. -/
theorem declared_eq_namesFrom {last : Token} (isLast : last.kind = .eof) {body : List Token}
    (inner : ∀ token ∈ body, token.kind ≠ .comment ∧ token.kind ≠ .eof) {past : List Token}
    {scanner : Scanner} (tracks : Tracks past scanner) :
    scanner.declared (body ++ [last]) =
      awaited scanner.statement (body ++ [last]) ++
        (namesFrom past (body ++ [last])).map (·.span) := by
  induction body generalizing past scanner with
  | nil =>
      have noComment : last.kind ≠ .comment := by
        rw [isLast]
        decide
      have noName : last.kind ≠ .ident := by
        rw [isLast]
        decide
      have ended : (scanner.step last).statement = .other := by
        unfold Scanner.step
        rw [isLast]
      have step := declaredBy_append_awaited scanner last [] noComment
      rw [ended, if_neg fun awaits => noName awaits.1] at step
      have noneBegins : namesFrom past [last] = [] := by
        rw [namesFrom_cons, if_neg fun declares => noName (declaresAt_length_iff.mp declares).1]
        rfl
      rw [List.nil_append, noneBegins]
      exact step
  | cons token body ih =>
      obtain ⟨⟨noComment, notEnd⟩, others⟩ := List.forall_mem_cons.mp inner
      have step := declaredBy_append_awaited scanner token (body ++ [last]) noComment
      have begins : DeclaresAt (past ++ token :: (body ++ [last])) past.length ↔
          token.kind = .ident ∧ scanner.statement = .start ∧ 0 < scanner.openBlocks.length ∧
            confirms (body ++ [last]) := by
        rw [declaresAt_length_iff, tracks.start, tracks.depth]
        tauto
      rw [List.cons_append, declared, ih others (tracks.step noComment notEnd), ← List.append_assoc,
        step, List.append_assoc, namesFrom_cons, List.map_append]
      congr 2
      simp only [begins]
      split <;> rfl

/-- Comments are passed over. -/
theorem declared_withoutComments (scanner : Scanner) (run : List Token) :
    scanner.declared (withoutComments run) = scanner.declared run := by
  induction run generalizing scanner with
  | nil => rfl
  | cons token run ih =>
      rw [withoutComments, List.filter_cons]
      split
      · rw [declared, declared, ← ih]
        rfl
      · rename_i isComment
        have isComment : token.kind = .comment := by simpa using isComment
        have same : scanner.step token = scanner := by
          unfold Scanner.step
          rw [isComment]
        have nothing : scanner.declaredBy token = none := by
          unfold declaredBy
          rw [isComment]
        rw [declared, same, nothing, Option.toList_none, List.nil_append, ← ih]
        rfl

end Scanner

/-- The end of a source is the last of its tokens when comments are left out, and no other. -/
theorem withoutComments_eof (source : String) :
    ∃ body last, withoutComments (tokens source) = body ++ [last] ∧ last.kind = .eof ∧
      ∀ token ∈ body, token.kind ≠ .comment ∧ token.kind ≠ .eof := by
  obtain ⟨body, last, split, isLast, others⟩ := Grammar.tokens_eof source
  refine ⟨withoutComments body, last, ?_, isLast, ?_⟩
  · rw [split, withoutComments, List.filter_append, List.filter_cons_of_pos, List.filter_nil]
    · rfl
    · rw [isLast]
      decide
  · intro token member
    obtain ⟨inBody, noComment⟩ := List.mem_filter.mp member
    exact ⟨by simpa using noComment, others token inBody⟩

/-- **The names that the pass declares** are those at which a declaration begins. -/
theorem declared_tokens (source : String) :
    Scanner.initial.declared (tokens source) =
      (declaredNames (withoutComments (tokens source))).map (·.span) := by
  obtain ⟨body, last, split, isLast, inner⟩ := withoutComments_eof source
  rw [← Scanner.declared_withoutComments, split, declaredNames_eq_namesFrom,
    Scanner.declared_eq_namesFrom isLast inner Scanner.tracks_initial]
  rfl

/-! ### The declarations of a source -/

/-- The tokens but for the comments do not overlap and stand in the order of the source. -/
theorem withoutComments_ascending (source : String) :
    (withoutComments (tokens source)).Pairwise fun first second =>
      first.span.stop ≤ second.span.start :=
  (Grammar.tokens_ascending source).sublist List.filter_sublist

theorem declaredNames_ascending (source : String) :
    (declaredNames (withoutComments (tokens source))).Pairwise fun first second =>
      first.span.stop ≤ second.span.start :=
  (withoutComments_ascending source).sublist (declaredNames_sublist _)

theorem mem_tokens_of_mem_declaredNames {source : String} {token : Token}
    (member : token ∈ declaredNames (withoutComments (tokens source))) : token ∈ tokens source :=
  List.mem_of_mem_filter ((declaredNames_sublist _).subset member)

theorem kind_of_mem_declaredNames {run : List Token} {token : Token}
    (member : token ∈ declaredNames run) : token.kind = .ident := by
  obtain ⟨place, declares, found⟩ := mem_declaredNames.mp member
  have name := declares.name
  rwa [kindAt, found, Option.map_some, Option.some.injEq] at name

/-- The declarations of a source are made from the names at which one begins. -/
theorem declarations_eq (source : String) :
    (Outline.ofSource source).declarations =
      (declaredNames (withoutComments (tokens source))).map fun token =>
        Outline.declarationAt source (LineTable.ofText source) token.span := by
  rw [Outline.ofSource, declared_tokens, List.map_map]
  rfl

example : (Outline.ofSource "a\x7bb:hover\x7bc:d").declarations = [⟨"c", ⟨10, 11⟩, 1, 11⟩] := by
  decide

/-- The declared names begin one behind the other. -/
theorem declaredNames_start_lt (source : String) :
    (declaredNames (withoutComments (tokens source))).Pairwise fun first second =>
      first.span.start < second.span.start := by
  refine (declaredNames_ascending source).imp_of_mem fun {first second} inFirst _ apart => ?_
  have notEnd : first.kind ≠ .eof := by
    rw [kind_of_mem_declaredNames inFirst]
    decide
  have inTokens := mem_tokens_of_mem_declaredNames inFirst
  exact (Grammar.tokens_start_lt_stop inTokens notEnd).trans_le apart

/-- **Declarations stand in the order of the source**, each once. -/
theorem declarations_ascending (source : String) :
    (Outline.ofSource source).declarations.Pairwise fun first second =>
      first.span.start < second.span.start := by
  rw [declarations_eq, List.pairwise_map]
  exact declaredNames_start_lt source

/-- A name has its span to itself. -/
theorem place_unique {run : List Token}
    (ascending : run.Pairwise fun first second => first.span.stop ≤ second.span.start)
    {place other : Nat} {token twin : Token} (found : run[place]? = some token)
    (foundOther : run[other]? = some twin) (nonempty : token.span.start < token.span.stop)
    (same : token.span = twin.span) : place = other := by
  obtain ⟨within, rfl⟩ := List.getElem?_eq_some_iff.mp found
  obtain ⟨withinOther, rfl⟩ := List.getElem?_eq_some_iff.mp foundOther
  rw [List.pairwise_iff_getElem] at ascending
  rcases Nat.lt_trichotomy place other with before | equal | behind
  · have apart := ascending place other within withinOther before
    rw [← same] at apart
    exact absurd apart (Nat.not_le_of_lt nonempty)
  · exact equal
  · have apart := ascending other place withinOther within behind
    rw [← same] at apart
    exact absurd apart (Nat.not_le_of_lt nonempty)

/-- The span of a declaration is that of a name at which one begins. -/
theorem exists_place_of_mem_declarations {source : String} {declaration : Declaration}
    (member : declaration ∈ (Outline.ofSource source).declarations) :
    ∃ place token, DeclaresAt (withoutComments (tokens source)) place ∧
      (withoutComments (tokens source))[place]? = some token ∧ token ∈ tokens source ∧
      token.kind = .ident ∧
      declaration = Outline.declarationAt source (LineTable.ofText source) token.span := by
  rw [declarations_eq, List.mem_map] at member
  obtain ⟨token, declared, rfl⟩ := member
  obtain ⟨place, declares, found⟩ := mem_declaredNames.mp declared
  exact ⟨place, token, declares, found, mem_tokens_of_mem_declaredNames declared,
    kind_of_mem_declaredNames declared, rfl⟩

/-- Behind a token that is not the end there is another one. -/
theorem succ_lt_length {source : String} {place : Nat} {kind : TokenKind}
    (found : kindAt (withoutComments (tokens source)) place = some kind) (notEnd : kind ≠ .eof) :
    place + 1 < (withoutComments (tokens source)).length := by
  obtain ⟨body, last, split, isLast, _⟩ := withoutComments_eof source
  rw [split] at found ⊢
  obtain ⟨token, here, rfl⟩ := Option.map_eq_some_iff.mp found
  have within : place < (body ++ [last]).length := (List.getElem?_eq_some_iff.mp here).1
  rw [List.length_append, List.length_singleton] at within ⊢
  refine Nat.succ_lt_succ (Nat.lt_of_le_of_ne (Nat.le_of_lt_succ within) ?_)
  rintro rfl
  rw [List.getElem?_concat_length, Option.some.injEq] at here
  exact notEnd (by rw [← here, isLast])

/-- A statement that no brace and no semicolon closes goes on to the end of the source. -/
theorem closingKind_eq_eof {source : String} {place : Nat}
    (within : place < (withoutComments (tokens source)).length)
    (unclosed : ∀ token ∈ (withoutComments (tokens source)).drop place,
      token.kind.opensStatement = false) :
    closingKind ((withoutComments (tokens source)).drop place) = some .eof := by
  obtain ⟨body, last, split, isLast, inner⟩ := withoutComments_eof source
  rw [split] at within unclosed ⊢
  have inBody : place ≤ body.length := by
    rw [List.length_append, List.length_singleton] at within
    exact Nat.le_of_lt_succ within
  rw [List.drop_append_of_le_length inBody] at unclosed ⊢
  have goesOn : ∀ token ∈ body.drop place, token.kind.closesStatement = false := by
    intro token member
    have notEnd := (inner token (List.mem_of_mem_drop member)).2
    rw [TokenKind.closesStatement, unclosed token (List.mem_append_left _ member), Bool.false_or]
    exact beq_eq_false_iff_ne.mpr notEnd
  have none : ((body.drop place).map (·.kind)).find? (·.closesStatement) = none := by
    rw [List.find?_eq_none]
    intro kind member
    obtain ⟨token, inRest, rfl⟩ := List.mem_map.mp member
    rw [goesOn token inRest]
    decide
  rw [closingKind, List.map_append, List.find?_append, none, Option.none_or, List.map_singleton,
    isLast]
  rfl

/-- **The declarations of a source by what surrounds them.** They are made of the names at which a
declaration begins, in order and each once. A name behind which a block opens before its statement
ends, such as that of a nested selector, is not declared; one whose statement runs to the end of the
source is. -/
theorem declarations_by_surroundings (source : String) :
    let run := withoutComments (tokens source)
    let declarations := (Outline.ofSource source).declarations
    declarations = (declaredNames run).map (fun token =>
        Outline.declarationAt source (LineTable.ofText source) token.span) ∧
      declarations.Pairwise (fun first second => first.span.start < second.span.start) ∧
      (∀ place token, run[place]? = some token →
        closingKind (run.drop (place + 2)) = some .leftBrace →
          ∀ declaration ∈ declarations, declaration.span ≠ token.span) ∧
      (∀ place token, run[place]? = some token → token.kind = .ident →
        0 < depthAfter (run.take place) → (kindAt run (place - 1)).any (·.opensStatement) →
        kindAt run (place + 1) = some .colon →
        (∀ later ∈ run.drop (place + 2), later.kind.opensStatement = false) →
          ∃ declaration ∈ declarations, declaration.span = token.span) := by
  intro run declarations
  refine ⟨declarations_eq source, declarations_ascending source, ?_, ?_⟩
  · intro place token found opens declaration member same
    obtain ⟨other, twin, declares, foundOther, inTokens, twinName, rfl⟩ :=
      exists_place_of_mem_declarations member
    have nonempty : twin.span.start < twin.span.stop :=
      Grammar.tokens_start_lt_stop inTokens (by rw [twinName]; decide)
    obtain rfl : other = place :=
      place_unique (withoutComments_ascending source) foundOther found nonempty same
    have noBlock := declares.noBlock
    rw [opens] at noBlock
    exact absurd noBlock (by decide)
  · intro place token found isName inside first colon unclosed
    have name : kindAt run place = some .ident := by rw [kindAt, found, Option.map_some, isName]
    have within : place + 1 + 1 < run.length := succ_lt_length colon (by decide)
    have runsOn : closingKind (run.drop (place + 2)) = some .eof :=
      closingKind_eq_eof within unclosed
    have declares : DeclaresAt run place := ⟨name, inside, first, colon, by rw [runsOn]; rfl⟩
    refine ⟨Outline.declarationAt source (LineTable.ofText source) token.span, ?_, rfl⟩
    show _ ∈ (Outline.ofSource source).declarations
    rw [declarations_eq]
    exact List.mem_map_of_mem (mem_declaredNames.mpr ⟨place, declares, found⟩)

end StyleBaseline
