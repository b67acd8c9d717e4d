/-
**Where tokens stand.** Each token takes the bytes of a word of its kind; tokens follow each other
without overlap; and the end of the source comes last and only once.

* `Tokenised.place_longest`, `Tokenised.place` — the stretch of the text that a token takes.
* `tokens_text` — the text of a token is a word of its kind.
* `tokens_ascending` — a token ends where the next one begins, or before that.
* `tokens_eof` — the end of the source is the last token and no other.
-/

import Mathlib.Data.List.Pairwise
import StyleBaseline.Proofs.Stylesheet.MaximalMunch
import StyleBaseline.Proofs.Text.Stretches

namespace StyleBaseline.Grammar

/-! ### Along a cut -/

/-- **The place of a token**: it takes the bytes of the longest word at that place, and is of its
kind; or, being the end, it takes none at the end of the text. -/
theorem Tokenised.place_longest {here : Nat} {text : List Char} {run : List Token}
    (tokenised : Tokenised here text run) {token : Token} (member : token ∈ run) :
    ∃ before word after, text = before ++ (word ++ after) ∧
      token.span = ⟨here + byteLength before, here + byteLength before + byteLength word⟩ ∧
      ((token.kind = .eof ∧ word = [] ∧ after = []) ∨
        (LongestAt (word ++ after) word ∧ HasKind word token.kind)) := by
  induction tokenised with
  | @ending here spacing blank =>
      obtain rfl := List.mem_singleton.mp member
      exact ⟨spacing, [], [], by simp, rfl, Or.inl ⟨rfl, rfl, rfl⟩⟩
  | @token here spacing word rest kind run blank visible longest hasKind goesOn ih =>
      rcases List.mem_cons.mp member with rfl | later
      · exact ⟨spacing, word, rest, rfl, rfl, Or.inr ⟨longest, hasKind⟩⟩
      · obtain ⟨before, inner, after, rfl, span, kinds⟩ := ih later
        refine ⟨spacing ++ (word ++ before), inner, after, by simp, ?_, kinds⟩
        rw [span, byteLength_append, byteLength_append]
        simp only [Nat.add_assoc]

/-- A token takes the bytes of a word of its kind, or, being the end, none at the end of the text. -/
theorem Tokenised.place {here : Nat} {text : List Char} {run : List Token}
    (tokenised : Tokenised here text run) {token : Token} (member : token ∈ run) :
    ∃ before word after, text = before ++ (word ++ after) ∧
      token.span = ⟨here + byteLength before, here + byteLength before + byteLength word⟩ ∧
      ((token.kind = .eof ∧ word = [] ∧ after = []) ∨ word ∈ words token.kind) := by
  obtain ⟨before, word, after, split, span, kinds⟩ := tokenised.place_longest member
  exact ⟨before, word, after, split, span, kinds.imp_right fun atPlace => atPlace.2.allowed⟩

/-- A cut of a text that begins at a place has no token before that place. -/
theorem Tokenised.le_start {here : Nat} {text : List Char} {run : List Token}
    (tokenised : Tokenised here text run) {token : Token} (member : token ∈ run) :
    here ≤ token.span.start := by
  obtain ⟨before, word, after, _, span, _⟩ := tokenised.place member
  rw [span]
  exact Nat.le_add_right _ _

/-- **Tokens do not overlap** and stand in the order of the text. -/
theorem Tokenised.ascending {here : Nat} {text : List Char} {run : List Token}
    (tokenised : Tokenised here text run) :
    run.Pairwise fun first second => first.span.stop ≤ second.span.start := by
  induction tokenised with
  | ending => exact List.pairwise_singleton _ _
  | token _ _ _ _ goesOn ih =>
      exact List.pairwise_cons.mpr ⟨fun later member => goesOn.le_start member, ih⟩

/-- **The end comes last** and only once. -/
theorem Tokenised.eof {here : Nat} {text : List Char} {run : List Token}
    (tokenised : Tokenised here text run) :
    ∃ body last, run = body ++ [last] ∧ last.kind = .eof ∧ ∀ token ∈ body, token.kind ≠ .eof := by
  induction tokenised with
  | ending => exact ⟨[], _, rfl, rfl, fun _ member => absurd member List.not_mem_nil⟩
  | @token here spacing word rest kind run blank visible longest hasKind goesOn ih =>
      obtain ⟨body, last, rfl, isLast, others⟩ := ih
      refine ⟨_ :: body, last, rfl, isLast, List.forall_mem_cons.mpr ⟨?_, others⟩⟩
      rintro rfl
      exact Language.notMem_zero _ hasKind.allowed

/-! ### The tokens of a source -/

section Source

variable {source : String} {token : Token}

theorem tokens_tokenised (source : String) : Tokenised 0 source.toList (tokens source) :=
  tokensFrom_tokenised source.toList 0

/-- **The text of a token** is a word of its kind. -/
theorem tokens_text (member : token ∈ tokens source) (notEnd : token.kind ≠ .eof) :
    (token.span.textIn source).toList ∈ words token.kind := by
  obtain ⟨before, word, after, split, span, kinds⟩ := (tokens_tokenised source).place member
  rw [Nat.zero_add] at span
  rw [span, textIn_of_split split, String.toList_ofList]
  exact kinds.resolve_left fun ending => notEnd ending.1

/-- No token but the last is empty. -/
theorem tokens_start_lt_stop (member : token ∈ tokens source) (notEnd : token.kind ≠ .eof) :
    token.span.start < token.span.stop := by
  obtain ⟨before, word, after, _, span, kinds⟩ := (tokens_tokenised source).place member
  obtain ⟨c, rest, rfl, _⟩ := words_visible (kinds.resolve_left fun ending => notEnd ending.1)
  rw [span]
  exact Nat.lt_add_of_pos_right (byteLength_pos (List.cons_ne_nil c rest))

/-- **At the place of a token** stands the longest word there, and the token is of its kind. -/
theorem tokens_longest (member : token ∈ tokens source) {before text : List Char}
    (split : source.toList = before ++ text) (starts : token.span.start = byteLength before)
    (nonempty : text ≠ []) :
    ∃ word, LongestAt text word ∧ HasKind word token.kind ∧
      token.span = ⟨byteLength before, byteLength before + byteLength word⟩ := by
  obtain ⟨front, word, after, apart, span, kinds⟩ := (tokens_tokenised source).place_longest member
  rw [Nat.zero_add] at span
  have place : byteLength front = byteLength before := by rw [← starts, span]
  obtain ⟨rfl, rfl⟩ := append_inj_of_byteLength (apart.symm.trans split) place
  rcases kinds with ⟨_, rfl, rfl⟩ | ⟨longest, hasKind⟩
  · exact absurd rfl nonempty
  · exact ⟨word, longest, hasKind, span⟩

theorem tokens_ascending (source : String) :
    (tokens source).Pairwise fun first second => first.span.stop ≤ second.span.start :=
  (tokens_tokenised source).ascending

/-- Of two tokens one stands before the other. -/
theorem tokens_apart {other : Token} (member : token ∈ tokens source)
    (otherMember : other ∈ tokens source) (different : token ≠ other) :
    token.span.stop ≤ other.span.start ∨ other.span.stop ≤ token.span.start := by
  have symmetric : Std.Symm fun one two : Token =>
      one.span.stop ≤ two.span.start ∨ two.span.stop ≤ one.span.start := ⟨fun _ _ => Or.symm⟩
  have apart : (tokens source).Pairwise fun one two : Token =>
      one.span.stop ≤ two.span.start ∨ two.span.stop ≤ one.span.start :=
    (tokens_ascending source).imp Or.inl
  exact apart.forall member otherMember different

/-- The token that begins later begins behind the other one. -/
theorem tokens_stop_le_start {other : Token} (member : token ∈ tokens source)
    (otherMember : other ∈ tokens source) (notEnd : other.kind ≠ .eof)
    (before : token.span.start < other.span.start) : token.span.stop ≤ other.span.start := by
  have different : token ≠ other := fun same =>
    absurd before (by rw [same]; exact Nat.lt_irrefl other.span.start)
  have nonempty := tokens_start_lt_stop otherMember notEnd
  rcases tokens_apart member otherMember different with ahead | behind
  · exact ahead
  · omega

/-- No two tokens begin at one place, but for the end of the source. -/
theorem tokens_start_injective {other : Token} (member : token ∈ tokens source)
    (otherMember : other ∈ tokens source) (notEnd : token.kind ≠ .eof)
    (otherNotEnd : other.kind ≠ .eof) (same : token.span.start = other.span.start) :
    token = other := by
  have nonempty := tokens_start_lt_stop member notEnd
  have otherNonempty := tokens_start_lt_stop otherMember otherNotEnd
  by_contra different
  rcases tokens_apart member otherMember different with ahead | behind <;> omega

theorem tokens_eof (source : String) :
    ∃ body last, tokens source = body ++ [last] ∧ last.kind = .eof ∧
      ∀ token ∈ body, token.kind ≠ .eof :=
  (tokens_tokenised source).eof

end Source

end StyleBaseline.Grammar
