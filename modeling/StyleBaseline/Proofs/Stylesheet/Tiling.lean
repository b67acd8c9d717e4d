/-
**Tokens tile a source.** Side by side the tokens of a source take all of it but white space: each
of them is a stretch between two boundaries of characters that begins with a visible character, none
overlaps another, and a byte that no token takes is a byte of white space. At the end of the source
stands the one token that takes nothing.

* `Tokenised.length_le` — a cut has no more tokens than characters, and the end.
* `Tokenised.covers` — a byte of a text is taken by a token, or it is white space.
* `tokens_tile` — the tokens of a source.
-/

import StyleBaseline.Proofs.Stylesheet.TokenPlaces
import StyleBaseline.Proofs.Text.Utf8

namespace StyleBaseline

/-- Whether a span takes the byte at an offset. -/
def Span.Covers (span : Span) (offset : Nat) : Prop :=
  span.start ≤ offset ∧ offset < span.stop

namespace Grammar

/-! ### Bytes of white space -/

/-- The bytes of space, tab, carriage return, line feed and form feed. -/
def spacingBytes : List UInt8 :=
  [0x20, 0x09, 0x0d, 0x0a, 0x0c]

@[simp]
theorem length_encodeUtf8 (cs : List Char) : (encodeUtf8 cs).length = byteLength cs := by
  induction cs with
  | nil => rfl
  | cons c cs ih =>
      simp [ih, byteLength]

@[simp]
theorem encodeUtf8_append (cs ds : List Char) :
    encodeUtf8 (cs ++ ds) = encodeUtf8 cs ++ encodeUtf8 ds :=
  List.flatMap_append

/-- White space is written with the bytes of white space. -/
theorem mem_spacingBytes {spacing : List Char} (blank : ∀ c ∈ spacing, Spacing c) {b : UInt8}
    (member : b ∈ encodeUtf8 spacing) : b ∈ spacingBytes := by
  obtain ⟨c, inSpacing, isByte⟩ := List.mem_flatMap.mp member
  have isSpacing := blank c inSpacing
  simp only [Spacing, List.mem_cons, List.not_mem_nil, or_false] at isSpacing
  rcases isSpacing with rfl | rfl | rfl | rfl | rfl <;>
    exact List.mem_singleton.mp isByte ▸ by decide

/-! ### Along a cut -/

/-- **A cut ends**: it has at most one token for each character, and the end. -/
theorem Tokenised.length_le {here : Nat} {text : List Char} {run : List Token}
    (tokenised : Tokenised here text run) : run.length ≤ text.length + 1 := by
  induction tokenised with
  | ending => exact Nat.le_add_left 1 _
  | @token here spacing word rest kind run blank visible longest hasKind goesOn ih =>
      obtain ⟨c, cs, rfl, _⟩ := words_visible hasKind.allowed
      simp only [List.length_cons, List.length_append]
      omega

/-- **Nothing but white space is left out**: a byte of a text is taken by a token, or it is a byte of
white space. -/
theorem Tokenised.covers {here : Nat} {text : List Char} {run : List Token}
    (tokenised : Tokenised here text run) {offset : Nat} (within : offset < byteLength text) :
    (∃ token ∈ run, token.span.Covers (here + offset)) ∨
      ∃ b ∈ spacingBytes, (encodeUtf8 text)[offset]? = some b := by
  induction tokenised generalizing offset with
  | @ending here spacing blank =>
      rw [← length_encodeUtf8] at within
      exact Or.inr ⟨_, mem_spacingBytes blank (List.getElem_mem within),
        List.getElem?_eq_getElem within⟩
  | @token here spacing word rest kind run blank visible longest hasKind goesOn ih =>
      rw [encodeUtf8_append, encodeUtf8_append]
      rw [byteLength_append, byteLength_append] at within
      by_cases before : offset < byteLength spacing
      · rw [← length_encodeUtf8] at before
        refine Or.inr ⟨_, mem_spacingBytes blank (List.getElem_mem before), ?_⟩
        rw [List.getElem?_append_left before, List.getElem?_eq_getElem before]
      by_cases inside : offset < byteLength spacing + byteLength word
      · refine Or.inl ⟨_, List.mem_cons_self, ?_⟩
        show here + byteLength spacing ≤ here + offset ∧ here + offset < here + _ + _
        omega
      -- the offset counts from behind the word in what remains
      obtain ⟨further, rfl⟩ : ∃ further, offset = byteLength spacing + byteLength word + further :=
        ⟨offset - (byteLength spacing + byteLength word), by omega⟩
      have behind : further < byteLength rest := by omega
      rcases ih behind with ⟨token, later, covers⟩ | ⟨b, isSpacing, found⟩
      · refine Or.inl ⟨token, List.mem_cons_of_mem _ later, ?_⟩
        rwa [← Nat.add_assoc, ← Nat.add_assoc]
      · refine Or.inr ⟨b, isSpacing, ?_⟩
        rw [List.getElem?_append_right, List.getElem?_append_right, length_encodeUtf8,
          length_encodeUtf8, ← found]
        · congr 1
          omega
        · rw [length_encodeUtf8, length_encodeUtf8]
          omega
        · rw [length_encodeUtf8]
          omega

/-- The end of a text is told by the offset behind its last byte. -/
theorem Tokenised.span_eof {here : Nat} {text : List Char} {run : List Token}
    (tokenised : Tokenised here text run) {token : Token} (member : token ∈ run)
    (ending : token.kind = .eof) :
    token = ⟨.eof, ⟨here + byteLength text, here + byteLength text⟩⟩ := by
  obtain ⟨before, word, after, rfl, span, kinds⟩ := tokenised.place member
  obtain ⟨kind, place⟩ := token
  obtain rfl : kind = .eof := ending
  rcases kinds with ⟨_, rfl, rfl⟩ | isWord
  · rw [List.append_nil, List.append_nil]
    exact congrArg (Token.mk .eof) span
  · exact absurd isWord (Language.notMem_zero _)

/-! ### The tokens of a source -/

/-- **A token takes a stretch of a source**: one between two boundaries of characters that begins
with a visible character. -/
structure TakesStretch (source : String) (token : Token) : Prop where
  notEnd : token.kind ≠ .eof
  notError : token.kind ≠ .error
  nonempty : token.span.start < token.span.stop
  within : token.span.stop ≤ source.utf8ByteSize
  startValid : (⟨token.span.start⟩ : String.Pos.Raw).IsValid source
  stopValid : (⟨token.span.stop⟩ : String.Pos.Raw).IsValid source
  visible : ∃ c rest, (token.span.textIn source).toList = c :: rest ∧ ¬ Spacing c

theorem takesStretch_of_mem_tokens {source : String} {token : Token}
    (member : token ∈ tokens source) (notEnd : token.kind ≠ .eof) : TakesStretch source token := by
  obtain ⟨before, word, after, split, span, kinds⟩ := (tokens_tokenised source).place member
  have isWord := tokens_text member notEnd
  have stop : token.span.stop = byteLength (before ++ word) := by
    simp [span]
  have whole : source.toList = (before ++ word) ++ after := by rw [split, List.append_assoc]
  refine ⟨notEnd, ?_, tokens_start_lt_stop member notEnd, ?_, ?_, ?_, words_visible isWord⟩
  · intro isError
    rw [isError] at isWord
    exact Language.notMem_zero _ isWord
  · rw [stop, utf8ByteSize_eq_byteLength, whole, byteLength_append (before ++ word)]
    exact Nat.le_add_right _ _
  · rw [span]
    show (⟨0 + byteLength before⟩ : String.Pos.Raw).IsValid source
    rw [Nat.zero_add]
    exact isValid_of_split split
  · rw [stop]
    exact isValid_of_split whole

/-- **Tokens tile a source.** There are finitely many of them, no more than characters and one. The
last one, and no other, is the end of the source and stands behind its last byte; each of the others
takes a stretch that begins with a visible character, and none is an error. They stand in the order
of the source without overlap, and every byte that none of them takes is white space. -/
theorem tokens_tile (source : String) :
    ∃ body, tokens source =
        body ++ [⟨.eof, ⟨source.utf8ByteSize, source.utf8ByteSize⟩⟩] ∧
      body.length ≤ source.length ∧
      (∀ token ∈ body, TakesStretch source token) ∧
      (tokens source).Pairwise (fun first second => first.span.stop ≤ second.span.start) ∧
      ∀ offset < source.utf8ByteSize, (∀ token ∈ tokens source, ¬ token.span.Covers offset) →
        ∃ b ∈ spacingBytes, (encodeUtf8 source.toList)[offset]? = some b := by
  have tokenised := tokens_tokenised source
  obtain ⟨body, last, run, isLast, others⟩ := tokens_eof source
  have inRun : ∀ token ∈ body, token ∈ tokens source := fun token member => by
    rw [run]
    exact List.mem_append_left _ member
  refine ⟨body, ?_, ?_, fun token member =>
    takesStretch_of_mem_tokens (inRun token member) (others token member),
    tokens_ascending source, fun offset within uncovered => ?_⟩
  · have atEnd : last ∈ tokens source := by
      rw [run]
      exact List.mem_append_right _ (List.mem_singleton_self _)
    have ending := tokenised.span_eof atEnd isLast
    rw [Nat.zero_add, ← utf8ByteSize_eq_byteLength] at ending
    rw [run, ending]
  · have count := tokenised.length_le
    rw [run, List.length_append, List.length_singleton, String.length_toList] at count
    exact Nat.le_of_succ_le_succ count
  · rw [utf8ByteSize_eq_byteLength] at within
    rcases tokenised.covers within with ⟨token, member, covers⟩ | blank
    · rw [Nat.zero_add] at covers
      exact absurd covers (uncovered token member)
    · exact blank

end Grammar

end StyleBaseline
