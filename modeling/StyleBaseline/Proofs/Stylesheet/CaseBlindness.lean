/-
**Letter case and the grammar.** Every rule of the grammar takes a letter in both cases, so that a
text and the same text in another case are cut into the same tokens.

* `CaseBlind` — a language to which a word belongs in any case, and how such languages are put
  together.
* `caseBlind_words` — the words of each kind of token are such a language.
* `Tokenised.sameButCase` — a cut of a text is one of the text in another case.
* `tokens_sameButCase` — the tokens of a source in another case.
-/

import StyleBaseline.Proofs.Stylesheet.TokenPlaces
import StyleBaseline.Proofs.Text.Casing

namespace StyleBaseline.Grammar

open scoped Computability

/-! ### Classes of characters -/

/-- A class to which a letter belongs in both cases or in none. -/
def CaseBlindClass (allowed : Char → Prop) : Prop :=
  ∀ ⦃c d : Char⦄, c.toLower = d.toLower → allowed c → allowed d

namespace CaseBlindClass

variable {allowed other : Char → Prop}

theorem not (blind : CaseBlindClass allowed) : CaseBlindClass fun c => ¬ allowed c :=
  fun _ _ same isNot isAllowed => isNot (blind same.symm isAllowed)

theorem and (blind : CaseBlindClass allowed) (otherBlind : CaseBlindClass other) :
    CaseBlindClass fun c => allowed c ∧ other c :=
  fun _ _ same both => ⟨blind same both.1, otherBlind same both.2⟩

theorem or (blind : CaseBlindClass allowed) (otherBlind : CaseBlindClass other) :
    CaseBlindClass fun c => allowed c ∨ other c :=
  fun _ _ same either => either.imp (fun isAllowed => blind same isAllowed)
    (fun isOther => otherBlind same isOther)

theorem mark {mark : Char} (noLetter : ¬ mark.isAlpha) : CaseBlindClass (· = mark) :=
  fun _ _ same => (eq_mark_iff noLetter same).mp

theorem marks {marks : List Char} (noLetters : marks.any Char.isAlpha = false) :
    CaseBlindClass (· ∈ marks) := by
  intro c d same member
  have noLetter : ¬ c.isAlpha := List.any_eq_false.mp noLetters c member
  rwa [(eq_mark_iff noLetter same).mp rfl]

/-- A small letter with its capital. -/
theorem letter {small capital : Char} (isSmall : 97 ≤ small.toNat ∧ small.toNat ≤ 122)
    (paired : capital.toNat + 32 = small.toNat) : CaseBlindClass (· ∈ [small, capital]) := by
  intro c d same member
  have pair (e : Char) : e ∈ [small, capital] ↔ e.toLower = small := by
    rw [toLower_eq_iff isSmall paired, List.mem_pair]
  rw [pair] at member ⊢
  exact same.symm.trans member

theorem alpha : CaseBlindClass fun c => c.isAlpha := by
  intro c d same isLetter
  rw [isAlpha_iff] at isLetter ⊢
  rcases eq_or_paired same with rfl | paired
  · exact isLetter
  · omega

theorem digit : CaseBlindClass fun c => '0' ≤ c ∧ c ≤ '9' := by
  intro c d same isDigit
  have code : 48 ≤ c.toNat ∧ c.toNat ≤ 57 := isDigit
  rcases eq_or_paired same with rfl | paired
  · exact isDigit
  · omega

theorem spacing : CaseBlindClass Spacing :=
  CaseBlindClass.marks rfl

theorem nameStart : CaseBlindClass NameStart := by
  have split : NameStart = fun c => c.isAlpha ∨ c = '_' := by
    funext c
    have letter : c.isAlpha ↔ ('A' ≤ c ∧ c ≤ 'Z') ∨ ('a' ≤ c ∧ c ≤ 'z') := isAlpha_iff
    rw [letter, or_comm (a := 'A' ≤ c ∧ c ≤ 'Z'), or_assoc]
    rfl
  rw [split]
  exact alpha.or (mark (by decide))

theorem nameChar : CaseBlindClass NameChar :=
  nameStart.or (digit.or (mark (by decide)))

end CaseBlindClass

/-! ### Languages -/

/-- A language to which a word belongs in any case. -/
def CaseBlind (language : Language Char) : Prop :=
  ∀ ⦃word other : List Char⦄, SameButCase word other → word ∈ language → other ∈ language

theorem caseBlind_oneOf {allowed : Char → Prop} (blind : CaseBlindClass allowed) :
    CaseBlind (oneOf allowed) := by
  rintro _ other same ⟨c, isAllowed, rfl⟩
  obtain ⟨d, rest, rfl, letter, sameRest⟩ := same.cons_split
  rw [sameRest.eq_nil]
  exact ⟨d, blind letter isAllowed, rfl⟩

/-- A word without letters is written in one way only. -/
theorem caseBlind_exactly {text : String} (noLetters : text.toList.any Char.isAlpha = false) :
    CaseBlind (exactly text) := by
  rintro _ other same rfl
  exact same.eq_of_noLetters (List.any_eq_false.mp noLetters)

namespace CaseBlind

variable {language other : Language Char}

theorem one : CaseBlind 1 := by
  rintro _ other same rfl
  exact same.eq_nil

theorem add (blind : CaseBlind language) (otherBlind : CaseBlind other) :
    CaseBlind (language + other) :=
  fun _ _ same member => member.imp (fun isWord => blind same isWord)
    (fun isWord => otherBlind same isWord)

theorem mul (blind : CaseBlind language) (otherBlind : CaseBlind other) :
    CaseBlind (language * other) := by
  rintro _ _ same ⟨front, isFront, rest, isRest, rfl⟩
  obtain ⟨otherFront, otherRest, rfl, sameFront, sameRest⟩ := same.append_split
  exact Language.append_mem_mul (blind sameFront isFront) (otherBlind sameRest isRest)

theorem kstar (blind : CaseBlind language) : CaseBlind language∗ := by
  rintro _ other same ⟨parts, rfl, eachPart⟩
  induction parts generalizing other with
  | nil =>
      rw [same.eq_nil]
      exact Language.nil_mem_kstar language
  | cons part parts ih =>
      obtain ⟨isPart, others⟩ := List.forall_mem_cons.mp eachPart
      rw [List.flatten_cons] at same
      obtain ⟨front, rest, rfl, sameFront, sameRest⟩ := same.append_split
      obtain ⟨otherParts, rfl, eachOther⟩ := Language.mem_kstar.mp (ih others sameRest)
      have onePart : front ∈ language := blind sameFront isPart
      rw [← List.flatten_cons]
      exact Language.join_mem_kstar (List.forall_mem_cons.mpr ⟨onePart, eachOther⟩)

end CaseBlind

/-! ### The rules -/

open CaseBlindClass in
theorem caseBlind_comment : CaseBlind comment := by
  have star : CaseBlindClass (· = '*') := mark (by decide)
  have slash : CaseBlindClass (· = '/') := mark (by decide)
  have blindStars : CaseBlind stars :=
    (caseBlind_oneOf star).mul (caseBlind_oneOf star).kstar
  have blindItem : CaseBlind commentItem :=
    (caseBlind_oneOf star.not).add (blindStars.mul (caseBlind_oneOf (star.not.and slash.not)))
  have blindBody : CaseBlind commentBody :=
    blindItem.kstar.mul (blindStars.mul (caseBlind_exactly rfl))
  exact (caseBlind_exactly rfl).mul blindBody

open CaseBlindClass in
theorem caseBlind_quotedString {quote : Char} (noLetter : ¬ quote.isAlpha) :
    CaseBlind (quotedString quote) := by
  have isQuote : CaseBlindClass (· = quote) := mark noLetter
  have backslash : CaseBlindClass (· = '\\') := mark (by decide)
  have feed : CaseBlindClass (· = '\n') := mark (by decide)
  have blindItem : CaseBlind (stringItem quote) :=
    (caseBlind_oneOf (isQuote.not.and (backslash.not.and feed.not))).add
      ((caseBlind_exactly rfl).mul (caseBlind_oneOf feed.not))
  have blindBody : CaseBlind (stringBody quote) := blindItem.kstar.mul (caseBlind_oneOf isQuote)
  exact (caseBlind_oneOf isQuote).mul blindBody

/-- The letters of `url` are allowed in both cases one by one. -/
theorem caseBlind_address : CaseBlind address := by
  have u : CaseBlindClass (· ∈ ['u', 'U']) := CaseBlindClass.letter (by decide) rfl
  have r : CaseBlindClass (· ∈ ['r', 'R']) := CaseBlindClass.letter (by decide) rfl
  have l : CaseBlindClass (· ∈ ['l', 'L']) := CaseBlindClass.letter (by decide) rfl
  have ends : CaseBlindClass (· ∈ [')', '"', '\'']) := CaseBlindClass.marks rfl
  have blindBody : CaseBlind addressBody :=
    (caseBlind_oneOf ends.not).kstar.mul (caseBlind_exactly rfl)
  have blindEnd : CaseBlind (exactly "(" * addressBody) := (caseBlind_exactly rfl).mul blindBody
  exact (caseBlind_oneOf u).mul ((caseBlind_oneOf r).mul ((caseBlind_oneOf l).mul blindEnd))

theorem caseBlind_plainName : CaseBlind plainName :=
  (CaseBlind.one.add (caseBlind_exactly rfl)).mul
    ((caseBlind_oneOf .nameStart).mul (caseBlind_oneOf .nameChar).kstar)

theorem caseBlind_customName : CaseBlind customName :=
  (caseBlind_exactly rfl).mul
    ((caseBlind_oneOf .nameChar).mul (caseBlind_oneOf .nameChar).kstar)

/-- **The words of each kind of token** belong to it in any case. -/
theorem caseBlind_words (kind : TokenKind) : CaseBlind (words kind) := by
  cases kind with
  | comment => exact caseBlind_comment
  | string => exact (caseBlind_quotedString (by decide)).add (caseBlind_quotedString (by decide))
  | url => exact caseBlind_address
  | ident => exact caseBlind_plainName.add caseBlind_customName
  | atKeyword => exact (caseBlind_exactly rfl).mul caseBlind_plainName
  | leftBrace | rightBrace | semicolon | colon => exact caseBlind_exactly rfl
  | delim => exact caseBlind_oneOf CaseBlindClass.spacing.not
  | error | eof => exact fun _ _ _ member => absurd member (Language.notMem_zero _)

/-! ### Cuts -/

section Cuts

variable {word other rest otherRest : List Char}

theorem IsLexeme.sameButCase (isLexeme : IsLexeme word) (same : SameButCase word other) :
    IsLexeme other := by
  obtain ⟨kind, member⟩ := isLexeme
  exact ⟨kind, caseBlind_words kind same member⟩

/-- A longer word at the front in one case would be a longer one in the other. -/
theorem LongestAt.sameButCase (longest : LongestAt (word ++ rest) word)
    (same : SameButCase word other) (sameRest : SameButCase rest otherRest) :
    LongestAt (other ++ otherRest) other := by
  refine ⟨List.prefix_append _ _, longest.isLexeme.sameButCase same, fun atFront isLexeme => ?_⟩
  -- Whatever stands at the front in the other case is brought back to this one.
  obtain ⟨behind, whole⟩ := atFront
  have sameText : SameButCase (word ++ rest) (other ++ otherRest) := same.append sameRest
  rw [← whole] at sameText
  obtain ⟨front, _, split, sameFront, _⟩ := sameText.symm.append_split
  have length := longest.longest ⟨_, split.symm⟩ (isLexeme.sameButCase sameFront)
  rwa [sameFront.length_eq, ← same.length_eq]

theorem HasKind.sameButCase {kind : TokenKind} (hasKind : HasKind word kind)
    (same : SameButCase word other) : HasKind other kind :=
  ⟨caseBlind_words kind same hasKind.allowed, fun isDelim another member =>
    hasKind.delimLast isDelim another (caseBlind_words another same.symm member)⟩

/-- **A cut of a text is one of the text in another case.** -/
theorem Tokenised.sameButCase {here : Nat} {text : List Char} {run : List Token}
    (tokenised : Tokenised here text run) (same : SameButCase text other) :
    Tokenised here other run := by
  induction tokenised generalizing other with
  | @ending here spacing blank =>
      rw [same.byteLength_eq]
      exact .ending (same.forall_mem CaseBlindClass.spacing blank)
  | @token here spacing word rest kind run blank visible longest hasKind goesOn ih =>
      obtain ⟨otherSpacing, _, rfl, sameSpacing, sameText⟩ := same.append_split
      obtain ⟨otherWord, otherRest, rfl, sameWord, sameRest⟩ := sameText.append_split
      have isVisible : ∀ d, (otherWord ++ otherRest).head? = some d → ¬ Spacing d := by
        intro d isFirst
        obtain ⟨behind, split⟩ := List.head?_eq_some_iff.mp isFirst
        rw [split] at sameText
        obtain ⟨c, _, whole, letter, _⟩ := sameText.symm.cons_split
        exact CaseBlindClass.spacing.not letter.symm (visible c (by rw [whole]; rfl))
      -- The pieces take the same bytes, so that the next token begins at the same place.
      have later := ih sameRest
      rw [sameSpacing.byteLength_eq, sameWord.byteLength_eq] at later ⊢
      exact .token (sameSpacing.forall_mem CaseBlindClass.spacing blank) isVisible
        (longest.sameButCase sameWord sameRest) (hasKind.sameButCase sameWord) later

/-- **The tokens of a source** do not depend on the case of its letters. -/
theorem tokens_sameButCase {first second : String}
    (same : SameButCase first.toList second.toList) : tokens first = tokens second :=
  ((tokens_tokenised first).sameButCase same).unique

end Cuts

end StyleBaseline.Grammar
