/-
**Names in lower case.** A property is looked up by the small form of its name. The small forms are
a language of their own, the names without capitals: every name in lower case is one, and each of
them is the name of some declaration.

* `smallNames` — the regular expression.
* `map_toLower_ident` — lowering takes the names to it, rule by rule.
* `ascii_of_small` — there are neither capitals in it nor characters beyond ASCII.
* `name_longest` — a name is read to its end where a colon follows.
* `mem_smallNames_iff` — the names in lower case of all declarations of all sources.
-/

import StyleBaseline.Proofs.Stylesheet.CaseBlindness
import StyleBaseline.Proofs.Stylesheet.DeclarationPlaces
import StyleBaseline.Proofs.Stylesheet.OpaqueTokens
import StyleBaseline.Proofs.Stylesheet.PropertyNames

namespace StyleBaseline

namespace Grammar

open scoped Computability

/-! ### The regular expression -/

/-- What a small name can begin with: `[a-z_]`. -/
def SmallStart (c : Char) : Prop :=
  ('a' ≤ c ∧ c ≤ 'z') ∨ c = '_'

/-- What a small name can go on with: `[a-z0-9_\-]`. -/
def SmallChar (c : Char) : Prop :=
  SmallStart c ∨ ('0' ≤ c ∧ c ≤ '9') ∨ c = '-'

/-- The names in lower case: `-?[a-z_][a-z0-9_\-]*|--[a-z0-9_\-]+`. -/
def smallNames : Language Char :=
  (1 + exactly "-") * (oneOf SmallStart * (oneOf SmallChar)∗) +
    exactly "--" * (oneOf SmallChar * (oneOf SmallChar)∗)

/-! ### Lowering a language -/

/-- What begins a name and is no capital begins a small name. -/
theorem smallStart_iff {c : Char} : SmallStart c ↔ NameStart c ∧ ¬ c.isUpper := by
  have underscore : c = '_' ↔ c.toNat = 95 := Char.toNat_inj.symm
  have small : ('a' ≤ c ∧ c ≤ 'z') ↔ 97 ≤ c.toNat ∧ c.toNat ≤ 122 := Iff.rfl
  have capital : ('A' ≤ c ∧ c ≤ 'Z') ↔ 65 ≤ c.toNat ∧ c.toNat ≤ 90 := Iff.rfl
  rw [SmallStart, NameStart, isUpper_iff, underscore, small, capital]
  omega

theorem smallChar_iff {c : Char} : SmallChar c ↔ NameChar c ∧ ¬ c.isUpper := by
  have digit : ('0' ≤ c ∧ c ≤ '9') ↔ 48 ≤ c.toNat ∧ c.toNat ≤ 57 := Iff.rfl
  have hyphen : c = '-' ↔ c.toNat = 45 := Char.toNat_inj.symm
  have noCapital : ('0' ≤ c ∧ c ≤ '9') ∨ c = '-' → ¬ c.isUpper := by
    rw [digit, hyphen, isUpper_iff]
    omega
  rw [SmallChar, NameChar, smallStart_iff, or_and_right, and_iff_left_of_imp noCapital]

/-- Of a class of characters that is blind to case, lowering leaves those that are no capitals. -/
theorem map_toLower_oneOf {allowed : Char → Prop} (blind : CaseBlindClass allowed) :
    Language.map Char.toLower (oneOf allowed) = oneOf fun c => allowed c ∧ ¬ c.isUpper := by
  ext word
  constructor
  · rintro ⟨_, ⟨c, isAllowed, rfl⟩, rfl⟩
    have small : ¬ c.toLower.isUpper := not_isUpper_toLower c
    have lowered : allowed c.toLower := blind (toLower_of_not_isUpper small).symm isAllowed
    exact ⟨c.toLower, ⟨lowered, small⟩, rfl⟩
  · rintro ⟨c, ⟨isAllowed, notCapital⟩, rfl⟩
    refine ⟨[c], ⟨c, isAllowed, rfl⟩, ?_⟩
    rw [List.map_singleton, toLower_of_not_isUpper notCapital]

/-- Marks stay as they are. -/
theorem map_toLower_exactly {text : String} (small : text.toList.map Char.toLower = text.toList) :
    Language.map Char.toLower (exactly text) = exactly text :=
  (Set.image_singleton).trans (congrArg _ small)

/-- **Lowering takes the names to the small names.** -/
theorem map_toLower_ident : Language.map Char.toLower (words .ident) = smallNames := by
  have start : Language.map Char.toLower (oneOf NameStart) = oneOf SmallStart := by
    rw [map_toLower_oneOf CaseBlindClass.nameStart]
    simp only [← smallStart_iff]
  have others : Language.map Char.toLower (oneOf NameChar) = oneOf SmallChar := by
    rw [map_toLower_oneOf CaseBlindClass.nameChar]
    simp only [← smallChar_iff]
  have hyphen : Language.map Char.toLower (exactly "-") = exactly "-" := map_toLower_exactly rfl
  have hyphens : Language.map Char.toLower (exactly "--") = exactly "--" := map_toLower_exactly rfl
  show Language.map Char.toLower (plainName + customName) = smallNames
  simp only [plainName, customName, smallNames, map_add, map_mul, map_one, Language.map_kstar, start,
    others, hyphen, hyphens]

section Words

variable {name : String} {word : List Char}

/-- A name in lower case is a small name. -/
theorem lowercase_mem_smallNames (isName : name.toList ∈ words .ident) :
    (lowercase name).toList ∈ smallNames := by
  rw [toList_lowercase_name isName, ← map_toLower_ident]
  exact ⟨name.toList, isName, rfl⟩

/-- A small name is a name, and in lower case already. -/
theorem mem_ident_of_small (member : word ∈ smallNames) :
    word ∈ words .ident ∧ word.map Char.toLower = word := by
  rw [← map_toLower_ident] at member
  obtain ⟨other, isName, rfl⟩ := member
  have again : (other.map Char.toLower).map Char.toLower = other.map Char.toLower := by
    rw [List.map_map]
    exact List.map_congr_left fun c _ => toLower_of_not_isUpper (not_isUpper_toLower c)
  exact ⟨caseBlind_words .ident again.symm isName, again⟩

theorem lowercase_of_small (member : name.toList ∈ smallNames) : lowercase name = name := by
  obtain ⟨isName, small⟩ := mem_ident_of_small member
  rw [← String.toList_inj, toList_lowercase_name isName, small]

/-- **A small name has neither capitals nor characters beyond ASCII.** -/
theorem ascii_of_small (member : word ∈ smallNames) : ∀ c ∈ word, c.toNat < 128 ∧ ¬ c.isUpper := by
  obtain ⟨isName, small⟩ := mem_ident_of_small member
  intro c inWord
  have code := ((name_shape isName).2 c inWord).code
  rw [← small] at inWord
  obtain ⟨d, _, rfl⟩ := List.mem_map.mp inWord
  exact ⟨by omega, not_isUpper_toLower d⟩

/-! ### A declaration for each name -/

/-- A mark that is a word by itself is the whole token where it stands. -/
theorem mark_longest {kind : TokenKind} {mark : Char} (named : kind ≠ .delim)
    (onlyWord : ∀ word, word ∈ words kind ↔ word = [mark])
    (isKind : ∀ rest, kindOfWord (mark :: rest) = kind) (text : List Char) :
    LongestAt (mark :: text) [mark] ∧ HasKind [mark] kind := by
  refine longest_of_bound named ((onlyWord _).mpr rfl) ⟨text, rfl⟩ ?_
  intro otherKind other otherNamed isWord isFront
  obtain ⟨rest, rfl, sameKind⟩ := exists_cons_of_front otherNamed isWord isFront
  rw [← sameKind, isKind] at isWord
  rw [(onlyWord _).mp isWord]

/-- **A name is read to its end**, where a colon follows. -/
theorem name_longest (isName : word ∈ words .ident) :
    LongestAt (word ++ [':']) word ∧ HasKind word .ident := by
  refine longest_of_bound (by decide) isName ⟨[':'], rfl⟩ ?_
  intro otherKind other otherNamed isWord isFront
  obtain ⟨⟨c, rest, rfl, first⟩, chars⟩ := name_shape isName
  obtain ⟨more, rfl, isKind⟩ := exists_cons_of_front otherNamed isWord isFront
  by_contra longer
  -- a longer word takes the colon, too, and so it is no name; nor is it an address
  have whole : c :: more = c :: rest ++ [':'] := by
    refine isFront.eq_of_length_le ?_
    rw [List.length_append, List.length_singleton]
    omega
  have noParenthesis : '(' ∉ c :: more := by
    rw [whole, List.mem_append, List.mem_singleton]
    rintro (inName | isColon)
    · exact absurd (chars _ inName) (by decide)
    · exact absurd isColon (by decide)
  have isIdent : otherKind = .ident := isKind.symm.trans (kindOfWord_of_first first noParenthesis)
  have colon : ':' ∈ c :: more := by
    rw [whole]
    exact List.mem_append_right _ List.mem_cons_self
  rw [isIdent] at isWord
  exact absurd ((name_shape isWord).2 _ colon) (by decide)

/-- One token, if no white space stands in front of it. -/
theorem Tokenised.next {here : Nat} {rest : List Char} {kind : TokenKind} {run : List Token}
    (longest : LongestAt (word ++ rest) word ∧ HasKind word kind)
    (goesOn : Tokenised (here + byteLength word) rest run) :
    Tokenised here (word ++ rest) (⟨kind, ⟨here, here + byteLength word⟩⟩ :: run) := by
  have visible : ∀ c, (word ++ rest).head? = some c → ¬ Spacing c := by
    obtain ⟨c, more, rfl, isVisible⟩ := words_visible longest.2.allowed
    intro d head
    obtain rfl : c = d := Option.some.inj head
    exact isVisible
  exact .token (List.forall_mem_nil _) visible longest.1 longest.2 goesOn

theorem toList_oneName (name : String) :
    ("\x7b" ++ name ++ ":").toList = ['\x7b'] ++ (name.toList ++ [':']) := by
  rw [String.toList_append, String.toList_append, List.append_assoc]
  rfl

/-- A block with a name and a colon in it, cut into its tokens. -/
theorem tokens_oneName (isName : name.toList ∈ words .ident) :
    ∃ opening colon ending, tokens ("\x7b" ++ name ++ ":") =
      [⟨.leftBrace, opening⟩, ⟨.ident, spanOf ['\x7b'] name.toList⟩, ⟨.colon, colon⟩,
        ⟨.eof, ending⟩] := by
  have onlyBrace : ∀ word, word ∈ words .leftBrace ↔ word = ['\x7b'] := fun _ => mem_exactly
  have onlyColon : ∀ word, word ∈ words .colon ↔ word = [':'] := fun _ => mem_exactly
  have ended (here : Nat) : ∃ colon ending,
      Tokenised here ([':'] ++ []) [⟨.colon, colon⟩, ⟨.eof, ending⟩] :=
    ⟨_, _, .next (mark_longest (by decide) onlyColon (fun _ => rfl) [])
      (.ending (List.forall_mem_nil _))⟩
  obtain ⟨colon, ending, goesOn⟩ := ended (byteLength ['\x7b'] + byteLength name.toList)
  have cut : Tokenised 0 (['\x7b'] ++ (name.toList ++ [':']))
      [⟨.leftBrace, spanOf [] ['\x7b']⟩, ⟨.ident, spanOf ['\x7b'] name.toList⟩, ⟨.colon, colon⟩,
        ⟨.eof, ending⟩] :=
    .next (mark_longest (by decide) onlyBrace (fun _ => rfl) _) (.next (name_longest isName) goesOn)
  refine ⟨spanOf [] ['\x7b'], colon, ending, ?_⟩
  rw [tokens, toList_oneName]
  exact cut.unique.symm

end Words

end Grammar

/-- **Each name is that of some declaration.** -/
theorem property_oneName {name : String} (isName : name.toList ∈ Grammar.words .ident) :
    (Outline.ofSource ("\x7b" ++ name ++ ":")).declarations.map (·.property) = [name] := by
  obtain ⟨opening, colon, ending, cut⟩ := Grammar.tokens_oneName isName
  rw [Outline.ofSource, cut]
  show [(Outline.declarationAt _ _ (spanOf ['\x7b'] name.toList)).property] = [name]
  rw [declarationAt_of_split (Grammar.toList_oneName name), String.ofList_toList]

/-- **The small names are the names in lower case** of all declarations of all sources. -/
theorem Grammar.mem_smallNames_iff {name : String} :
    name.toList ∈ smallNames ↔ ∃ source, ∃ declaration ∈ (Outline.ofSource source).declarations,
      lowercase declaration.property = name := by
  constructor
  · intro member
    have declares : name ∈ (Outline.ofSource ("\x7b" ++ name ++ ":")).declarations.map
        (·.property) := by
      rw [property_oneName (mem_ident_of_small member).1]
      exact List.mem_singleton_self name
    obtain ⟨declaration, declared, rfl⟩ := List.mem_map.mp declares
    exact ⟨_, declaration, declared, lowercase_of_small member⟩
  · rintro ⟨source, declaration, declared, rfl⟩
    exact lowercase_mem_smallNames (property_mem_words declared)

end StyleBaseline
