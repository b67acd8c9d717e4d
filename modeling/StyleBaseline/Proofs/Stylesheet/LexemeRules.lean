/-
**Each rule reads its language.** A rule of the tokeniser gives the length of the longest word of
its kind at the front of a text, and nothing where no word of that kind stands there.

* `Reads` — the two halves of that statement. A rule that answers has found a word; where a word
  stands, the rule answers with at least its length.
* `rule_reads` — every rule reads the words of its kind.
* `exists_rule` — and for every word of a kind there is a rule that reads it.
-/

import Mathlib.Data.List.TakeWhile
import StyleBaseline.Proofs.Stylesheet.Grammar
import StyleBaseline.Proofs.Text.Casing
import StyleBaseline.Stylesheet.Lexeme

namespace StyleBaseline.Grammar

open scoped Computability

/-! ### Classes of characters -/

theorem isSpacing_iff {c : Char} : isSpacing c = true ↔ Spacing c := by
  simp [isSpacing, Spacing, or_assoc]

theorem isNameStart_iff {c : Char} : isNameStart c = true ↔ NameStart c := by
  have capital : c.isUpper = true ↔ 'A' ≤ c ∧ c ≤ 'Z' := decide_eq_true_iff
  have small : c.isLower = true ↔ 'a' ≤ c ∧ c ≤ 'z' := by
    show (decide ('a' ≤ c) && decide (c ≤ 'z')) = true ↔ _
    simp only [Bool.and_eq_true, decide_eq_true_eq]
  have letter : c.isAlpha = (c.isUpper || c.isLower) := rfl
  rw [isNameStart, letter, Bool.or_eq_true, Bool.or_eq_true, capital, small, beq_iff_eq, NameStart]
  tauto

theorem isNameChar_iff {c : Char} : isNameChar c = true ↔ NameChar c := by
  have digit : c.isDigit = true ↔ '0' ≤ c ∧ c ≤ '9' := by
    show (decide ('0' ≤ c) && decide (c ≤ '9')) = true ↔ _
    simp only [Bool.and_eq_true, decide_eq_true_eq]
  rw [isNameChar, Bool.or_eq_true, Bool.or_eq_true, isNameStart_iff, digit, beq_iff_eq, NameChar,
    or_assoc]

/-! ### What it is to read a language -/

/-- **A rule reads a language**: it answers only where a word of the language stands in front, and
there it answers with no less than the length of that word. -/
structure Reads (length? : List Char → Option Nat) (language : Language Char) : Prop where
  sound : ∀ {text count}, length? text = some count →
    ∃ word rest, text = word ++ rest ∧ word ∈ language ∧ word.length = count
  complete : ∀ {word}, word ∈ language → ∀ rest,
    ∃ count, length? (word ++ rest) = some count ∧ word.length ≤ count

namespace Reads

variable {length? : List Char → Option Nat} {language : Language Char}

/-- A rule with a fixed front reads what a rule for the rest reads behind that front. -/
theorem behind {front : Language Char} {whole? : List Char → Option Nat}
    (reads : Reads length? language)
    (goesOn : ∀ first ∈ front, ∀ cs, whole? (first ++ cs) = (length? cs).map (· + first.length))
    (only : ∀ {text count}, whole? text = some count → ∃ first ∈ front, first <+: text) :
    Reads whole? (front * language) where
  sound := by
    intro text count answer
    obtain ⟨first, inFront, cs, rfl⟩ := only answer
    rw [goesOn first inFront] at answer
    obtain ⟨behind, body, rfl⟩ := Option.map_eq_some_iff.mp answer
    obtain ⟨word, rest, rfl, member, rfl⟩ := reads.sound body
    exact ⟨first ++ word, rest, (List.append_assoc _ _ _).symm,
      Language.append_mem_mul inFront member, by rw [List.length_append, Nat.add_comm]⟩
  complete := by
    intro word member rest
    obtain ⟨first, inFront, body, isBody, rfl⟩ := Language.mem_mul.mp member
    obtain ⟨count, answer, bound⟩ := reads.complete isBody rest
    refine ⟨count + first.length, ?_, ?_⟩
    · rw [List.append_assoc, goesOn first inFront, answer, Option.map_some]
    · rw [List.length_append, Nat.add_comm]
      exact Nat.add_le_add_right bound _

/-- With an item in front of it, a word that is a run of items with an ending behind it is one item
longer. -/
theorem sound_of_item {item ending : Language Char} {first text : List Char} {count : Nat}
    (isItem : first ∈ item)
    (found : ∃ word rest, text = word ++ rest ∧ word ∈ item∗ * ending ∧ word.length = count) :
    ∃ word rest, first ++ text = word ++ rest ∧ word ∈ item∗ * ending ∧
      word.length = count + first.length := by
  obtain ⟨word, rest, rfl, member, rfl⟩ := found
  refine ⟨first ++ word, rest, (List.append_assoc _ _ _).symm, ?_, ?_⟩
  · exact mem_kstar_mul.mpr (Or.inr ⟨first, isItem, word, member, rfl⟩)
  · rw [List.length_append, Nat.add_comm]

/-- A rule that passes over items and stops at an ending answers on every run of items with an
ending behind it. -/
theorem complete_of_items {item ending : Language Char}
    (passes : ∀ first ∈ item, ∀ rest,
      length? (first ++ rest) = (length? rest).map (· + first.length))
    (stops : ∀ last ∈ ending, ∀ rest, length? (last ++ rest) = some last.length)
    {word : List Char} (member : word ∈ item∗ * ending) (rest : List Char) :
    ∃ count, length? (word ++ rest) = some count ∧ word.length ≤ count := by
  refine ⟨word.length, ?_, Nat.le_refl _⟩
  refine kstar_mul_induction (motive := fun word => length? (word ++ rest) = some word.length)
    (fun last isLast => stops last isLast rest) (fun first isItem body ih => ?_) member
  rw [List.append_assoc, passes first isItem, ih, Option.map_some, List.length_append,
    Nat.add_comm]

end Reads

/-! ### Names -/

/-- Allowed characters at the front of a text go no further than the longest run of them. -/
theorem length_le_takeWhile {test : Char → Bool} {word : List Char}
    (passes : ∀ c ∈ word, test c = true) (rest : List Char) :
    word.length ≤ ((word ++ rest).takeWhile test).length := by
  rw [List.takeWhile_append_of_pos passes, List.length_append]
  exact Nat.le_add_right _ _

theorem nameChar_of_mem_takeWhile {cs : List Char} :
    ∀ c ∈ cs.takeWhile isNameChar, NameChar c :=
  fun _ member => isNameChar_iff.mp (List.mem_takeWhile_imp member)

theorem plainNameLength?_cons {c : Char} {cs : List Char} (start : NameStart c) :
    plainNameLength? (c :: cs) = some ((cs.takeWhile isNameChar).length + 1) := by
  have noHyphen : c ≠ '-' := fun same => absurd (same ▸ start) (by decide)
  unfold plainNameLength?
  split
  · rename_i same
    exact absurd (List.cons.inj same).1 noHyphen
  · rename_i same
    obtain ⟨rfl, rfl⟩ := List.cons.inj same
    rw [if_pos (isNameStart_iff.mpr start)]
  · rename_i same
    cases same

theorem plainNameLength?_hyphen {c : Char} {cs : List Char} (start : NameStart c) :
    plainNameLength? ('-' :: c :: cs) = some ((cs.takeWhile isNameChar).length + 2) := by
  rw [plainNameLength?, if_pos (isNameStart_iff.mpr start)]

/-- **Plain names.** -/
theorem plainName_reads : Reads plainNameLength? plainName where
  sound := by
    intro text count answer
    unfold plainNameLength? at answer
    split at answer
    · rename_i c cs
      split at answer
      · rename_i start
        obtain rfl := Option.some.inj answer
        refine ⟨'-' :: c :: cs.takeWhile isNameChar, cs.dropWhile isNameChar, by simp,
          mem_plainName.mpr ⟨c, _, isNameStart_iff.mp start, nameChar_of_mem_takeWhile,
            Or.inr rfl⟩, by simp⟩
      · cases answer
    · rename_i c cs _
      split at answer
      · rename_i start
        obtain rfl := Option.some.inj answer
        refine ⟨c :: cs.takeWhile isNameChar, cs.dropWhile isNameChar, by simp,
          mem_plainName.mpr ⟨c, _, isNameStart_iff.mp start, nameChar_of_mem_takeWhile,
            Or.inl rfl⟩, by simp⟩
      · cases answer
    · cases answer
  complete := by
    intro word member rest
    obtain ⟨c, cs, start, others, rfl | rfl⟩ := mem_plainName.mp member
    · refine ⟨_, plainNameLength?_cons start, ?_⟩
      have := length_le_takeWhile (fun d inside => isNameChar_iff.mpr (others d inside)) rest
      simpa using this
    · refine ⟨_, plainNameLength?_hyphen start, ?_⟩
      have := length_le_takeWhile (fun d inside => isNameChar_iff.mpr (others d inside)) rest
      simpa using this

/-- At a plain name the rule for names is that for plain ones: the second character of such a name is
never a hyphen behind another one. -/
theorem nameLength?_plain {word : List Char} (plain : word ∈ plainName) (rest : List Char) :
    nameLength? (word ++ rest) = plainNameLength? (word ++ rest) := by
  obtain ⟨c, cs, start, _, rfl | rfl⟩ := mem_plainName.mp plain
  · unfold nameLength?
    split
    · rename_i same
      obtain rfl := (List.cons.inj same).1
      exact absurd start (by decide)
    · rfl
  · unfold nameLength?
    split
    · rename_i same
      obtain rfl := (List.cons.inj (List.cons.inj same).2).1
      exact absurd start (by decide)
    · rfl

/-- **Names.** Two hyphens in front can only begin the name of a custom property. -/
theorem ident_reads : Reads nameLength? (words .ident) where
  sound := by
    intro text count answer
    unfold nameLength? at answer
    split at answer
    · rename_i c cs
      split at answer
      · rename_i isName
        obtain rfl := Option.some.inj answer
        refine ⟨'-' :: '-' :: c :: cs.takeWhile isNameChar, cs.dropWhile isNameChar, by simp,
          (Language.mem_add _ _ _).mpr (Or.inr (mem_customName.mpr
            ⟨c, _, isNameChar_iff.mp isName, nameChar_of_mem_takeWhile, rfl⟩)), by simp⟩
      · cases answer
    · obtain ⟨word, rest, split, member, length⟩ := plainName_reads.sound answer
      exact ⟨word, rest, split, (Language.mem_add _ _ _).mpr (Or.inl member), length⟩
  complete := by
    intro word member rest
    rcases (Language.mem_add _ _ _).mp member with plain | custom
    · rw [nameLength?_plain plain]
      exact plainName_reads.complete plain rest
    · obtain ⟨c, cs, isName, others, rfl⟩ := mem_customName.mp custom
      refine ⟨((cs ++ rest).takeWhile isNameChar).length + 3, ?_, ?_⟩
      · exact if_pos (isNameChar_iff.mpr isName)
      · have := length_le_takeWhile (fun d inside => isNameChar_iff.mpr (others d inside)) rest
        simpa using this

/-- **At-keywords.** -/
theorem atKeyword_reads : Reads atKeywordLength? (words .atKeyword) := by
  refine plainName_reads.behind ?_ ?_
  · rintro _ rfl cs
    rfl
  · intro text count answer
    unfold atKeywordLength? at answer
    split at answer
    · rename_i cs
      exact ⟨['@'], rfl, cs, rfl⟩
    · cases answer

/-! ### Single characters -/

/-- **One given character.** -/
theorem charLength?_reads (mark : Char) : Reads (charLength? mark) (oneOf (· = mark)) where
  sound := by
    intro text count answer
    unfold charLength? at answer
    split at answer
    · rename_i c cs
      split at answer
      · rename_i same
        obtain rfl := Option.some.inj answer
        exact ⟨[c], cs, rfl, ⟨c, same, rfl⟩, rfl⟩
      · cases answer
    · cases answer
  complete := by
    rintro _ ⟨c, same, rfl⟩ rest
    exact ⟨1, if_pos same, Nat.le_refl 1⟩

/-- **Delimiters.** -/
theorem delim_reads : Reads delimLength? (words .delim) where
  sound := by
    intro text count answer
    unfold delimLength? at answer
    split at answer
    · rename_i c cs
      split at answer
      · cases answer
      · rename_i visible
        obtain rfl := Option.some.inj answer
        exact ⟨[c], cs, rfl, ⟨c, fun spacing => visible (isSpacing_iff.mpr spacing), rfl⟩, rfl⟩
    · cases answer
  complete := by
    rintro _ ⟨c, visible, rfl⟩ rest
    exact ⟨1, if_neg fun spacing => visible (isSpacing_iff.mp spacing), Nat.le_refl 1⟩

/-! ### Comments -/

theorem mem_stars {word : List Char} : word ∈ stars ↔ ∃ n, word = List.replicate (n + 1) '*' := by
  rw [stars, mem_oneOf_mul]
  constructor
  · rintro ⟨c, rfl, rest, others, rfl⟩
    refine ⟨rest.length, ?_⟩
    rw [List.replicate_succ, ← List.eq_replicate_of_mem (mem_kstar_oneOf.mp others)]
  · rintro ⟨n, rfl⟩
    exact ⟨'*', rfl, List.replicate n '*', mem_kstar_oneOf.mpr fun c member =>
      List.eq_of_mem_replicate member, List.replicate_succ⟩

/-- A character is passed over if the comment does not end at it. -/
theorem commentEnd?_cons {c : Char} {cs : List Char} (goesOn : c = '*' → cs.head? ≠ some '/') :
    commentEnd? (c :: cs) = (commentEnd? cs).map (· + 1) := by
  rw [commentEnd?]
  rintro rest rfl rfl
  exact goesOn rfl rfl

/-- Stars that no slash follows are passed over. -/
theorem commentEnd?_stars (n : Nat) {cs : List Char} (goesOn : cs.head? ≠ some '/') :
    commentEnd? (List.replicate n '*' ++ cs) = (commentEnd? cs).map (· + n) := by
  induction n with
  | zero => simp
  | succ n ih =>
      have next : (List.replicate n '*' ++ cs).head? ≠ some '/' := by
        cases n with
        | zero => simpa using goesOn
        | succ n => simp [List.replicate_succ]
      rw [List.replicate_succ, List.cons_append, commentEnd?_cons fun _ => next, ih, Option.map_map]
      congr 1

/-- The last stars of a comment and its slash end it. -/
theorem commentEnd?_last (n : Nat) (rest : List Char) :
    commentEnd? (List.replicate (n + 1) '*' ++ '/' :: rest) = some (n + 2) := by
  induction n with
  | zero => rfl
  | succ n ih =>
      rw [List.replicate_succ, List.cons_append,
        commentEnd?_cons fun _ => by simp [List.replicate_succ], ih, Option.map_some]

theorem commentEnd?_item {item : List Char} (member : item ∈ commentItem) (rest : List Char) :
    commentEnd? (item ++ rest) = (commentEnd? rest).map (· + item.length) := by
  rcases (Language.mem_add _ _ _).mp member with ⟨c, noStar, rfl⟩ | starred
  · exact commentEnd?_cons fun isStar => absurd isStar noStar
  · obtain ⟨_, isStars, _, ⟨c, ⟨noStar, noSlash⟩, rfl⟩, rfl⟩ := Language.mem_mul.mp starred
    obtain ⟨n, rfl⟩ := mem_stars.mp isStars
    rw [List.append_assoc, commentEnd?_stars _ (by simpa using noSlash), List.singleton_append,
      commentEnd?_cons fun isStar => absurd isStar noStar, Option.map_map]
    congr 1
    funext count
    simp only [Function.comp_apply, List.length_append, List.length_replicate,
      List.length_singleton]
    omega

/-- A star may be put in front of what goes on to the end of a comment, unless that begins with the
slash of the end. -/
theorem star_cons_mem_commentBody {word : List Char} (member : word ∈ commentBody)
    (goesOn : word.head? ≠ some '/') : '*' :: word ∈ commentBody := by
  have moreStars : ∀ {run}, run ∈ stars → '*' :: run ∈ stars := by
    intro run isStars
    obtain ⟨n, rfl⟩ := mem_stars.mp isStars
    exact mem_stars.mpr ⟨n + 1, List.replicate_succ⟩
  rcases mem_kstar_mul.mp member with last | ⟨item, isItem, rest, inBody, rfl⟩
  · obtain ⟨run, isStars, slash, isSlash, rfl⟩ := Language.mem_mul.mp last
    exact mem_kstar_mul.mpr (Or.inl (Language.append_mem_mul (moreStars isStars) isSlash))
  · refine mem_kstar_mul.mpr (Or.inr ⟨'*' :: item, ?_, rest, inBody, rfl⟩)
    refine (Language.mem_add _ _ _).mpr (Or.inr ?_)
    rcases (Language.mem_add _ _ _).mp isItem with ⟨c, noStar, rfl⟩ | starred
    · have single : ['*'] ∈ stars := mem_stars.mpr ⟨0, rfl⟩
      exact Language.append_mem_mul single ⟨c, ⟨noStar, by simpa using goesOn⟩, rfl⟩
    · obtain ⟨run, isStars, final, isFinal, rfl⟩ := Language.mem_mul.mp starred
      exact Language.append_mem_mul (moreStars isStars) isFinal

/-- **The rest of a comment.** -/
theorem commentBody_reads : Reads commentEnd? commentBody where
  sound := by
    intro text count answer
    induction text generalizing count with
    | nil => cases answer
    | cons c cs ih =>
        by_cases closes : c = '*' ∧ cs.head? = some '/'
        · obtain ⟨rfl, slash⟩ := closes
          obtain ⟨rest, rfl⟩ := List.head?_eq_some_iff.mp slash
          obtain rfl := Option.some.inj answer
          refine ⟨['*', '/'], rest, rfl, mem_kstar_mul.mpr (Or.inl ?_), rfl⟩
          exact Language.append_mem_mul (mem_stars.mpr ⟨0, rfl⟩) (mem_exactly.mpr rfl)
        · rw [commentEnd?_cons fun isStar slash => closes ⟨isStar, slash⟩] at answer
          obtain ⟨behind, ended, rfl⟩ := Option.map_eq_some_iff.mp answer
          obtain ⟨word, rest, rfl, member, rfl⟩ := ih ended
          refine ⟨c :: word, rest, rfl, ?_, rfl⟩
          by_cases isStar : c = '*'
          · subst isStar
            refine star_cons_mem_commentBody member fun slash => closes ⟨rfl, ?_⟩
            rw [List.head?_append, slash, Option.some_or]
          · have item : [c] ∈ commentItem := (Language.mem_add _ _ _).mpr (Or.inl ⟨c, isStar, rfl⟩)
            exact mem_kstar_mul.mpr (Or.inr ⟨[c], item, word, member, rfl⟩)
  complete := by
    intro word member rest
    refine Reads.complete_of_items (fun item => commentEnd?_item) (fun last isLast rest => ?_)
      member rest
    obtain ⟨run, isStars, _, rfl, rfl⟩ := Language.mem_mul.mp isLast
    obtain ⟨n, rfl⟩ := mem_stars.mp isStars
    rw [List.append_assoc]
    exact (commentEnd?_last n rest).trans (by simp)

/-- **Comments.** -/
theorem comment_reads : Reads commentLength? (words .comment) := by
  refine commentBody_reads.behind ?_ ?_
  · rintro _ rfl cs
    rfl
  · intro text count answer
    unfold commentLength? at answer
    split at answer
    · rename_i cs
      exact ⟨['/', '*'], rfl, cs, rfl⟩
    · cases answer

/-! ### Strings -/

section Strings

variable {quote : Char}

/-- A pair of a backslash and the character it escapes is passed over. -/
theorem stringEnd?_escape (noBackslash : quote ≠ '\\') {c : Char} (noFeed : c ≠ '\n')
    (cs : List Char) : stringEnd? quote ('\\' :: c :: cs) = (stringEnd? quote cs).map (· + 2) := by
  rw [stringEnd?.eq_def]
  simp only [Ne.symm noBackslash, noFeed, if_false, if_true, Char.reduceEq]

/-- Any other character that is neither the quote nor a line feed is passed over. -/
theorem stringEnd?_plain {c : Char} (plain : c ≠ quote ∧ c ≠ '\\' ∧ c ≠ '\n') (cs : List Char) :
    stringEnd? quote (c :: cs) = (stringEnd? quote cs).map (· + 1) := by
  rw [stringEnd?.eq_def]
  simp only [plain.1, plain.2.1, plain.2.2, if_false]

theorem stringEnd?_item (noBackslash : quote ≠ '\\') {item : List Char}
    (member : item ∈ stringItem quote) (rest : List Char) :
    stringEnd? quote (item ++ rest) = (stringEnd? quote rest).map (· + item.length) := by
  rcases (Language.mem_add _ _ _).mp member with ⟨c, plain, rfl⟩ | escaped
  · exact stringEnd?_plain plain rest
  · obtain ⟨_, ⟨c, noFeed, rfl⟩, rfl⟩ := mem_exactly_mul.mp escaped
    exact stringEnd?_escape noBackslash noFeed rest

/-- **The rest of a string.** -/
theorem stringBody_reads (noBackslash : quote ≠ '\\') :
    Reads (stringEnd? quote) (stringBody quote) where
  sound := by
    intro text count answer
    fun_induction stringEnd? quote text generalizing count with
    | case1 => cases answer
    | case2 cs =>
        obtain rfl := Option.some.inj answer
        exact ⟨[quote], cs, rfl, mem_kstar_mul.mpr (Or.inl ⟨quote, rfl, rfl⟩), rfl⟩
    | case3 => cases answer
    | case4 => cases answer
    | case5 => cases answer
    | case6 d ds noFeed _ _ ih =>
        obtain ⟨behind, ended, rfl⟩ := Option.map_eq_some_iff.mp answer
        have item : ['\\', d] ∈ stringItem quote := (Language.mem_add _ _ _).mpr
          (Or.inr (mem_exactly_mul.mpr ⟨[d], ⟨d, noFeed, rfl⟩, rfl⟩))
        exact Reads.sound_of_item item (ih ended)
    | case7 c cs noQuote noFeed noEscape ih =>
        obtain ⟨behind, ended, rfl⟩ := Option.map_eq_some_iff.mp answer
        have item : [c] ∈ stringItem quote := (Language.mem_add _ _ _).mpr
          (Or.inl ⟨c, ⟨noQuote, noEscape, noFeed⟩, rfl⟩)
        exact Reads.sound_of_item item (ih ended)
  complete := by
    intro word member rest
    refine Reads.complete_of_items (fun item => stringEnd?_item noBackslash) ?_ member rest
    rintro _ ⟨c, rfl, rfl⟩ rest
    rw [List.singleton_append, stringEnd?.eq_def]
    exact if_pos rfl

/-- **Strings** in quotes that are no backslash. -/
theorem quotedString_reads (noBackslash : quote ≠ '\\') :
    Reads (stringLength? quote) (quotedString quote) := by
  refine (stringBody_reads noBackslash).behind ?_ ?_
  · rintro _ ⟨c, rfl, rfl⟩ cs
    exact if_pos rfl
  · intro text count answer
    unfold stringLength? at answer
    split at answer
    · rename_i c cs
      split at answer
      · rename_i same
        exact ⟨[c], ⟨c, same, rfl⟩, cs, rfl⟩
      · cases answer
    · cases answer

end Strings

/-! ### Addresses -/

/-- **The rest of an address.** -/
theorem addressBody_reads : Reads addressEnd? addressBody where
  sound := by
    intro text count answer
    fun_induction addressEnd? text generalizing count with
    | case1 => cases answer
    | case2 cs =>
        obtain rfl := Option.some.inj answer
        exact ⟨[')'], cs, rfl, mem_kstar_mul.mpr (Or.inl (mem_exactly.mpr rfl)), rfl⟩
    | case3 => cases answer
    | case4 c cs noEnd noQuote ih =>
        obtain ⟨behind, ended, rfl⟩ := Option.map_eq_some_iff.mp answer
        have item : [c] ∈ oneOf (· ∉ [')', '"', '\'']) := ⟨c, by simp_all, rfl⟩
        exact Reads.sound_of_item item (ih ended)
  complete := by
    intro word member rest
    refine Reads.complete_of_items ?_ ?_ member rest
    · rintro _ ⟨c, goesOn, rfl⟩ rest
      simp only [List.mem_cons, List.not_mem_nil, or_false, not_or] at goesOn
      rw [List.singleton_append, addressEnd?, if_neg goesOn.1, if_neg (by simp [goesOn])]
      rfl
    · rintro _ rfl rest
      rfl

/-- What stands in front of an address: three letters in any case, and the parenthesis. -/
def addressFront : Language Char :=
  oneOf (· ∈ ['u', 'U']) * (oneOf (· ∈ ['r', 'R']) * (oneOf (· ∈ ['l', 'L']) * exactly "("))

theorem mem_addressFront {word : List Char} :
    word ∈ addressFront ↔ ∃ u r l, word = [u, r, l, '('] ∧
      u.toLower = 'u' ∧ r.toLower = 'r' ∧ l.toLower = 'l' := by
  have letter : ∀ {c small capital : Char}, 97 ≤ small.toNat ∧ small.toNat ≤ 122 →
      capital.toNat + 32 = small.toNat → (c.toLower = small ↔ c ∈ [small, capital]) := by
    intro c small capital isSmall paired
    rw [toLower_eq_iff isSmall paired]
    simp
  rw [addressFront, mem_oneOf_mul]
  constructor
  · rintro ⟨u, isU, _, behindU, rfl⟩
    obtain ⟨r, isR, _, behindR, rfl⟩ := mem_oneOf_mul.mp behindU
    obtain ⟨l, isL, _, rfl, rfl⟩ := mem_oneOf_mul.mp behindR
    exact ⟨u, r, l, rfl, (letter (by decide) (by decide)).mpr isU,
      (letter (by decide) (by decide)).mpr isR, (letter (by decide) (by decide)).mpr isL⟩
  · rintro ⟨u, r, l, rfl, isU, isR, isL⟩
    exact ⟨u, (letter (by decide) (by decide)).mp isU, [r, l, '('], mem_oneOf_mul.mpr
      ⟨r, (letter (by decide) (by decide)).mp isR, [l, '('], mem_oneOf_mul.mpr
        ⟨l, (letter (by decide) (by decide)).mp isL, ['('], rfl, rfl⟩, rfl⟩, rfl⟩

/-- **Addresses.** -/
theorem address_reads : Reads urlLength? (words .url) := by
  have parts : words .url = addressFront * addressBody := by
    simp only [words, address, addressFront, mul_assoc]
  rw [parts]
  refine addressBody_reads.behind ?_ ?_
  · intro first inFront cs
    obtain ⟨u, r, l, rfl, isU, isR, isL⟩ := mem_addressFront.mp inFront
    show urlLength? (u :: r :: l :: '(' :: cs) = _
    rw [urlLength?, if_pos (by simp [isU, isR, isL])]
    rfl
  · intro text count answer
    unfold urlLength? at answer
    split at answer
    · rename_i u r l cs
      split at answer
      · rename_i letters
        simp only [Bool.and_eq_true, decide_eq_true_eq] at letters
        exact ⟨[u, r, l, '('], mem_addressFront.mpr
          ⟨u, r, l, rfl, letters.1.1, letters.1.2, letters.2⟩, cs, rfl⟩
      · cases answer
    · cases answer

/-! ### The rules together -/

/-- A mark that is spelt out is the one character that equals it. -/
theorem exactly_eq_oneOf {text : String} {mark : Char} (single : text.toList = [mark]) :
    exactly text = oneOf (· = mark) := by
  ext word
  rw [mem_exactly, mem_oneOf, single]
  constructor
  · rintro rfl
    exact ⟨mark, rfl, rfl⟩
  · rintro ⟨c, rfl, rfl⟩
    rfl

theorem mark_reads {text : String} {mark : Char} (single : text.toList = [mark]) :
    Reads (charLength? mark) (exactly text) := by
  rw [exactly_eq_oneOf single]
  exact charLength?_reads mark

/-- **Every rule reads words of its kind only.** -/
theorem rule_reads {rule : LexemeRule} (member : rule ∈ lexemeRules) :
    ∃ language, (∀ word ∈ language, word ∈ words rule.kind) ∧ Reads rule.length? language := by
  simp only [lexemeRules, List.mem_cons, List.not_mem_nil, or_false] at member
  rcases member with rfl | rfl | rfl | rfl | rfl | rfl | rfl | rfl | rfl | rfl | rfl
  · exact ⟨_, fun _ => id, comment_reads⟩
  · exact ⟨quotedString '"', fun word double => (Language.mem_add _ _ _).mpr (Or.inl double),
      quotedString_reads (by decide)⟩
  · exact ⟨quotedString '\'', fun word single => (Language.mem_add _ _ _).mpr (Or.inr single),
      quotedString_reads (by decide)⟩
  · exact ⟨_, fun _ => id, address_reads⟩
  · exact ⟨_, fun _ => id, ident_reads⟩
  · exact ⟨_, fun _ => id, atKeyword_reads⟩
  · exact ⟨_, fun _ => id, mark_reads rfl⟩
  · exact ⟨_, fun _ => id, mark_reads rfl⟩
  · exact ⟨_, fun _ => id, mark_reads rfl⟩
  · exact ⟨_, fun _ => id, mark_reads rfl⟩
  · exact ⟨_, fun _ => id, delim_reads⟩

/-- **Every word of a kind is read by a rule of that kind.** -/
theorem exists_rule {kind : TokenKind} {word : List Char} (member : word ∈ words kind) :
    ∃ rule ∈ lexemeRules, rule.kind = kind ∧ ∃ language, Reads rule.length? language ∧
      word ∈ language := by
  cases kind with
  | comment =>
      exact ⟨⟨.comment, commentLength?⟩, by simp [lexemeRules], rfl, _, comment_reads, member⟩
  | string =>
      rcases (Language.mem_add _ _ _).mp member with double | single
      · exact ⟨⟨.string, stringLength? '"'⟩, by simp [lexemeRules], rfl, _,
          quotedString_reads (by decide), double⟩
      · exact ⟨⟨.string, stringLength? '\''⟩, by simp [lexemeRules], rfl, _,
          quotedString_reads (by decide), single⟩
  | url => exact ⟨⟨.url, urlLength?⟩, by simp [lexemeRules], rfl, _, address_reads, member⟩
  | ident => exact ⟨⟨.ident, nameLength?⟩, by simp [lexemeRules], rfl, _, ident_reads, member⟩
  | atKeyword =>
      exact ⟨⟨.atKeyword, atKeywordLength?⟩, by simp [lexemeRules], rfl, _, atKeyword_reads, member⟩
  | leftBrace =>
      exact ⟨⟨.leftBrace, charLength? '\x7b'⟩, by simp [lexemeRules], rfl, _, mark_reads rfl, member⟩
  | rightBrace =>
      exact ⟨⟨.rightBrace, charLength? '\x7d'⟩, by simp [lexemeRules], rfl, _, mark_reads rfl,
        member⟩
  | semicolon =>
      exact ⟨⟨.semicolon, charLength? ';'⟩, by simp [lexemeRules], rfl, _, mark_reads rfl, member⟩
  | colon =>
      exact ⟨⟨.colon, charLength? ':'⟩, by simp [lexemeRules], rfl, _, mark_reads rfl, member⟩
  | delim => exact ⟨⟨.delim, delimLength?⟩, by simp [lexemeRules], rfl, _, delim_reads, member⟩
  | error => exact absurd member (Language.notMem_zero _)
  | eof => exact absurd member (Language.notMem_zero _)

end StyleBaseline.Grammar
