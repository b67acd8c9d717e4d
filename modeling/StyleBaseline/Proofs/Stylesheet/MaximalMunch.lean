/-
**Maximal munch.** The tokens of a source are the only ones that the grammar allows when each token
is the longest word that stands at its place.

* `LongestAt`, `HasKind` — the longest word at the front of a text, and the kind of a word.
* `Tokenised` — how a text is cut into tokens: white space, the longest word behind it, and so on.
* `longestLexeme_longestAt`, `longestLexeme_hasKind` — the rules together find that word and kind.
* `tokensFrom_tokenised`, `Tokenised.unique` — what the tokeniser gives is a cut, and the only one.
-/

import StyleBaseline.Proofs.Stylesheet.LexemeRules

namespace StyleBaseline.Grammar

/-! ### Cutting a text into tokens -/

/-- A word that some rule allows. -/
def IsLexeme (word : List Char) : Prop :=
  ∃ kind, word ∈ words kind

/-- The longest word that some rule allows at the front of a text. -/
structure LongestAt (text word : List Char) : Prop where
  atFront : word <+: text
  isLexeme : IsLexeme word
  longest : ∀ {other}, other <+: text → IsLexeme other → other.length ≤ word.length

/-- The kind of a word: one whose rule allows it, and that of a delimiter only if no other does. -/
structure HasKind (word : List Char) (kind : TokenKind) : Prop where
  allowed : word ∈ words kind
  delimLast : kind = .delim → ∀ other, word ∈ words other → other = .delim

/-- **A text is cut into tokens**: as long as more than white space is left, the longest run of that
is passed over and the longest word behind it is the next token. Places are byte offsets, the
text beginning at the first one. -/
inductive Tokenised : Nat → List Char → List Token → Prop
  | ending {here : Nat} {spacing : List Char} (blank : ∀ c ∈ spacing, Spacing c) :
      Tokenised here spacing
        [⟨.eof, ⟨here + byteLength spacing, here + byteLength spacing⟩⟩]
  | token {here : Nat} {spacing word rest : List Char} {kind : TokenKind} {run : List Token}
      (blank : ∀ c ∈ spacing, Spacing c)
      (visible : ∀ c, (word ++ rest).head? = some c → ¬ Spacing c)
      (longest : LongestAt (word ++ rest) word)
      (hasKind : HasKind word kind)
      (goesOn : Tokenised (here + byteLength spacing + byteLength word) rest run) :
      Tokenised here (spacing ++ (word ++ rest))
        (⟨kind, ⟨here + byteLength spacing, here + byteLength spacing + byteLength word⟩⟩ :: run)

/-! ### The choice among the rules -/

theorem longestOf_append (cs : List Char) (rules more : List LexemeRule) (best : TokenKind × Nat) :
    longestOf cs best (rules ++ more) = longestOf cs (longestOf cs best rules) more := by
  induction rules generalizing best with
  | nil => rfl
  | cons rule rules ih =>
      simp only [List.cons_append, longestOf]
      cases rule.length? cs with
      | none => exact ih best
      | some count => exact ih _

/-- What is chosen is no shorter than what any rule gives, and than what was there before. -/
theorem le_longestOf (cs : List Char) (rules : List LexemeRule) (best : TokenKind × Nat) :
    best.2 ≤ (longestOf cs best rules).2 ∧
      ∀ rule ∈ rules, ∀ count, rule.length? cs = some count →
        count ≤ (longestOf cs best rules).2 := by
  induction rules generalizing best with
  | nil => exact ⟨Nat.le_refl _, fun _ member => absurd member List.not_mem_nil⟩
  | cons first rules ih =>
      rw [longestOf]
      cases answer : first.length? cs with
      | none =>
          refine ⟨(ih best).1, List.forall_mem_cons.mpr ⟨fun count found => ?_, (ih best).2⟩⟩
          rw [answer] at found
          cases found
      | some length =>
          have chosen : best.2 ≤ (if best.2 < length then (first.kind, length) else best).2 ∧
              length ≤ (if best.2 < length then (first.kind, length) else best).2 := by
            split <;> omega
          refine ⟨chosen.1.trans (ih _).1,
            List.forall_mem_cons.mpr ⟨fun count found => ?_, (ih _).2⟩⟩
          rw [answer, Option.some.injEq] at found
          exact found ▸ chosen.2.trans (ih _).1

/-- What is chosen is what was there before, or comes from a rule that gives more than that. -/
theorem longestOf_origin (cs : List Char) (rules : List LexemeRule) (best : TokenKind × Nat) :
    longestOf cs best rules = best ∨ best.2 < (longestOf cs best rules).2 ∧
      ∃ rule ∈ rules, rule.kind = (longestOf cs best rules).1 ∧
        rule.length? cs = some (longestOf cs best rules).2 := by
  induction rules generalizing best with
  | nil => exact Or.inl rfl
  | cons first rules ih =>
      rw [longestOf]
      cases answer : first.length? cs with
      | none =>
          refine (ih best).imp_right fun ⟨more, rule, member, found⟩ => ⟨more, rule, ?_, found⟩
          exact List.mem_cons_of_mem _ member
      | some length =>
          simp only
          split
          · rename_i longer
            rcases ih (first.kind, length) with same | ⟨more, rule, member, found⟩
            · rw [same]
              exact Or.inr ⟨longer, first, List.mem_cons_self, rfl, answer⟩
            · exact Or.inr ⟨longer.trans more, rule, List.mem_cons_of_mem _ member, found⟩
          · refine (ih best).imp_right fun ⟨more, rule, member, found⟩ => ⟨more, rule, ?_, found⟩
            exact List.mem_cons_of_mem _ member

/-- The rules but for the last one, that for delimiters. -/
def namedRules : List LexemeRule :=
  lexemeRules.dropLast

theorem lexemeRules_eq : lexemeRules = namedRules ++ [⟨.delim, delimLength?⟩] :=
  rfl

theorem kind_ne_delim {rule : LexemeRule} (member : rule ∈ namedRules) : rule.kind ≠ .delim := by
  have all : ∀ kind ∈ namedRules.map (·.kind), kind ≠ .delim := by decide
  exact all _ (List.mem_map_of_mem member)

section Choice

variable {c : Char} {cs : List Char}

/-- At a visible character the choice has a length, because that character is a delimiter if it is
nothing else. -/
theorem one_le_longestLexeme (visible : ¬ Spacing c) : 1 ≤ (longestLexeme (c :: cs)).2 := by
  refine (le_longestOf (c :: cs) lexemeRules _).2 ⟨.delim, delimLength?⟩ (by simp [lexemeRules]) 1 ?_
  exact if_neg fun spacing => visible (isSpacing_iff.mp spacing)

/-- A word at the front is no longer than what is chosen. -/
theorem length_le_longestLexeme {text word : List Char} (atFront : word <+: text)
    (isLexeme : IsLexeme word) : word.length ≤ (longestLexeme text).2 := by
  obtain ⟨kind, member⟩ := isLexeme
  obtain ⟨rest, rfl⟩ := atFront
  obtain ⟨rule, isRule, _, language, reads, inLanguage⟩ := exists_rule member
  obtain ⟨count, answer, bound⟩ := reads.complete inLanguage rest
  exact bound.trans ((le_longestOf _ lexemeRules _).2 rule isRule count answer)

/-- What is chosen at a visible character is a word of the kind that is chosen. -/
theorem longestLexeme_word (visible : ¬ Spacing c) (cs : List Char) :
    (longestLexeme (c :: cs)).2 ≤ (c :: cs).length ∧
      (c :: cs).take (longestLexeme (c :: cs)).2 ∈ words (longestLexeme (c :: cs)).1 := by
  have positive : 1 ≤ (longestLexeme (c :: cs)).2 := one_le_longestLexeme visible
  rcases longestOf_origin (c :: cs) lexemeRules (.error, 0) with
    nothing | ⟨_, rule, isRule, kind, answer⟩
  · rw [longestLexeme, nothing] at positive
    exact absurd positive (by decide)
  · obtain ⟨language, within, reads⟩ := rule_reads isRule
    obtain ⟨word, rest, split, member, length⟩ := reads.sound answer
    show (longestOf (c :: cs) (.error, 0) lexemeRules).2 ≤ _ ∧
      (c :: cs).take (longestOf (c :: cs) (.error, 0) lexemeRules).2 ∈
        words (longestOf (c :: cs) (.error, 0) lexemeRules).1
    rw [← length, ← kind, split, List.take_left, List.length_append]
    exact ⟨Nat.le_add_right _ _, within word member⟩

/-- **The choice is the longest word.** -/
theorem longestLexeme_longestAt (visible : ¬ Spacing c) (cs : List Char) :
    LongestAt (c :: cs) ((c :: cs).take (longestLexeme (c :: cs)).2) := by
  obtain ⟨fits, member⟩ := longestLexeme_word visible cs
  refine ⟨List.take_prefix _ _, ⟨_, member⟩, fun atFront isLexeme => ?_⟩
  rw [List.length_take_of_le fits]
  exact length_le_longestLexeme atFront isLexeme

/-- **The kind of the choice.** A delimiter is chosen only if every other rule gives less. -/
theorem longestLexeme_hasKind (visible : ¬ Spacing c) (cs : List Char) :
    HasKind ((c :: cs).take (longestLexeme (c :: cs)).2) (longestLexeme (c :: cs)).1 := by
  obtain ⟨fits, member⟩ := longestLexeme_word visible cs
  refine ⟨member, fun isDelim other inOther => ?_⟩
  by_contra named
  obtain ⟨rule, isRule, rfl, language, reads, inLanguage⟩ := exists_rule inOther
  obtain ⟨count, answer, bound⟩ := reads.complete inLanguage
    ((c :: cs).drop (longestLexeme (c :: cs)).2)
  rw [List.take_append_drop] at answer
  rw [List.length_take_of_le fits] at bound
  rw [lexemeRules_eq, List.mem_append, List.mem_singleton] at isRule
  have isNamed : rule ∈ namedRules := isRule.resolve_right fun same => named (by rw [same])
  -- The named rules already reach the length of the choice, so that the last rule changes nothing.
  have reached : (longestLexeme (c :: cs)).2 ≤ (longestOf (c :: cs) (.error, 0) namedRules).2 :=
    bound.trans ((le_longestOf _ namedRules _).2 rule isNamed count answer)
  have positive : 1 ≤ (longestLexeme (c :: cs)).2 := one_le_longestLexeme visible
  have choice : longestLexeme (c :: cs) = longestOf (c :: cs) (.error, 0) namedRules := by
    have single : delimLength? (c :: cs) = some 1 :=
      if_neg fun spacing => visible (isSpacing_iff.mp spacing)
    rw [longestLexeme, lexemeRules_eq, longestOf_append]
    simp only [longestOf, single]
    exact if_neg (by omega)
  rcases longestOf_origin (c :: cs) namedRules (.error, 0) with nothing | ⟨_, origin, isOrigin, kind, _⟩
  · rw [nothing] at reached
    omega
  · exact kind_ne_delim isOrigin (kind.trans (choice ▸ isDelim))

end Choice

/-! ### The tokeniser -/

/-- The characters of a token that is already read are passed over. -/
theorem tokensFrom_pending (pending : Nat) (cs : List Char) (here : Nat)
    (fits : pending ≤ cs.length) :
    tokensFrom cs pending here =
      tokensFrom (cs.drop pending) 0 (here + byteLength (cs.take pending)) := by
  induction pending generalizing cs here with
  | zero => rfl
  | succ pending ih =>
      cases cs with
      | nil => exact absurd fits (by simp)
      | cons c cs =>
          rw [tokensFrom, ih cs _ (Nat.le_of_succ_le_succ fits), List.drop_succ_cons,
            List.take_succ_cons, byteLength, Nat.add_assoc]

/-- White space is passed over. -/
theorem tokensFrom_spacing {spacing : List Char} (blank : ∀ c ∈ spacing, Spacing c)
    (cs : List Char) (here : Nat) :
    tokensFrom (spacing ++ cs) 0 here = tokensFrom cs 0 (here + byteLength spacing) := by
  induction spacing generalizing here with
  | nil => rfl
  | cons c spacing ih =>
      obtain ⟨first, others⟩ := List.forall_mem_cons.mp blank
      rw [List.cons_append, tokensFrom, if_pos (isSpacing_iff.mpr first), ih others, byteLength,
        Nat.add_assoc]

/-- At a visible character the choice is the next token, and reading goes on behind it. -/
theorem tokensFrom_visible {c : Char} (visible : ¬ Spacing c) (cs : List Char) (here : Nat) :
    tokensFrom (c :: cs) 0 here =
      ⟨(longestLexeme (c :: cs)).1,
        ⟨here, here + byteLength ((c :: cs).take (longestLexeme (c :: cs)).2)⟩⟩ ::
      tokensFrom ((c :: cs).drop (longestLexeme (c :: cs)).2) 0
        (here + byteLength ((c :: cs).take (longestLexeme (c :: cs)).2)) := by
  have positive : 1 ≤ (longestLexeme (c :: cs)).2 := one_le_longestLexeme visible
  have fits := (longestLexeme_word visible cs).1
  obtain ⟨behind, length⟩ := Nat.exists_eq_succ_of_ne_zero (by omega : (longestLexeme (c :: cs)).2 ≠ 0)
  rw [tokensFrom, if_neg fun spacing => visible (isSpacing_iff.mp spacing)]
  simp only [length] at fits ⊢
  rw [Nat.succ_sub_one, tokensFrom_pending _ _ _ (Nat.le_of_succ_le_succ fits),
    List.drop_succ_cons, List.take_succ_cons, byteLength, Nat.add_assoc]

/-- **The tokeniser cuts a text into tokens.** -/
theorem tokensFrom_tokenised (text : List Char) (here : Nat) :
    Tokenised here text (tokensFrom text 0 here) := by
  induction size : text.length using Nat.strong_induction_on generalizing text here with
  | _ size ih =>
      subst size
      have blank : ∀ c ∈ text.takeWhile isSpacing, Spacing c := fun c member =>
        isSpacing_iff.mp (List.mem_takeWhile_imp member)
      have whole : text.takeWhile isSpacing ++ text.dropWhile isSpacing = text :=
        List.takeWhile_append_dropWhile
      cases behind : text.dropWhile isSpacing with
      | nil =>
          rw [behind, List.append_nil] at whole
          rw [whole] at blank
          have ended := tokensFrom_spacing blank [] here
          rw [List.append_nil] at ended
          rw [ended]
          exact .ending blank
      | cons c cs =>
          have visible : ¬ Spacing c := fun spacing => by
            have := List.head?_dropWhile_not isSpacing text
            rw [behind] at this
            exact absurd (isSpacing_iff.mpr spacing) (by simpa using this)
          rw [behind] at whole
          rw [← whole, tokensFrom_spacing blank, tokensFrom_visible visible]
          have split := List.take_append_drop (longestLexeme (c :: cs)).2 (c :: cs)
          have longest := longestLexeme_longestAt visible cs
          conv => arg 2; rw [← split]
          refine .token blank ?_ ?_ (longestLexeme_hasKind visible cs) (ih _ ?_ _ _ rfl)
          · rw [split]
            rintro d ⟨⟩
            exact visible
          · rw [split]
            exact longest
          · have positive : 1 ≤ (longestLexeme (c :: cs)).2 := one_le_longestLexeme visible
            rw [← whole, List.length_append, List.length_drop]
            simp only [List.length_cons]
            omega

theorem LongestAt.unique {text first second : List Char} (one : LongestAt text first)
    (two : LongestAt text second) : first = second := by
  have length : first.length = second.length :=
    Nat.le_antisymm (two.longest one.atFront one.isLexeme) (one.longest two.atFront two.isLexeme)
  exact (List.prefix_of_prefix_length_le one.atFront two.atFront length.le).eq_of_length length

theorem HasKind.unique {word : List Char} {first second : TokenKind} (one : HasKind word first)
    (two : HasKind word second) : first = second := by
  by_cases isDelim : first = .delim
  · rw [isDelim, one.delimLast isDelim second two.allowed]
  · have notDelim : second ≠ .delim := fun same => isDelim (two.delimLast same first one.allowed)
    rw [← kindOfWord_of_mem isDelim one.allowed, kindOfWord_of_mem notDelim two.allowed]

/-- **There is no other way to cut a text into tokens.** -/
theorem Tokenised.unique {here : Nat} {text : List Char} {run : List Token}
    (tokenised : Tokenised here text run) : run = tokensFrom text 0 here := by
  induction tokenised with
  | @ending here spacing blank =>
      have ended := tokensFrom_spacing blank [] here
      rw [List.append_nil] at ended
      rw [ended]
      rfl
  | @token here spacing word rest kind run blank visible longest hasKind goesOn ih =>
      obtain ⟨c, cs, rfl, _⟩ := words_visible hasKind.allowed
      have isVisible : ¬ Spacing c := visible c rfl
      have sameWord : c :: cs = (c :: (cs ++ rest)).take (longestLexeme (c :: (cs ++ rest))).2 :=
        longest.unique (longestLexeme_longestAt isVisible _)
      have sameKind : kind = (longestLexeme (c :: (cs ++ rest))).1 := by
        refine hasKind.unique ?_
        rw [sameWord]
        exact longestLexeme_hasKind isVisible _
      have sameRest : rest = (c :: (cs ++ rest)).drop (longestLexeme (c :: (cs ++ rest))).2 := by
        refine (List.append_right_inj (c :: cs)).mp ?_
        conv_rhs => rw [sameWord]
        exact (List.take_append_drop _ _).symm
      rw [tokensFrom_spacing blank, List.cons_append, tokensFrom_visible isVisible, ← sameWord,
        ← sameKind, ← sameRest, ih]

/-- **Maximal munch.** The tokens of a source are the one cut in which each token is the longest
word that the grammar allows at its place, a delimiter only where no other rule allows that word;
and no word is of two kinds other than that. -/
theorem tokens_maximal_munch (source : String) (run : List Token) :
    (run = tokens source ↔ Tokenised 0 source.toList run) ∧
      ∀ word : List Char, {kind | kind ≠ .delim ∧ word ∈ words kind}.Subsingleton := by
  refine ⟨⟨?_, Tokenised.unique⟩, fun word first isFirst second isSecond => ?_⟩
  · rintro rfl
    exact tokensFrom_tokenised source.toList 0
  · rw [← kindOfWord_of_mem isFirst.1 isFirst.2, kindOfWord_of_mem isSecond.1 isSecond.2]

end StyleBaseline.Grammar
