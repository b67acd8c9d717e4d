/-
**Comments, strings and addresses end where their delimiters say.** What stands inside of them is
passed over unread, so that their extent can be told without the grammar: by the first `*/`, by the
first quote that no backslash escapes, by the first `)`. Where that delimiter is missing, or
something stands in its way, the token is no longer than what any other token could begin with there.

* `FirstBehind` — a mark stands behind a text for the first time.
* `Closes` — a quote closes a string, the text being read step by step.
* `OpaqueExtent` — the kind and the extent of a token that such a delimiter opens.
* `OpaqueExtent.longest` — it is the longest word there, and of that kind.
* `tokens_opaque` — the tokens of a source at those places.
-/

import StyleBaseline.Proofs.Stylesheet.TokenPlaces

namespace StyleBaseline.Grammar

/-! ### The first place of a mark -/

/-- **A mark stands behind a front** of a text, and behind no shorter one. -/
structure FirstBehind (mark text front : List Char) : Prop where
  stands : front ++ mark <+: text
  first : ∀ other, other ++ mark <+: text → front.length ≤ other.length

theorem FirstBehind.unique {mark text front other : List Char} (one : FirstBehind mark text front)
    (two : FirstBehind mark text other) : front = other := by
  have length : front.length = other.length :=
    Nat.le_antisymm (one.first other two.stands) (two.first front one.stands)
  have isFront : front <+: text := (List.prefix_append front mark).trans one.stands
  have isOther : other <+: text := (List.prefix_append other mark).trans two.stands
  exact (List.prefix_of_prefix_length_le isFront isOther length.le).eq_of_length length

theorem firstBehind_nil_iff {mark text front : List Char} (stands : mark <+: text) :
    FirstBehind mark text front ↔ front = [] := by
  have here : FirstBehind mark text [] := ⟨stands, fun _ _ => Nat.zero_le _⟩
  constructor
  · intro isFirst
    exact isFirst.unique here
  · intro isEmpty
    rw [isEmpty]
    exact here

/-- A character at which the mark does not stand is passed over. -/
theorem firstBehind_cons_iff {mark text front : List Char} {c : Char}
    (later : ¬ mark <+: c :: text) :
    FirstBehind mark (c :: text) front ↔
      ∃ behind, front = c :: behind ∧ FirstBehind mark text behind := by
  constructor
  · intro isFirst
    cases front with
    | nil => exact absurd isFirst.stands later
    | cons d behind =>
        obtain ⟨rfl, stands⟩ := List.cons_prefix_cons.mp isFirst.stands
        refine ⟨behind, rfl, stands, fun other isOther => ?_⟩
        exact Nat.le_of_succ_le_succ
          (isFirst.first (d :: other) (List.cons_prefix_cons.mpr ⟨rfl, isOther⟩))
  · intro ⟨behind, isFront, isFirst⟩
    rw [isFront]
    refine ⟨List.cons_prefix_cons.mpr ⟨rfl, isFirst.stands⟩, fun other isOther => ?_⟩
    cases other with
    | nil => exact absurd isOther later
    | cons d other =>
        obtain ⟨_, stands⟩ := List.cons_prefix_cons.mp isOther
        exact Nat.succ_le_succ (isFirst.first other stands)

/-- **A mark that stands in a text** stands there for a first time. -/
theorem exists_firstBehind_iff {mark text : List Char} :
    (∃ front, FirstBehind mark text front) ↔ mark <:+: text := by
  constructor
  · intro ⟨front, isFirst⟩
    exact (List.suffix_append front mark).isInfix.trans isFirst.stands.isInfix
  · intro stands
    induction text with
    | nil =>
        rw [List.infix_nil] at stands
        exact ⟨[], (firstBehind_nil_iff (stands ▸ List.prefix_refl [])).mpr rfl⟩
    | cons c text ih =>
        by_cases here : mark <+: c :: text
        · exact ⟨[], (firstBehind_nil_iff here).mpr rfl⟩
        · obtain ⟨behind, isFirst⟩ := ih ((List.infix_cons_iff.mp stands).resolve_left here)
          exact ⟨c :: behind, (firstBehind_cons_iff here).mpr ⟨behind, rfl, isFirst⟩⟩

/-- **A search for a mark** that gives up at certain characters answers with the first place of the
mark, if none of them stands before it. -/
theorem search_eq_some_iff {length? : List Char → Option Nat} (mark : List Char)
    (forbidden : Char → Prop) (nonempty : mark ≠ []) (missing : length? [] = none)
    (closes : ∀ text, mark <+: text → length? text = some mark.length)
    (givesUp : ∀ c text, ¬ mark <+: c :: text → forbidden c → length? (c :: text) = none)
    (goesOn : ∀ c text, ¬ mark <+: c :: text → ¬ forbidden c →
      length? (c :: text) = (length? text).map (· + 1))
    {text : List Char} {count : Nat} :
    length? text = some count ↔
      ∃ front, FirstBehind mark text front ∧ (∀ c ∈ front, ¬ forbidden c) ∧
        count = front.length + mark.length := by
  induction text generalizing count with
  | nil =>
      rw [missing]
      constructor
      · intro found
        exact nomatch found
      · intro ⟨front, isFirst, _⟩
        exact absurd (List.append_eq_nil_iff.mp (List.prefix_nil.mp isFirst.stands)).2 nonempty
  | cons c text ih =>
      by_cases here : mark <+: c :: text
      · rw [closes (c :: text) here, Option.some_inj]
        simp only [firstBehind_nil_iff here, exists_eq_left, List.not_mem_nil, false_implies,
          implies_true, true_and, List.length_nil, Nat.zero_add]
        exact eq_comm
      by_cases isForbidden : forbidden c
      · rw [givesUp c text here isForbidden]
        constructor
        · intro found
          exact nomatch found
        · intro ⟨front, isFirst, free, _⟩
          obtain ⟨behind, rfl, _⟩ := (firstBehind_cons_iff here).mp isFirst
          exact absurd isForbidden (free c List.mem_cons_self)
      · rw [goesOn c text here isForbidden, Option.map_eq_some_iff]
        constructor
        · intro ⟨further, found, counts⟩
          obtain ⟨front, isFirst, free, rfl⟩ := ih.mp found
          refine ⟨c :: front, (firstBehind_cons_iff here).mpr ⟨front, rfl, isFirst⟩,
            List.forall_mem_cons.mpr ⟨isForbidden, free⟩, ?_⟩
          rw [← counts, List.length_cons]
          omega
        · intro ⟨front, isFirst, free, counts⟩
          obtain ⟨behind, rfl, isBehind⟩ := (firstBehind_cons_iff here).mp isFirst
          refine ⟨behind.length + mark.length, ih.mpr ⟨behind, isBehind, ?_, rfl⟩, ?_⟩
          · exact (List.forall_mem_cons.mp free).2
          · rw [counts, List.length_cons]
            omega

/-! ### The ends of comments and addresses -/

/-- **A comment ends** behind the first `*/`. -/
theorem commentEnd?_eq_some_iff {text : List Char} {count : Nat} :
    commentEnd? text = some count ↔
      ∃ front, FirstBehind ['*', '/'] text front ∧ count = front.length + 2 := by
  have found : commentEnd? text = some count ↔ _ :=
    search_eq_some_iff ['*', '/'] (fun _ => False) (List.cons_ne_nil _ _) rfl ?_ ?_ ?_
  · rw [found]
    simp
  · intro _ ⟨_, whole⟩
    exact whole ▸ rfl
  · intro _ _ _ isForbidden
    exact isForbidden.elim
  · intro c text here _
    refine commentEnd?_cons fun isStar slash => here ?_
    obtain ⟨rest, rfl⟩ := List.head?_eq_some_iff.mp slash
    exact ⟨rest, isStar ▸ rfl⟩

/-- **An address ends** behind the first `)`, if no quote stands before it. -/
theorem addressEnd?_eq_some_iff {text : List Char} {count : Nat} :
    addressEnd? text = some count ↔
      ∃ front, FirstBehind [')'] text front ∧ (∀ c ∈ front, c ∉ ['"', '\'']) ∧
        count = front.length + 1 := by
  have isHere : ∀ {c : Char} {text : List Char}, [')'] <+: c :: text ↔ c = ')' := by
    intro c text
    rw [List.cons_prefix_cons]
    simp [eq_comm]
  refine search_eq_some_iff [')'] (· ∈ ['"', '\'']) (List.cons_ne_nil _ _) rfl ?_ ?_ ?_
  · intro _ ⟨_, whole⟩
    exact whole ▸ rfl
  · intro c text here isQuote
    rw [addressEnd?, if_neg (mt isHere.mpr here), if_pos (by simpa using isQuote)]
  · intro c text here noQuote
    rw [addressEnd?, if_neg (mt isHere.mpr here), if_neg (by simpa using noQuote)]

/-! ### The ends of strings -/

/-- **A string is read step by step**: a backslash together with the character behind it, and any
other character for itself. -/
def readingSteps : List Char → List (List Char)
  | [] => []
  | '\\' :: c :: cs => ['\\', c] :: readingSteps cs
  | c :: cs => [c] :: readingSteps cs

theorem readingSteps_plain {c : Char} (noEscape : c ≠ '\\') (cs : List Char) :
    readingSteps (c :: cs) = [c] :: readingSteps cs := by
  rw [readingSteps]
  intro d ds isEscape
  exact absurd isEscape noEscape

theorem flatten_readingSteps (text : List Char) : (readingSteps text).flatten = text := by
  fun_induction readingSteps text with
  | case1 => rfl
  | case2 c cs ih => rw [List.flatten_cons, ih]; rfl
  | case3 c cs _ ih => rw [List.flatten_cons, ih]; rfl

/-- **A quote closes a string** behind certain steps: it is the first step of that quote alone, and
no line feed is read before it. -/
structure Closes (quote : Char) (text : List Char) (inside : List (List Char)) : Prop where
  stands : ∃ behind, readingSteps text = inside ++ [quote] :: behind
  others : ∀ step ∈ inside, step ≠ [quote] ∧ '\n' ∉ step

section Strings

variable {quote : Char} {text more step : List Char} {inside : List (List Char)}

theorem not_closes_nil : ¬ Closes quote [] inside := by
  intro ⟨⟨behind, split⟩, _⟩
  exact List.append_ne_nil_of_right_ne_nil inside (List.cons_ne_nil _ behind) split.symm

theorem closes_nil_iff {behind : List (List Char)} (steps : readingSteps text = [quote] :: behind) :
    Closes quote text inside ↔ inside = [] := by
  constructor
  · intro ⟨⟨_, split⟩, others⟩
    cases inside with
    | nil => rfl
    | cons first inside =>
        obtain ⟨isQuote, _⟩ := List.cons.inj (steps.symm.trans split)
        exact absurd isQuote.symm (others first List.mem_cons_self).1
  · intro isEmpty
    rw [isEmpty]
    exact ⟨⟨behind, steps⟩, fun _ member => absurd member List.not_mem_nil⟩

/-- A step that is not the quote is passed over if there is no line feed in it. -/
theorem closes_cons_iff (steps : readingSteps text = step :: readingSteps more)
    (other : step ≠ [quote]) :
    Closes quote text inside ↔
      '\n' ∉ step ∧ ∃ further, inside = step :: further ∧ Closes quote more further := by
  constructor
  · intro ⟨⟨behind, split⟩, others⟩
    cases inside with
    | nil => exact absurd (List.cons.inj (steps.symm.trans split)).1 other
    | cons first further =>
        obtain ⟨rfl, isMore⟩ := List.cons.inj (steps.symm.trans split)
        obtain ⟨isStep, areFurther⟩ := List.forall_mem_cons.mp others
        exact ⟨isStep.2, further, rfl, ⟨behind, isMore⟩, areFurther⟩
  · intro ⟨noFeed, further, isInside, ⟨behind, split⟩, others⟩
    rw [isInside]
    refine ⟨⟨behind, ?_⟩, List.forall_mem_cons.mpr ⟨⟨other, noFeed⟩, others⟩⟩
    rw [steps, split, List.cons_append]

/-- What is counted up to the closing quote begins with the steps that are passed over. -/
theorem count_cons_iff (steps : readingSteps text = step :: readingSteps more)
    (other : step ≠ [quote]) (noFeed : '\n' ∉ step) {count : Nat} :
    (∃ inside, Closes quote text inside ∧ count = inside.flatten.length + 1) ↔
      ∃ further, (∃ inside, Closes quote more inside ∧ further = inside.flatten.length + 1) ∧
        further + step.length = count := by
  simp only [closes_cons_iff steps other]
  constructor
  · intro ⟨_, ⟨_, inside, rfl, closes⟩, counts⟩
    refine ⟨_, ⟨inside, closes, rfl⟩, ?_⟩
    rw [counts, List.flatten_cons, List.length_append]
    omega
  · intro ⟨_, ⟨inside, closes, rfl⟩, counts⟩
    refine ⟨step :: inside, ⟨noFeed, inside, rfl, closes⟩, ?_⟩
    rw [← counts, List.flatten_cons, List.length_append]
    omega

/-- **A string ends** behind the quote that closes it. -/
theorem stringEnd?_eq_some_iff (noBackslash : quote ≠ '\\') {count : Nat} :
    stringEnd? quote text = some count ↔
      ∃ inside, Closes quote text inside ∧ count = inside.flatten.length + 1 := by
  fun_induction stringEnd? quote text generalizing count with
  | case1 => simp [not_closes_nil]
  | case2 cs => simp [closes_nil_iff (readingSteps_plain noBackslash cs), eq_comm]
  | case3 cs noQuote =>
      have steps := readingSteps_plain (c := '\n') (by decide) cs
      simp [closes_cons_iff steps (by simpa using noQuote)]
  | case4 noQuote =>
      have steps : readingSteps ['\\'] = ['\\'] :: readingSteps [] := rfl
      simp [closes_cons_iff steps (by simpa using noQuote), not_closes_nil]
  | case5 ds noQuote =>
      have steps : readingSteps ('\\' :: '\n' :: ds) = ['\\', '\n'] :: readingSteps ds := rfl
      simp [closes_cons_iff steps (by simp)]
  | case6 d ds noFeed noQuote _ ih =>
      have steps : readingSteps ('\\' :: d :: ds) = ['\\', d] :: readingSteps ds := rfl
      rw [count_cons_iff steps (by simp) (by simpa using Ne.symm noFeed), Option.map_eq_some_iff]
      simp only [ih]
      rfl
  | case7 c cs noQuote noFeed noEscape ih =>
      have steps := readingSteps_plain noEscape cs
      rw [count_cons_iff steps (by simpa using noQuote) (by simpa using Ne.symm noFeed),
        Option.map_eq_some_iff]
      simp only [ih]
      rfl

/-- What stands up to the closing quote is the front of the text. -/
theorem Closes.atFront (closes : Closes quote text inside) : inside.flatten ++ [quote] <+: text := by
  obtain ⟨behind, split⟩ := closes.stands
  refine ⟨behind.flatten, ?_⟩
  rw [← flatten_readingSteps text, split, List.flatten_append, List.flatten_cons, List.append_assoc]

end Strings

/-! ### What can stand at a place -/

section Place

variable {kind : TokenKind} {language : Language Char} {length? : List Char → Option Nat}
variable {text word : List Char} {c : Char}

/-- **A word that is no mere delimiter** is the longest one, and of its kind, if no other such word
at its place is longer. -/
theorem longest_of_bound (named : kind ≠ .delim) (member : word ∈ words kind)
    (atFront : word <+: text)
    (bound : ∀ otherKind other, otherKind ≠ .delim → other ∈ words otherKind → other <+: text →
      other.length ≤ word.length) :
    LongestAt text word ∧ HasKind word kind := by
  refine ⟨⟨atFront, ⟨kind, member⟩, ?_⟩, member, fun isDelim => absurd isDelim named⟩
  intro other isFront ⟨otherKind, isLexeme⟩
  by_cases isDelim : otherKind = .delim
  · obtain ⟨d, rest, isWord, _⟩ := words_visible member
    rw [isDelim] at isLexeme
    obtain ⟨_, _, rfl⟩ := isLexeme
    rw [isWord, List.length_cons]
    exact Nat.le_add_left 1 _
  · exact bound otherKind other isDelim isLexeme isFront

/-- **Where no other word stands** a visible character is a delimiter. -/
theorem longest_of_alone (visible : ¬ Spacing c)
    (alone : ∀ otherKind other, otherKind ≠ .delim → other ∈ words otherKind →
      ¬ other <+: c :: text) :
    LongestAt (c :: text) [c] ∧ HasKind [c] .delim := by
  have isHere : [c] <+: c :: text := ⟨text, rfl⟩
  refine ⟨⟨isHere, ⟨.delim, c, visible, rfl⟩, ?_⟩, ⟨c, visible, rfl⟩, fun _ other isWord => ?_⟩
  · intro other isFront ⟨otherKind, isLexeme⟩
    by_cases isDelim : otherKind = .delim
    · rw [isDelim] at isLexeme
      obtain ⟨_, _, rfl⟩ := isLexeme
      exact Nat.le_refl 1
    · exact absurd isFront (alone otherKind other isDelim isLexeme)
  · by_contra isNamed
    exact alone other [c] isNamed isWord isHere

/-- A rule that answers with the length of a front has read that front. -/
theorem Reads.mem_of_answer (reads : Reads length? language) (atFront : word <+: text)
    (answer : length? text = some word.length) : word ∈ language := by
  obtain ⟨found, rest, split, member, length⟩ := reads.sound answer
  have isFront : found <+: text := ⟨rest, split.symm⟩
  rwa [← (List.prefix_of_prefix_length_le isFront atFront length.le).eq_of_length length]

theorem Reads.length_le (reads : Reads length? language) (member : word ∈ language)
    (atFront : word <+: text) {count : Nat} (answer : length? text = some count) :
    word.length ≤ count := by
  obtain ⟨rest, rfl⟩ := atFront
  obtain ⟨_, found, bound⟩ := reads.complete member rest
  rwa [Option.some.inj (answer.symm.trans found)]

theorem Reads.not_atFront (reads : Reads length? language) (member : word ∈ language)
    (missing : length? text = none) : ¬ word <+: text := by
  intro ⟨rest, split⟩
  obtain ⟨_, found, _⟩ := reads.complete member rest
  rw [split, missing] at found
  exact nomatch found

/-- **The word that a rule reads** is the longest one, and of the kind of the rule, if every other
word at its place is one that the rule reads or is no longer. -/
theorem longest_of_reads (reads : Reads length? language)
    (inKind : ∀ other ∈ language, other ∈ words kind) (named : kind ≠ .delim)
    (atFront : word <+: text) (answer : length? text = some word.length)
    (only : ∀ otherKind other, otherKind ≠ .delim → other ∈ words otherKind → other <+: text →
      other ∈ language ∨ other.length ≤ word.length) :
    LongestAt text word ∧ HasKind word kind := by
  have member : word ∈ words kind := inKind word (reads.mem_of_answer atFront answer)
  apply longest_of_bound named member atFront
  intro otherKind other isNamed isWord isFront
  rcases only otherKind other isNamed isWord isFront with inLanguage | short
  · exact reads.length_le inLanguage isFront answer
  · exact short

/-- The first character at a place tells of what kind a word there is. -/
theorem exists_cons_of_front (named : kind ≠ .delim) (member : word ∈ words kind)
    (atFront : word <+: c :: text) : ∃ rest, word = c :: rest ∧ kindOfWord (c :: rest) = kind := by
  obtain ⟨d, rest, rfl, _⟩ := words_visible member
  obtain ⟨rfl, _⟩ := List.cons_prefix_cons.mp atFront
  exact ⟨rest, rfl, kindOfWord_of_mem named member⟩

end Place

/-! ### Comments -/

theorem mem_comment_of_front {kind : TokenKind} {word text : List Char} (named : kind ≠ .delim)
    (member : word ∈ words kind) (atFront : word <+: '/' :: text) : word ∈ words .comment := by
  obtain ⟨rest, rfl, isKind⟩ := exists_cons_of_front named member atFront
  have isComment : TokenKind.comment = kind := isKind
  rwa [isComment]

theorem comment_longest {rest front : List Char} (closes : FirstBehind ['*', '/'] rest front) :
    LongestAt ('/' :: '*' :: rest) ('/' :: '*' :: (front ++ ['*', '/'])) ∧
      HasKind ('/' :: '*' :: (front ++ ['*', '/'])) .comment := by
  have atFront : '/' :: '*' :: (front ++ ['*', '/']) <+: '/' :: '*' :: rest :=
    List.cons_prefix_cons.mpr ⟨rfl, List.cons_prefix_cons.mpr ⟨rfl, closes.stands⟩⟩
  have ended : commentEnd? rest = some (front.length + 2) :=
    commentEnd?_eq_some_iff.mpr ⟨front, closes, rfl⟩
  have answer : commentLength? ('/' :: '*' :: rest) =
      some ('/' :: '*' :: (front ++ ['*', '/'])).length := by
    rw [commentLength?, ended]
    simp
  apply longest_of_reads comment_reads (fun _ => id) (by decide) atFront answer
  intro otherKind other named member isFront
  exact Or.inl (mem_comment_of_front named member isFront)

theorem openComment_longest {rest : List Char} (isOpen : ¬ ['*', '/'] <:+: rest) :
    LongestAt ('/' :: '*' :: rest) ['/'] ∧ HasKind ['/'] .delim := by
  have ended : commentEnd? rest = none := by
    refine Option.eq_none_iff_forall_ne_some.mpr fun count found => ?_
    obtain ⟨front, closes, _⟩ := commentEnd?_eq_some_iff.mp found
    exact isOpen (exists_firstBehind_iff.mp ⟨front, closes⟩)
  have missing : commentLength? ('/' :: '*' :: rest) = none := by
    rw [commentLength?, ended, Option.map_none]
  apply longest_of_alone (by decide)
  intro otherKind other named member isFront
  exact comment_reads.not_atFront (mem_comment_of_front named member isFront) missing isFront

/-! ### Strings -/

section Quotes

variable {quote : Char} {rest : List Char}

theorem mem_quotedString_of_front {kind : TokenKind} {word : List Char}
    (isQuote : quote ∈ ['"', '\'']) (named : kind ≠ .delim) (member : word ∈ words kind)
    (atFront : word <+: quote :: rest) : word ∈ quotedString quote := by
  obtain ⟨more, rfl, isKind⟩ := exists_cons_of_front named member atFront
  have isString : kind = .string := by
    rw [← isKind]
    obtain rfl | rfl := List.mem_pair.mp isQuote
    · rfl
    · rfl
  rw [isString] at member
  rcases (Language.mem_add _ _ _).mp member with double | single
  · obtain ⟨_, rfl, _, _, same⟩ := mem_oneOf_mul.mp double
    obtain rfl := (List.cons.inj same).1
    exact double
  · obtain ⟨_, rfl, _, _, same⟩ := mem_oneOf_mul.mp single
    obtain rfl := (List.cons.inj same).1
    exact single

theorem mem_string_of_quote {word : List Char} (isQuote : quote ∈ ['"', '\''])
    (member : word ∈ quotedString quote) : word ∈ words .string := by
  obtain rfl | rfl := List.mem_pair.mp isQuote
  · exact (Language.mem_add _ _ _).mpr (Or.inl member)
  · exact (Language.mem_add _ _ _).mpr (Or.inr member)

theorem noBackslash_of_quote (isQuote : quote ∈ ['"', '\'']) : quote ≠ '\\' := by
  intro isBackslash
  rw [isBackslash] at isQuote
  exact absurd isQuote (by decide)

theorem stringLength?_cons (quote : Char) (rest : List Char) :
    stringLength? quote (quote :: rest) = (stringEnd? quote rest).map (· + 1) := by
  rw [stringLength?, if_pos rfl]

theorem string_longest {inside : List (List Char)} (isQuote : quote ∈ ['"', '\''])
    (closes : Closes quote rest inside) :
    LongestAt (quote :: rest) (quote :: (inside.flatten ++ [quote])) ∧
      HasKind (quote :: (inside.flatten ++ [quote])) .string := by
  have reads := quotedString_reads (noBackslash_of_quote isQuote)
  have atFront : quote :: (inside.flatten ++ [quote]) <+: quote :: rest :=
    List.cons_prefix_cons.mpr ⟨rfl, closes.atFront⟩
  have ended : stringEnd? quote rest = some (inside.flatten.length + 1) :=
    (stringEnd?_eq_some_iff (noBackslash_of_quote isQuote)).mpr ⟨inside, closes, rfl⟩
  have answer : stringLength? quote (quote :: rest) =
      some (quote :: (inside.flatten ++ [quote])).length := by
    rw [stringLength?_cons, ended, List.length_cons, List.length_append]
    rfl
  apply longest_of_reads reads (fun _ => mem_string_of_quote isQuote) (by decide) atFront answer
  intro otherKind other named member isFront
  exact Or.inl (mem_quotedString_of_front isQuote named member isFront)

theorem openString_longest (isQuote : quote ∈ ['"', '\''])
    (isOpen : ∀ inside, ¬ Closes quote rest inside) :
    LongestAt (quote :: rest) [quote] ∧ HasKind [quote] .delim := by
  have ended : stringEnd? quote rest = none := by
    refine Option.eq_none_iff_forall_ne_some.mpr fun count found => ?_
    obtain ⟨inside, closes, _⟩ :=
      (stringEnd?_eq_some_iff (noBackslash_of_quote isQuote)).mp found
    exact isOpen inside closes
  have missing : stringLength? quote (quote :: rest) = none := by
    rw [stringLength?_cons, ended, Option.map_none]
  have visible : ¬ Spacing quote := by
    obtain rfl | rfl := List.mem_pair.mp isQuote
    · decide
    · decide
  apply longest_of_alone visible
  intro otherKind other named member isFront
  exact (quotedString_reads (noBackslash_of_quote isQuote)).not_atFront
    (mem_quotedString_of_front isQuote named member isFront) missing isFront

end Quotes

/-! ### Addresses -/

/-- The letters of `url`, in any case. -/
structure UrlLetters (u r l : Char) : Prop where
  first : u ∈ ['u', 'U']
  second : r ∈ ['r', 'R']
  third : l ∈ ['l', 'L']

namespace UrlLetters

variable {u r l : Char} {rest : List Char}

theorem urlLength?_cons (letters : UrlLetters u r l) :
    urlLength? (u :: r :: l :: '(' :: rest) = (addressEnd? rest).map (· + 4) := by
  have inFront : [u, r, l, '('] ∈ addressFront := mem_oneOf_mul.mpr
    ⟨u, letters.first, [r, l, '('], mem_oneOf_mul.mpr
      ⟨r, letters.second, [l, '('], mem_oneOf_mul.mpr ⟨l, letters.third, ['('], rfl, rfl⟩, rfl⟩, rfl⟩
  obtain ⟨_, _, _, same, isU, isR, isL⟩ := mem_addressFront.mp inFront
  simp only [List.cons.injEq] at same
  obtain ⟨rfl, rfl, rfl, _⟩ := same
  rw [urlLength?, if_pos (by simp [isU, isR, isL])]

/-- The three letters are a name. -/
theorem mem_ident (letters : UrlLetters u r l) : [u, r, l] ∈ words .ident := by
  have start : ∀ {c small capital : Char}, NameStart small → NameStart capital →
      c ∈ [small, capital] → NameStart c := by
    intro c small capital isSmall isCapital member
    obtain rfl | rfl := List.mem_pair.mp member
    · exact isSmall
    · exact isCapital
  have isU : NameStart u := start (by decide) (by decide) letters.first
  have isR : NameStart r := start (by decide) (by decide) letters.second
  have isL : NameStart l := start (by decide) (by decide) letters.third
  refine (Language.mem_add _ _ _).mpr (Or.inl (mem_plainName.mpr ⟨u, [r, l], isU, ?_, Or.inl rfl⟩))
  exact List.forall_mem_cons.mpr
    ⟨nameChar_of_start isR, List.forall_mem_singleton.mpr (nameChar_of_start isL)⟩

/-- A word at such a place is an address, or goes no further than the three letters. -/
theorem mem_url_or_length_le (letters : UrlLetters u r l) {kind : TokenKind} {word : List Char}
    (named : kind ≠ .delim) (member : word ∈ words kind)
    (atFront : word <+: u :: r :: l :: '(' :: rest) : word ∈ words .url ∨ word.length ≤ 3 := by
  by_cases short : word.length ≤ 3
  · exact Or.inr short
  -- a longer word takes the parenthesis, which no name does
  have taken : [u, r, l, '('] <+: word :=
    List.prefix_of_prefix_length_le ⟨rest, rfl⟩ atFront (Nat.lt_of_not_le short)
  have parenthesis : '(' ∈ word := taken.subset (by simp)
  obtain ⟨more, rfl, isKind⟩ := exists_cons_of_front named member atFront
  have isUrl : kindOfWord (u :: more) = .url := by
    obtain rfl | rfl := List.mem_pair.mp letters.first
    · exact if_pos parenthesis
    · exact if_pos parenthesis
  rw [isUrl] at isKind
  exact Or.inl (isKind ▸ member)

end UrlLetters

section Address

variable {u r l : Char} {rest : List Char}

theorem address_longest {front : List Char} (letters : UrlLetters u r l)
    (closes : FirstBehind [')'] rest front) (noQuote : ∀ c ∈ front, c ∉ ['"', '\'']) :
    LongestAt (u :: r :: l :: '(' :: rest) (u :: r :: l :: '(' :: (front ++ [')'])) ∧
      HasKind (u :: r :: l :: '(' :: (front ++ [')'])) .url := by
  have atFront : u :: r :: l :: '(' :: (front ++ [')']) <+: u :: r :: l :: '(' :: rest := by
    simpa using closes.stands
  have ended : addressEnd? rest = some (front.length + 1) :=
    addressEnd?_eq_some_iff.mpr ⟨front, closes, noQuote, rfl⟩
  have answer : urlLength? (u :: r :: l :: '(' :: rest) =
      some (u :: r :: l :: '(' :: (front ++ [')'])).length := by
    rw [letters.urlLength?_cons, ended]
    simp
  apply longest_of_reads address_reads (fun _ => id) (by decide) atFront answer
  intro otherKind other named member isFront
  refine (letters.mem_url_or_length_le named member isFront).imp_right fun short => ?_
  refine short.trans ?_
  simp only [List.length_cons]
  omega

theorem openAddress_longest (letters : UrlLetters u r l)
    (isOpen : ∀ front, FirstBehind [')'] rest front → ∃ c ∈ front, c ∈ ['"', '\'']) :
    LongestAt (u :: r :: l :: '(' :: rest) [u, r, l] ∧ HasKind [u, r, l] .ident := by
  have ended : addressEnd? rest = none := by
    refine Option.eq_none_iff_forall_ne_some.mpr fun count found => ?_
    obtain ⟨front, closes, noQuote, _⟩ := addressEnd?_eq_some_iff.mp found
    obtain ⟨c, member, isQuote⟩ := isOpen front closes
    exact noQuote c member isQuote
  have missing : urlLength? (u :: r :: l :: '(' :: rest) = none := by
    rw [letters.urlLength?_cons, ended, Option.map_none]
  apply longest_of_bound (by decide) letters.mem_ident ⟨'(' :: rest, rfl⟩
  intro otherKind other named member isFront
  refine (letters.mem_url_or_length_le named member isFront).resolve_left fun isUrl => ?_
  exact address_reads.not_atFront isUrl missing isFront

end Address

/-! ### The extents of tokens that are not looked into -/

/-- **The kind and the extent of a token that a delimiter opens**, by whether another one closes it.
A comment goes on to the first `*/` behind its opening, a string to the quote that closes it, and an
address to the first `)` if no quote stands before that. What is left open is a single delimiter, or
of an address the name in front of the parenthesis. -/
inductive OpaqueExtent : List Char → TokenKind → List Char → Prop
  | comment {rest front : List Char} (closes : FirstBehind ['*', '/'] rest front) :
      OpaqueExtent ('/' :: '*' :: rest) .comment ('/' :: '*' :: (front ++ ['*', '/']))
  | openComment {rest : List Char} (isOpen : ¬ ['*', '/'] <:+: rest) :
      OpaqueExtent ('/' :: '*' :: rest) .delim ['/']
  | string {quote : Char} {rest : List Char} {inside : List (List Char)}
      (isQuote : quote ∈ ['"', '\'']) (closes : Closes quote rest inside) :
      OpaqueExtent (quote :: rest) .string (quote :: (inside.flatten ++ [quote]))
  | openString {quote : Char} {rest : List Char} (isQuote : quote ∈ ['"', '\''])
      (isOpen : ∀ inside, ¬ Closes quote rest inside) :
      OpaqueExtent (quote :: rest) .delim [quote]
  | address {u r l : Char} {rest front : List Char} (letters : UrlLetters u r l)
      (closes : FirstBehind [')'] rest front) (noQuote : ∀ c ∈ front, c ∉ ['"', '\'']) :
      OpaqueExtent (u :: r :: l :: '(' :: rest) .url (u :: r :: l :: '(' :: (front ++ [')']))
  | openAddress {u r l : Char} {rest : List Char} (letters : UrlLetters u r l)
      (isOpen : ∀ front, FirstBehind [')'] rest front → ∃ c ∈ front, c ∈ ['"', '\'']) :
      OpaqueExtent (u :: r :: l :: '(' :: rest) .ident [u, r, l]

/-- **Where such a token opens**: at `/*`, at a quote, and at `url(` in letters of any case. -/
inductive OpensOpaque : List Char → Prop
  | comment (rest : List Char) : OpensOpaque ('/' :: '*' :: rest)
  | string {quote : Char} (isQuote : quote ∈ ['"', '\'']) (rest : List Char) :
      OpensOpaque (quote :: rest)
  | address {u r l : Char} (letters : UrlLetters u r l) (rest : List Char) :
      OpensOpaque (u :: r :: l :: '(' :: rest)

/-- Closed or open, there is an extent. -/
theorem OpensOpaque.exists_extent {text : List Char} (opens : OpensOpaque text) :
    ∃ kind word, OpaqueExtent text kind word := by
  cases opens with
  | comment rest =>
      by_cases closed : ['*', '/'] <:+: rest
      · obtain ⟨front, closes⟩ := exists_firstBehind_iff.mpr closed
        exact ⟨_, _, .comment closes⟩
      · exact ⟨_, _, .openComment closed⟩
  | @string quote isQuote rest =>
      by_cases closed : ∃ inside, Closes quote rest inside
      · obtain ⟨inside, closes⟩ := closed
        exact ⟨_, _, .string isQuote closes⟩
      · exact ⟨_, _, .openString isQuote (not_exists.mp closed)⟩
  | address letters rest =>
      by_cases closed : ∃ front, FirstBehind [')'] rest front ∧ ∀ c ∈ front, c ∉ ['"', '\'']
      · obtain ⟨front, closes, noQuote⟩ := closed
        exact ⟨_, _, .address letters closes noQuote⟩
      · refine ⟨_, _, .openAddress letters fun front closes => ?_⟩
        by_contra noQuote
        exact closed ⟨front, closes, fun c member isQuote => noQuote ⟨c, member, isQuote⟩⟩

/-- **The extent is that of the longest word**, and the kind is that of this word. -/
theorem OpaqueExtent.longest {text word : List Char} {kind : TokenKind}
    (extent : OpaqueExtent text kind word) : LongestAt text word ∧ HasKind word kind := by
  cases extent with
  | comment closes => exact comment_longest closes
  | openComment isOpen => exact openComment_longest isOpen
  | string isQuote closes => exact string_longest isQuote closes
  | openString isQuote isOpen => exact openString_longest isQuote isOpen
  | address letters closes noQuote => exact address_longest letters closes noQuote
  | openAddress letters isOpen => exact openAddress_longest letters isOpen

/-- **Comments, strings and addresses.** At every place of a source where a token stands and one of
these opens, the token has the kind and the extent that its delimiters say. -/
theorem tokens_opaque {source : String} {token : Token} (member : token ∈ tokens source)
    {before text : List Char} (split : source.toList = before ++ text)
    (starts : token.span.start = byteLength before) (opens : OpensOpaque text) :
    (∃ kind word, OpaqueExtent text kind word) ∧
      ∀ kind word, OpaqueExtent text kind word → word <+: text ∧
        token = ⟨kind, ⟨byteLength before, byteLength before + byteLength word⟩⟩ := by
  refine ⟨opens.exists_extent, fun kind word extent => ?_⟩
  obtain ⟨longest, hasKind⟩ := extent.longest
  have nonempty : text ≠ [] := by
    intro isEmpty
    rw [isEmpty] at opens
    exact nomatch opens
  obtain ⟨found, isLongest, isKind, span⟩ := tokens_longest member split starts nonempty
  obtain rfl := isLongest.unique longest
  refine ⟨longest.atFront, ?_⟩
  rw [← isKind.unique hasKind, ← span]

theorem tokens_opaque_stars :
    (⟨.comment, ⟨2, 9⟩⟩ : Token) ∈ tokens "a /*/ **/*/" ∧
      (∃ kind word, OpaqueExtent "/*/ **/*/".toList kind word) ∧
        ∀ kind word, OpaqueExtent "/*/ **/*/".toList kind word → word <+: "/*/ **/*/".toList ∧
          (⟨.comment, ⟨2, 9⟩⟩ : Token) = ⟨kind, ⟨2, 2 + byteLength word⟩⟩ := by
  have member : (⟨.comment, ⟨2, 9⟩⟩ : Token) ∈ tokens "a /*/ **/*/" := by decide
  have split : "a /*/ **/*/".toList = "a ".toList ++ "/*/ **/*/".toList := by decide
  exact ⟨member, tokens_opaque member split rfl (.comment _)⟩

end StyleBaseline.Grammar
