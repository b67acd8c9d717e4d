/-
**The words of each kind of token.** The token grammar as regular languages over characters, each
written as the regular expression that describes it: `+` is choice, `*` is one after the other, and
`∗` is any number of times.

* `words` — the words of each kind of token.
* `kindOfWord_of_mem` — a word that is no mere delimiter has one kind only: its first character and
  the presence of an opening parenthesis tell the kinds apart.
* `mem_kstar_oneOf`, `kstar_mul_induction` — how membership in an iterated language is used.
* `words_visible` — no token is empty, and none begins with white space.
-/

import Mathlib.Computability.Language
import StyleBaseline.Stylesheet.Token

namespace StyleBaseline.Grammar

open scoped Computability

/-! ### Building blocks -/

/-- The words of a single character that is allowed. -/
def oneOf (allowed : Char → Prop) : Language Char :=
  {word | ∃ c, allowed c ∧ word = [c]}

/-- The one word that is spelt out. -/
def exactly (text : String) : Language Char :=
  {text.toList}

/-- White space between tokens. -/
def Spacing (c : Char) : Prop :=
  c ∈ [' ', '\t', '\r', '\n', '\x0c']

/-- What a name can begin with: `[a-zA-Z_]`. -/
def NameStart (c : Char) : Prop :=
  ('a' ≤ c ∧ c ≤ 'z') ∨ ('A' ≤ c ∧ c ≤ 'Z') ∨ c = '_'

/-- What a name can go on with: `[a-zA-Z0-9_\-]`. -/
def NameChar (c : Char) : Prop :=
  NameStart c ∨ ('0' ≤ c ∧ c ≤ '9') ∨ c = '-'

instance : DecidablePred Spacing := fun c =>
  inferInstanceAs (Decidable (c ∈ [' ', '\t', '\r', '\n', '\x0c']))

instance : DecidablePred NameStart := fun c =>
  inferInstanceAs (Decidable (('a' ≤ c ∧ c ≤ 'z') ∨ ('A' ≤ c ∧ c ≤ 'Z') ∨ c = '_'))

instance : DecidablePred NameChar := fun c =>
  inferInstanceAs (Decidable (NameStart c ∨ ('0' ≤ c ∧ c ≤ '9') ∨ c = '-'))

/-! ### The regular expressions -/

/-- One star or more: `\*+`. -/
def stars : Language Char :=
  oneOf (· = '*') * (oneOf (· = '*'))∗

/-- What a comment repeats before its last stars: `[^*]|\*+[^*/]`. -/
def commentItem : Language Char :=
  oneOf (· ≠ '*') + stars * oneOf fun c => c ≠ '*' ∧ c ≠ '/'

/-- A comment behind its first two characters: `([^*]|\*+[^*/])*\*+/`. -/
def commentBody : Language Char :=
  commentItem∗ * (stars * exactly "/")

/-- A comment: `/\*([^*]|\*+[^*/])*\*+/`. -/
def comment : Language Char :=
  exactly "/*" * commentBody

/-- What a string repeats between its quotes, for double quotes `[^"\\\n]|\\.`: the dot is any
character but a line feed. -/
def stringItem (quote : Char) : Language Char :=
  oneOf (fun c => c ≠ quote ∧ c ≠ '\\' ∧ c ≠ '\n') + exactly "\\" * oneOf (· ≠ '\n')

/-- A string behind its first quote. -/
def stringBody (quote : Char) : Language Char :=
  (stringItem quote)∗ * oneOf (· = quote)

/-- A string in the given quotes, for double quotes `"([^"\\\n]|\\.)*"`. -/
def quotedString (quote : Char) : Language Char :=
  oneOf (· = quote) * stringBody quote

/-- An address behind its parenthesis: `[^)"']*\)`. -/
def addressBody : Language Char :=
  (oneOf (· ∉ [')', '"', '\'']))∗ * exactly ")"

/-- An unquoted address: `[uU][rR][lL]\([^)"']*\)`. -/
def address : Language Char :=
  oneOf (· ∈ ['u', 'U']) * (oneOf (· ∈ ['r', 'R']) * (oneOf (· ∈ ['l', 'L']) *
    (exactly "(" * addressBody)))

/-- A name with at most one hyphen in front: `-?[a-zA-Z_][a-zA-Z0-9_\-]*`. -/
def plainName : Language Char :=
  (1 + exactly "-") * (oneOf NameStart * (oneOf NameChar)∗)

/-- The name of a custom property: `--[a-zA-Z0-9_\-]+`. -/
def customName : Language Char :=
  exactly "--" * (oneOf NameChar * (oneOf NameChar)∗)

/-- The words of each kind of token. There is none for an error and for the end of the source. -/
def words : TokenKind → Language Char
  | .comment => comment
  | .string => quotedString '"' + quotedString '\''
  | .url => address
  | .ident => plainName + customName
  | .atKeyword => exactly "@" * plainName
  | .leftBrace => exactly "\x7b"
  | .rightBrace => exactly "\x7d"
  | .semicolon => exactly ";"
  | .colon => exactly ":"
  | .delim => oneOf fun c => ¬ Spacing c
  | .error => 0
  | .eof => 0

/-! ### Membership -/

variable {word : List Char} {allowed : Char → Prop} {language other : Language Char}

@[simp]
theorem mem_oneOf : word ∈ oneOf allowed ↔ ∃ c, allowed c ∧ word = [c] :=
  Iff.rfl

@[simp]
theorem mem_exactly {text : String} : word ∈ exactly text ↔ word = text.toList :=
  Iff.rfl

@[simp]
theorem mem_oneOf_mul :
    word ∈ oneOf allowed * language ↔ ∃ c, allowed c ∧ ∃ rest ∈ language, word = c :: rest := by
  rw [Language.mem_mul]
  constructor
  · rintro ⟨_, ⟨c, isAllowed, rfl⟩, rest, member, rfl⟩
    exact ⟨c, isAllowed, rest, member, rfl⟩
  · rintro ⟨c, isAllowed, rest, member, rfl⟩
    exact ⟨[c], ⟨c, isAllowed, rfl⟩, rest, member, rfl⟩

@[simp]
theorem mem_exactly_mul {text : String} :
    word ∈ exactly text * language ↔ ∃ rest ∈ language, word = text.toList ++ rest := by
  rw [Language.mem_mul]
  constructor
  · rintro ⟨_, rfl, rest, member, rfl⟩
    exact ⟨rest, member, rfl⟩
  · rintro ⟨rest, member, rfl⟩
    exact ⟨text.toList, rfl, rest, member, rfl⟩

/-- A word of an iterated language with another one behind it is one of the latter, or one item
longer than another such word. -/
theorem mem_kstar_mul :
    word ∈ language∗ * other ↔
      word ∈ other ∨ ∃ item ∈ language, ∃ rest ∈ language∗ * other, word = item ++ rest := by
  have unrolled : language∗ * other = other + language * (language∗ * other) := by
    conv_lhs => rw [← Language.one_add_self_mul_kstar_eq_kstar, add_mul, one_mul, mul_assoc]
  conv_lhs => rw [unrolled, Language.mem_add, Language.mem_mul]
  simp only [eq_comm]

/-- Induction along the items of an iterated language. -/
theorem kstar_mul_induction {motive : List Char → Prop}
    (ending : ∀ word ∈ other, motive word)
    (item : ∀ first ∈ language, ∀ rest, motive rest → motive (first ++ rest))
    (member : word ∈ language∗ * other) : motive word := by
  obtain ⟨_, ⟨items, rfl, inLanguage⟩, last, isLast, rfl⟩ := Language.mem_mul.mp member
  induction items with
  | nil => exact ending last isLast
  | cons first items ih =>
      rw [List.flatten_cons, List.append_assoc]
      have restIn : ∀ part ∈ items, part ∈ language := fun part isPart =>
        inLanguage part (List.mem_cons_of_mem _ isPart)
      exact item first (inLanguage first List.mem_cons_self) _
        (ih restIn (Language.append_mem_mul (Language.join_mem_kstar restIn) isLast))

/-- Any number of allowed characters. -/
@[simp]
theorem mem_kstar_oneOf : word ∈ (oneOf allowed)∗ ↔ ∀ c ∈ word, allowed c := by
  constructor
  · rintro ⟨parts, rfl, eachAllowed⟩ c member
    obtain ⟨part, isPart, inPart⟩ := List.mem_flatten.mp member
    obtain ⟨d, isAllowed, rfl⟩ := eachAllowed part isPart
    rwa [List.mem_singleton.mp inPart]
  · intro eachAllowed
    have joined : (word.map fun c => [c]).flatten = word := by
      induction word with
      | nil => rfl
      | cons c word ih => simp [ih fun d member => eachAllowed d (List.mem_cons_of_mem _ member)]
    rw [← joined]
    refine Language.join_mem_kstar fun part isPart => ?_
    obtain ⟨c, member, rfl⟩ := List.mem_map.mp isPart
    exact ⟨c, eachAllowed c member, rfl⟩

/-! ### Names -/

theorem nameChar_of_start {c : Char} (start : NameStart c) : NameChar c :=
  Or.inl start

/-- A plain name is a first character and others behind it, with or without a hyphen in front. -/
theorem mem_plainName :
    word ∈ plainName ↔ ∃ c rest, NameStart c ∧ (∀ d ∈ rest, NameChar d) ∧
      (word = c :: rest ∨ word = '-' :: c :: rest) := by
  rw [plainName, add_mul, one_mul, Language.mem_add, mem_oneOf_mul, mem_exactly_mul]
  constructor
  · rintro (⟨c, start, rest, others, rfl⟩ | ⟨_, plain, rfl⟩)
    · exact ⟨c, rest, start, mem_kstar_oneOf.mp others, Or.inl rfl⟩
    · obtain ⟨c, start, rest, others, rfl⟩ := mem_oneOf_mul.mp plain
      exact ⟨c, rest, start, mem_kstar_oneOf.mp others, Or.inr rfl⟩
  · rintro ⟨c, rest, start, others, rfl | rfl⟩
    · exact Or.inl ⟨c, start, rest, mem_kstar_oneOf.mpr others, rfl⟩
    · exact Or.inr ⟨c :: rest, mem_oneOf_mul.mpr ⟨c, start, rest, mem_kstar_oneOf.mpr others, rfl⟩,
        rfl⟩

/-- The name of a custom property is two hyphens and at least one character behind them. -/
theorem mem_customName :
    word ∈ customName ↔
      ∃ c rest, NameChar c ∧ (∀ d ∈ rest, NameChar d) ∧ word = '-' :: '-' :: c :: rest := by
  rw [customName, mem_exactly_mul]
  constructor
  · rintro ⟨_, named, rfl⟩
    obtain ⟨c, isName, rest, others, rfl⟩ := mem_oneOf_mul.mp named
    exact ⟨c, rest, isName, mem_kstar_oneOf.mp others, rfl⟩
  · rintro ⟨c, rest, isName, others, rfl⟩
    exact ⟨c :: rest, mem_oneOf_mul.mpr ⟨c, isName, rest, mem_kstar_oneOf.mpr others, rfl⟩, rfl⟩

/-- **A name** has at least one character, is made of characters of names, and begins with a hyphen
or with one that can begin a name. -/
theorem name_shape (member : word ∈ words .ident) :
    (∃ c rest, word = c :: rest ∧ (NameStart c ∨ c = '-')) ∧ ∀ c ∈ word, NameChar c := by
  have hyphen : NameChar '-' := Or.inr (Or.inr rfl)
  rcases (Language.mem_add _ _ _).mp member with plain | custom
  · obtain ⟨c, rest, start, others, rfl | rfl⟩ := mem_plainName.mp plain
    · exact ⟨⟨c, rest, rfl, Or.inl start⟩,
        List.forall_mem_cons.mpr ⟨nameChar_of_start start, others⟩⟩
    · exact ⟨⟨'-', c :: rest, rfl, Or.inr rfl⟩, List.forall_mem_cons.mpr
        ⟨hyphen, List.forall_mem_cons.mpr ⟨nameChar_of_start start, others⟩⟩⟩
  · obtain ⟨c, rest, isName, others, rfl⟩ := mem_customName.mp custom
    exact ⟨⟨'-', '-' :: c :: rest, rfl, Or.inr rfl⟩, List.forall_mem_cons.mpr
      ⟨hyphen, List.forall_mem_cons.mpr ⟨hyphen, List.forall_mem_cons.mpr ⟨isName, others⟩⟩⟩⟩

/-! ### The first character -/

theorem not_spacing_of_start {c : Char} (start : NameStart c) : ¬ Spacing c := by
  intro spacing
  simp only [Spacing, List.mem_cons, List.not_mem_nil, or_false] at spacing
  rcases spacing with rfl | rfl | rfl | rfl | rfl <;> exact absurd start (by decide)

/-- **A token has a first character**, and that is not white space. -/
theorem words_visible {kind : TokenKind} (member : word ∈ words kind) :
    ∃ c rest, word = c :: rest ∧ ¬ Spacing c := by
  cases kind with
  | comment =>
      obtain ⟨rest, _, rfl⟩ := mem_exactly_mul.mp member
      exact ⟨'/', _, rfl, by decide⟩
  | string =>
      rcases (Language.mem_add _ _ _).mp member with double | single
      · obtain ⟨_, rfl, rest, _, rfl⟩ := mem_oneOf_mul.mp double
        exact ⟨'"', rest, rfl, by decide⟩
      · obtain ⟨_, rfl, rest, _, rfl⟩ := mem_oneOf_mul.mp single
        exact ⟨'\'', rest, rfl, by decide⟩
  | url =>
      obtain ⟨u, isU, rest, _, rfl⟩ := mem_oneOf_mul.mp member
      refine ⟨u, rest, rfl, not_spacing_of_start ?_⟩
      obtain rfl | rfl : u = 'u' ∨ u = 'U' := by simpa using isU
      · decide
      · decide
  | ident =>
      obtain ⟨⟨c, rest, rfl, start | rfl⟩, _⟩ := name_shape member
      · exact ⟨c, rest, rfl, not_spacing_of_start start⟩
      · exact ⟨'-', rest, rfl, by decide⟩
  | atKeyword =>
      obtain ⟨rest, _, rfl⟩ := mem_exactly_mul.mp member
      exact ⟨'@', rest, rfl, by decide⟩
  | leftBrace => exact ⟨'\x7b', [], member, by decide⟩
  | rightBrace => exact ⟨'\x7d', [], member, by decide⟩
  | semicolon => exact ⟨';', [], member, by decide⟩
  | colon => exact ⟨':', [], member, by decide⟩
  | delim =>
      obtain ⟨c, visible, rfl⟩ := member
      exact ⟨c, [], rfl, visible⟩
  | error => exact absurd member (Language.notMem_zero _)
  | eof => exact absurd member (Language.notMem_zero _)

/-! ### One kind for each word -/

/-- The kind of a word that is no mere delimiter, told by its first character; an address differs
from a name in its parenthesis. -/
def kindOfWord (word : List Char) : TokenKind :=
  match word.head? with
  | some '/' => .comment
  | some '"' | some '\'' => .string
  | some '@' => .atKeyword
  | some '\x7b' => .leftBrace
  | some '\x7d' => .rightBrace
  | some ';' => .semicolon
  | some ':' => .colon
  | _ => if '(' ∈ word then .url else .ident

/-- What begins as a name does is of the kind of names, if there is no parenthesis in it. -/
theorem kindOfWord_of_first {c : Char} {rest : List Char} (first : NameStart c ∨ c = '-')
    (noParenthesis : '(' ∉ c :: rest) : kindOfWord (c :: rest) = .ident := by
  unfold kindOfWord
  split
  case h_9 => exact if_neg noParenthesis
  all_goals
    rename_i head
    obtain rfl : c = _ := Option.some.inj head
    exact absurd first (by decide)

/-- **A word has one kind**, unless one of its kinds is that of a delimiter. -/
theorem kindOfWord_of_mem {kind : TokenKind} (named : kind ≠ .delim) (member : word ∈ words kind) :
    kindOfWord word = kind := by
  cases kind with
  | comment =>
      obtain ⟨rest, _, rfl⟩ := mem_exactly_mul.mp member
      rfl
  | string =>
      rcases (Language.mem_add _ _ _).mp member with double | single
      · obtain ⟨_, rfl, rest, _, rfl⟩ := mem_oneOf_mul.mp double
        rfl
      · obtain ⟨_, rfl, rest, _, rfl⟩ := mem_oneOf_mul.mp single
        rfl
  | url =>
      obtain ⟨u, isU, _, behindU, rfl⟩ := mem_oneOf_mul.mp member
      obtain ⟨r, _, _, behindR, rfl⟩ := mem_oneOf_mul.mp behindU
      obtain ⟨l, _, _, behindL, rfl⟩ := mem_oneOf_mul.mp behindR
      obtain ⟨rest, _, rfl⟩ := mem_exactly_mul.mp behindL
      have parenthesis : '(' ∈ u :: r :: l :: ("(".toList ++ rest) := by simp
      obtain rfl | rfl : u = 'u' ∨ u = 'U' := by simpa using isU
      · exact if_pos parenthesis
      · exact if_pos parenthesis
  | ident =>
      obtain ⟨⟨c, rest, rfl, first⟩, isName⟩ := name_shape member
      exact kindOfWord_of_first first fun inside => absurd (isName _ inside) (by decide)
  | atKeyword =>
      obtain ⟨rest, _, rfl⟩ := mem_exactly_mul.mp member
      rfl
  | leftBrace => rw [mem_exactly.mp member]; rfl
  | rightBrace => rw [mem_exactly.mp member]; rfl
  | semicolon => rw [mem_exactly.mp member]; rfl
  | colon => rw [mem_exactly.mp member]; rfl
  | delim => exact absurd rfl named
  | error => exact absurd member (Language.notMem_zero _)
  | eof => exact absurd member (Language.notMem_zero _)

end StyleBaseline.Grammar
