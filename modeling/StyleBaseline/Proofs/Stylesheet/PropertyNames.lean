/-
**The names of declared properties.** They are words of the grammar, all of whose characters are in
ASCII; in lower case they are so too.

* `property_mem_words` — the name of a declared property is a word.
* `toList_lowercase_name` — its small form, character by character.
* `lowercase_name` — that is not empty, and no dot stands in it.
-/

import StyleBaseline.Proofs.Stylesheet.Declarations

namespace StyleBaseline

namespace Grammar

theorem NameChar.code {c : Char} (isChar : NameChar c) :
    c.toNat = 45 ∨ (48 ≤ c.toNat ∧ c.toNat ≤ 57) ∨ (65 ≤ c.toNat ∧ c.toNat ≤ 90) ∨
      c.toNat = 95 ∨ (97 ≤ c.toNat ∧ c.toNat ≤ 122) := by
  rcases isChar with (⟨lower, upper⟩ | ⟨lower, upper⟩ | rfl) | ⟨lower, upper⟩ | rfl
  · exact Or.inr (Or.inr (Or.inr (Or.inr ⟨lower, upper⟩)))
  · exact Or.inr (Or.inr (Or.inl ⟨lower, upper⟩))
  · exact Or.inr (Or.inr (Or.inr (Or.inl rfl)))
  · exact Or.inr (Or.inl ⟨lower, upper⟩)
  · exact Or.inl rfl

/-- The small form of a character of a name is not a dot. -/
theorem NameChar.toLower_ne_dot {c : Char} (isChar : NameChar c) : c.toLower ≠ '.' := by
  have code := isChar.code
  rw [← Char.toNat_inj.ne, toNat_toLower, show '.'.toNat = 46 from rfl]
  split <;> omega

theorem toList_lowercase_name {name : String} (isName : name.toList ∈ words .ident) :
    (lowercase name).toList = name.toList.map Char.toLower := by
  refine toList_lowercase_of_ascii fun c member => ?_
  have code := ((name_shape isName).2 c member).code
  omega

/-- A name in lower case is not empty, and no dot stands in it. -/
theorem lowercase_name {name : String} (isName : name.toList ∈ words .ident) :
    lowercase name ≠ "" ∧ '.' ∉ (lowercase name).toList := by
  obtain ⟨⟨c, rest, split, _⟩, chars⟩ := name_shape isName
  have small := toList_lowercase_name isName
  constructor
  · intro nothing
    rw [nothing, split] at small
    exact nomatch small
  · rw [small, List.mem_map]
    rintro ⟨d, member, isDot⟩
    exact (chars d member).toLower_ne_dot isDot

end Grammar

/-- **The name of a declared property** is a word of the grammar. -/
theorem property_mem_words {source : String} {declaration : Declaration}
    (member : declaration ∈ (Outline.ofSource source).declarations) :
    declaration.property.toList ∈ Grammar.words .ident := by
  obtain ⟨_, token, _, _, inTokens, isName, rfl⟩ := exists_place_of_mem_declarations member
  have word := Grammar.tokens_text inTokens (by rw [isName]; decide)
  rwa [isName] at word

end StyleBaseline
