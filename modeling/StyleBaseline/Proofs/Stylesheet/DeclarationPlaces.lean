/-
**What a declaration tells of its place.** The name of a declared property is a stretch of the
source. The declaration holds the characters of that stretch, and the line and column behind what
stands before it.

* `exists_split_of_mem_declared` — the stretch of the source that a declared name takes.
* `declarationAt_of_split` — the declaration of a name that takes a given stretch.
-/

import StyleBaseline.Proofs.Stylesheet.Declarations
import StyleBaseline.Proofs.Text.Positions

namespace StyleBaseline

/-- The span of a word behind some text. -/
def spanOf (before word : List Char) : Span :=
  ⟨byteLength before, byteLength before + byteLength word⟩

/-- A declared name is a word of the grammar and takes a stretch of the source. -/
theorem exists_split_of_mem_declared {source : String} {span : Span}
    (member : span ∈ Scanner.initial.declared (tokens source)) :
    ∃ before word after, source.toList = before ++ (word ++ after) ∧ span = spanOf before word ∧
      word ∈ Grammar.words .ident := by
  rw [declared_tokens, List.mem_map] at member
  obtain ⟨token, declared, rfl⟩ := member
  have inTokens := mem_tokens_of_mem_declaredNames declared
  have isName := kind_of_mem_declaredNames declared
  obtain ⟨before, word, after, split, place, kinds⟩ :=
    (Grammar.tokens_tokenised source).place inTokens
  rw [Nat.zero_add] at place
  have isWord : word ∈ Grammar.words token.kind := by
    refine kinds.resolve_left fun ending => ?_
    rw [isName] at ending
    exact absurd ending.1 (by decide)
  rw [isName] at isWord
  exact ⟨before, word, after, split, place, isWord⟩

/-- **The declaration of a name** that takes a given stretch of the source. -/
theorem declarationAt_of_split {source : String} {before word after : List Char}
    (split : source.toList = before ++ (word ++ after)) :
    Outline.declarationAt source (LineTable.ofText source) (spanOf before word) =
      ⟨String.ofList word, spanOf before word, (positionBehind before).line,
        (positionBehind before).column⟩ := by
  have text : (spanOf before word).textIn source = String.ofList word :=
    textIn_of_split split
  have position : (LineTable.ofText source).position? (spanOf before word).start =
      some (positionBehind before) := position?_of_split split
  rw [Outline.declarationAt, text, position]
  rfl

end StyleBaseline
