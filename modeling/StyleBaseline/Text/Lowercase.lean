/-
**Lower case.** Each capital letter is replaced by its small form, by the full mapping of Unicode.
Two letters are special: the capital I with a dot becomes two characters, and a sigma at the end of
a word becomes the final one.

* `lowercase` — the small form of a text.
* `lowercase_eq_map_toLower` — on ASCII it is the letter by letter mapping.
-/
import StyleBaseline.Text.CharacterClasses

namespace StyleBaseline

/-- Whether the first character that is not passed over is a letter with case. -/
def beginsWithCased (cs : List Char) : Bool :=
  match cs.dropWhile fun c => inRanges caseIgnorableRanges c.toNat with
  | [] => false
  | c :: _ => inRanges casedRanges c.toNat

/-- The small form of a sigma: the final one if a letter goes before it in its word and none comes
after it. The text before it is given backwards. -/
def smallSigma (before after : List Char) : Char :=
  if beginsWithCased before && !beginsWithCased after then 'ς' else 'σ'

/-- The small form of a character that has one of its own, and else the character. -/
def smallLetter (c : Char) : Char :=
  match capitalRuns.find? fun run => run.holds c.toNat with
  | some run => Char.ofNat ((c.toNat : Int) + run.shift).toNat
  | none => c

/-- The small form of a character between two texts, the one before it given backwards. -/
def smallForm (before : List Char) (c : Char) (after : List Char) : List Char :=
  if c.toNat < 128 then [c.toLower]
  else if c = 'Σ' then [smallSigma before after]
  else if c = 'İ' then ['i', '\u0307']
  else [smallLetter c]

/-- The small form of a text behind another one, which is given backwards. -/
def lowercaseAfter : (before cs : List Char) → List Char
  | _, [] => []
  | before, c :: cs => smallForm before c cs ++ lowercaseAfter (c :: before) cs

/-- The small form of a text. -/
def lowercase (text : String) : String :=
  String.ofList (lowercaseAfter [] text.toList)

theorem lowercaseAfter_eq_map_toLower {before cs : List Char}
    (ascii : ∀ c ∈ cs, c.toNat < 128) : lowercaseAfter before cs = cs.map Char.toLower := by
  induction cs generalizing before with
  | nil => rfl
  | cons c cs ih =>
      have first : c.toNat < 128 := ascii c (by simp)
      simp [lowercaseAfter, smallForm, first, ih fun d member => ascii d (by simp [member])]

/-- On ASCII text it looks at no character but the one it replaces. -/
theorem lowercase_eq_map_toLower {text : String} (ascii : ∀ c ∈ text.toList, c.toNat < 128) :
    lowercase text = String.ofList (text.toList.map Char.toLower) := by
  rw [lowercase, lowercaseAfter_eq_map_toLower ascii]

end StyleBaseline
