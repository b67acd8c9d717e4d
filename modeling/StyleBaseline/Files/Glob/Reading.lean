/-
**Reading file patterns.** A pattern is read one character at a time, with an open group of
alternatives for each brace that is not closed yet. Some marks take characters behind them along: a
backslash one, a star another star and the slash behind that, a bracket all up to its partner.

* `Glob.ofText` — the pattern that a text writes.
* `PatternFault.message` — the wording of what is wrong with it.
-/
import StyleBaseline.Files.Glob.Pattern

namespace StyleBaseline

/-- Why a text is no pattern. -/
inductive PatternFault where
  | unclosedClass
  | invalidRange (low high : Char)
  | unopenedGroup
  | unclosedGroup
  | danglingEscape
deriving DecidableEq, Repr

/-- The wording of a fault of a text. -/
def PatternFault.message (text : String) (fault : PatternFault) : String :=
  "error parsing glob '" ++ text ++ "': " ++
    match fault with
    | unclosedClass => "unclosed character class; missing ']'"
    | invalidRange low high =>
        "invalid range; '" ++ String.ofList [low] ++ "' > '" ++ String.ofList [high] ++ "'"
    | unopenedGroup =>
        "unopened alternate group; missing '\x7b' (maybe escape '\x7d' with '[\x7d]'?)"
    | unclosedGroup =>
        "unclosed alternate group; missing '\x7d' (maybe escape '\x7b' with '[\x7b]'?)"
    | danglingEscape => "dangling '\\'"

/-! ### Classes -/

/-- The ranges of a class that are read, and whether the last one waits for its upper end. -/
structure ClassDraft where
  ranges : List (Char × Char)
  waits : Bool
deriving DecidableEq, Repr

namespace ClassDraft

/-- A draft with one more character: the upper end of the range that waits for one, and else a range
of its own. -/
def add (draft : ClassDraft) (c : Char) : Except PatternFault ClassDraft :=
  match draft.waits, draft.ranges.getLast? with
  | true, some (low, _) =>
      if c < low then .error (.invalidRange low c)
      else .ok ⟨draft.ranges.dropLast ++ [(low, c)], false⟩
  | _, _ => .ok ⟨draft.ranges ++ [(c, c)], false⟩

/-- The ranges at the end of a class. A hyphen that waits for an upper end stands for itself. -/
def finish (draft : ClassDraft) : List (Char × Char) :=
  if draft.waits then draft.ranges ++ [('-', '-')] else draft.ranges

end ClassDraft

/-- Reads a class behind its first character, up to its closing bracket. Gives its ranges, and how
many characters they take with the bracket. -/
def readClassFrom (draft : ClassDraft) : List Char → Except PatternFault (List (Char × Char) × Nat)
  | [] => .error .unclosedClass
  | c :: cs =>
      if c = ']' then .ok (draft.finish, 1)
      else if c = '-' ∧ !draft.waits then do
        let (ranges, count) ← readClassFrom { draft with waits := true } cs
        .ok (ranges, count + 1)
      else do
        let draft ← draft.add c
        let (ranges, count) ← readClassFrom draft cs
        .ok (ranges, count + 1)

/-- Reads the ranges of a class. The first character stands for itself, whatever it is. -/
def readRanges : List Char → Except PatternFault (List (Char × Char) × Nat)
  | [] => .error .unclosedClass
  | c :: cs => do
      let (ranges, count) ← readClassFrom ⟨[(c, c)], false⟩ cs
      .ok (ranges, count + 1)

/-- Reads a class behind its opening bracket. -/
def readClass : List Char → Except PatternFault (GlobPart × Nat)
  | '!' :: cs | '^' :: cs => do
      let (ranges, count) ← readRanges cs
      .ok (.byteClass true ranges, count + 1)
  | cs => do
      let (ranges, count) ← readRanges cs
      .ok (.byteClass false ranges, count)

/-! ### Patterns -/

/-- A group of alternatives that is not closed: the branches before the present one, and the parts
before the group. -/
structure OpenGroup where
  branches : List (List GlobPart)
  before : List GlobPart

/-- What is read of a pattern: the parts of the present branch, and the open groups from the inside
out. -/
structure GlobDraft where
  parts : List GlobPart
  groups : List OpenGroup

namespace GlobDraft

/-- Before the first character. -/
def empty : GlobDraft :=
  ⟨[], []⟩

/-- A draft with more parts in the present branch. -/
def push (draft : GlobDraft) (parts : List GlobPart) : GlobDraft :=
  { draft with parts := draft.parts ++ parts }

/-- Opens a group. -/
def openGroup (draft : GlobDraft) : GlobDraft :=
  ⟨[], ⟨[], draft.parts⟩ :: draft.groups⟩

/-- Begins the next branch of the innermost group; without one a comma stands for itself. -/
def nextBranch (draft : GlobDraft) : GlobDraft :=
  match draft.groups with
  | [] => draft.push [.literal ',']
  | group :: outer => ⟨[], ⟨group.branches ++ [draft.parts], group.before⟩ :: outer⟩

/-- Closes the innermost group. -/
def closeGroup (draft : GlobDraft) : Except PatternFault GlobDraft :=
  match draft.groups with
  | [] => .error .unopenedGroup
  | group :: outer =>
      .ok ⟨group.before ++ [.alternatives (group.branches ++ [draft.parts])], outer⟩

/-- Whether two stars can begin a component behind the given character. -/
def startsComponent (draft : GlobDraft) (previous : Option Char) : Bool :=
  previous == some '/'
    || (!draft.groups.isEmpty && (previous == some ',' || previous == some '\x7b'))

/-- Puts a part for whole components in place of the slash before it. Behind two other stars it adds
nothing. -/
def pushComponents (draft : GlobDraft) (part : GlobPart) : GlobDraft :=
  match draft.parts.getLast? with
  | some .leadingComponents => draft
  | some .trailingComponents => draft
  | _ => { draft with parts := draft.parts.dropLast ++ [part] }

/-- Reads two stars, given the character before them and the text behind them. Gives also how many
characters of that they take along. -/
def takeStars (draft : GlobDraft) (previous : Option Char) (behind : List Char) : GlobDraft × Nat :=
  let plain := draft.push [.anyBytes, .anyBytes]
  if draft.parts.isEmpty then
    match behind with
    | [] => (draft.push [.leadingComponents], 0)
    | '/' :: _ => (draft.push [.leadingComponents], 1)
    | _ => (plain, 0)
  else if !draft.startsComponent previous then (plain, 0)
  else match behind with
    | [] => (draft.pushComponents .trailingComponents, 0)
    | '/' :: _ => (draft.pushComponents .innerComponents, 1)
    | c :: _ =>
        if (c = ',' ∨ c = '\x7d') ∧ !draft.groups.isEmpty then
          (draft.pushComponents .trailingComponents, 0)
        else (plain, 0)

/-- Reads a character, given the one before it and the text behind it. Gives also how many
characters of that it takes along. -/
def take (draft : GlobDraft) (previous : Option Char) (c : Char) (behind : List Char) :
    Except PatternFault (GlobDraft × Nat) :=
  match c with
  | '?' => .ok (draft.push [.anyByte], 0)
  | '*' =>
      match behind with
      | '*' :: behind =>
          let (draft, count) := draft.takeStars previous behind
          .ok (draft, count + 1)
      | _ => .ok (draft.push [.anyBytes], 0)
  | '[' => do
      let (part, count) ← readClass behind
      .ok (draft.push [part], count)
  | '\x7b' => .ok (draft.openGroup, 0)
  | '\x7d' => do
      let draft ← draft.closeGroup
      .ok (draft, 0)
  | ',' => .ok (draft.nextBranch, 0)
  | '\\' =>
      match behind with
      | [] => .error .danglingEscape
      | escaped :: _ => .ok (draft.push [.literal escaped], 1)
  | c => .ok (draft.push [.literal c], 0)

/-- Reads a text of which the first `pending` characters are already taken along. -/
def takeAll (draft : GlobDraft) (pending : Nat) (previous : Option Char) :
    List Char → Except PatternFault GlobDraft
  | [] => .ok draft
  | c :: cs =>
      match pending with
      | count + 1 => draft.takeAll count (some c) cs
      | 0 => do
          let (draft, count) ← draft.take previous c cs
          draft.takeAll count (some c) cs

end GlobDraft

/-- The pattern that a text writes. -/
def Glob.ofText (text : String) : Except PatternFault Glob := do
  let draft ← GlobDraft.empty.takeAll 0 none text.toList
  if draft.groups.isEmpty then .ok ⟨draft.parts⟩ else .error .unclosedGroup

end StyleBaseline
