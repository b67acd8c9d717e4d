/-
**Sets of patterns.** Before paths are held against patterns, an engine makes one set of them. It can
refuse to do that although each of them is well formed: when one of them is too deeply nested, or all
of them together are too large. Which sets are refused is for the engine to say, and a run depends
on its engine in nothing else. The patterns that always hold are never refused by themselves.

* `skippedDirectories` — the directories that those patterns are for.
* `GlobEngine` — which sets are refused.
* `Glob.nesting` — how deeply a pattern is nested.
* `nestingEngine` — the engine with the usual limit on nesting.
* `GlobFault.message` — the wording of what can be wrong with patterns.
-/
import StyleBaseline.Files.Glob.Reading

namespace StyleBaseline

/-- The pattern of all that lies in directories of a name, at any depth. -/
def insideDirectories (name : String) : Glob :=
  ⟨.leadingComponents :: name.toList.map .literal ++ [.trailingComponents]⟩

/-- The names of the directories whose files are never checked. -/
def skippedDirectories : List String :=
  ["node_modules", "dist", "target"]

/-- What makes sets of patterns. -/
class GlobEngine where
  /-- Why a set is refused, in words; nothing if it is not. -/
  refusal? : List Glob → Option String
  /-- The patterns that always hold can be made a set. -/
  takesSkipped : refusal? (skippedDirectories.map insideDirectories) = none

/-- What can be wrong with patterns. -/
inductive GlobFault where
  /-- A text is no pattern. -/
  | malformed (text : String) (fault : PatternFault)
  /-- The patterns are refused as a set. -/
  | refused (reason : String)
deriving DecidableEq, Repr

/-- The wording of a fault. -/
def GlobFault.message : GlobFault → String
  | malformed text fault => fault.message text
  | refused reason => reason

/-! ### Regular expressions -/

/-- A byte as it stands for itself in a regular expression. -/
def escapedByte (b : UInt8) : String :=
  let c := Char.ofNat b.toNat
  if 0x80 ≤ b then "\\x" ++ String.ofList (Nat.toDigits 16 b.toNat)
  else if c ∈ "\\.+*?()|[]\x7b\x7d^$#&-~".toList then String.ofList ['\\', c]
  else String.ofList [c]

/-- A character as it stands for itself in a regular expression, byte by byte. -/
def escapedChar (c : Char) : String :=
  String.join ((encodeUtf8 [c]).map escapedByte)

/-- A range of characters in a class. -/
def rangeExpression (range : Char × Char) : String :=
  if range.1 = range.2 then escapedChar range.1
  else escapedChar range.1 ++ "-" ++ escapedChar range.2

mutual

/-- The regular expression of a part. -/
def GlobPart.expression : GlobPart → String
  | .literal c => escapedChar c
  | .anyByte => "."
  | .anyBytes => ".*"
  | .leadingComponents => "(?:/?|.*/)"
  | .trailingComponents => "/.*"
  | .innerComponents => "(?:/|/.*/)"
  | .byteClass negated ranges =>
      "[" ++ (if negated then "^" else "") ++ String.join (ranges.map rangeExpression) ++ "]"
  | .alternatives branches =>
      if allBranchesVoid branches then ""
      else "(?:" ++ String.intercalate "|" (branchExpressions branches) ++ ")"

/-- The regular expression of parts one behind the other. -/
def partsExpression : List GlobPart → String
  | [] => ""
  | part :: parts => part.expression ++ partsExpression parts

/-- The regular expressions of the branches that have anything in them. -/
def branchExpressions : List (List GlobPart) → List String
  | [] => []
  | branch :: branches =>
      if allPartsVoid branch then branchExpressions branches
      else partsExpression branch :: branchExpressions branches

end

/-- The regular expression of a pattern, on bytes. -/
def Glob.expression (glob : Glob) : String :=
  "(?-u)^" ++ partsExpression glob.parts ++ "$"

/-! ### Nesting -/

/-- How many items of an expression a part comes to. -/
def GlobPart.width : GlobPart → Nat
  | .literal c => (encodeUtf8 [c]).length
  | .trailingComponents => 2
  | .alternatives branches => if allBranchesVoid branches then 0 else 1
  | _ => 1

/-- How many items parts come to, one behind the other. -/
def partsWidth : List GlobPart → Nat
  | [] => 0
  | part :: parts => part.width + partsWidth parts

mutual

/-- How many expressions lie inside one another in that of a part. A repetition, a group, a choice, a
class, a class of several items, and several items one behind the other are each one more. -/
def GlobPart.nesting : GlobPart → Nat
  | .literal _ => 0
  | .anyByte => 0
  | .anyBytes => 1
  | .leadingComponents => 4
  | .trailingComponents => 1
  | .innerComponents => 4
  | .byteClass _ ranges => if (ranges.flatMap byteRanges).length = 1 then 1 else 2
  | .alternatives branches =>
      if allBranchesVoid branches then 0
      else if (branches.filter (!allPartsVoid ·)).length = 1 then branchesNesting branches + 1
      else branchesNesting branches + 2

/-- How many expressions lie inside one another in that of one of several parts. -/
def partsNesting : List GlobPart → Nat
  | [] => 0
  | part :: parts => max part.nesting (partsNesting parts)

/-- How many expressions lie inside one another in that of one of several branches. -/
def branchesNesting : List (List GlobPart) → Nat
  | [] => 0
  | branch :: branches =>
      max (partsNesting branch + if partsWidth branch ≤ 1 then 0 else 1) (branchesNesting branches)

end

namespace Glob

/-- How many expressions lie inside one another in that of a pattern. -/
def nesting (glob : Glob) : Nat :=
  partsNesting glob.parts + 1

/-! ### Kinds of patterns -/

/-- The characters of parts that all stand for themselves. -/
def literals? : List GlobPart → Option (List Char)
  | [] => some []
  | .literal c :: parts => (literals? parts).map (c :: ·)
  | _ :: _ => none

/-- Whether a pattern is a text that paths are or begin with. -/
def isFrontText (glob : Glob) : Bool :=
  match glob.parts.getLast? with
  | some .anyBytes => (literals? glob.parts.dropLast).any (!·.isEmpty)
  | some .trailingComponents => (literals? glob.parts.dropLast).isSome
  | _ => (literals? glob.parts).any (!·.isEmpty)

/-- Whether a pattern is a text that paths, or their last components, end with. -/
def isEndText (glob : Glob) : Bool :=
  match glob.parts with
  | .leadingComponents :: .literal _ :: parts => (literals? parts).isSome
  | .leadingComponents :: .anyBytes :: parts => isMoreThanSlash parts
  | .anyBytes :: parts => isMoreThanSlash parts
  | parts => isMoreThanSlash parts
where
  /-- Whether parts are a text that is not just a slash. -/
  isMoreThanSlash (parts : List GlobPart) : Bool :=
    (literals? parts).any fun text => text ≠ [] ∧ text ≠ ['/']

/-- Whether a pattern is held against paths as a regular expression, and not as a text. -/
def isCompiled (glob : Glob) : Bool :=
  !glob.isFrontText && !glob.isEndText

/-- Whether a pattern ends in the text of an extension. -/
def endsInExtension (glob : Glob) : Bool :=
  dotFirst glob.parts.reverse
where
  /-- Whether there is a dot before the first slash and the first part that is no literal. -/
  dotFirst : List GlobPart → Bool
    | .literal c :: parts => c = '.' || (c ≠ '/' && dotFirst parts)
    | _ => false

end Glob

/-! ### The usual limit -/

/-- How many expressions may lie inside one another. -/
def nestingLimit : Nat := 250

/-- Why patterns are refused that are nested too deeply. Those that end in an extension are compiled
one by one, the other ones together. -/
def nestingRefusal? (globs : List Glob) : Option String :=
  let compiled := globs.filter (·.isCompiled)
  let tooDeep (glob : Glob) : Bool := nestingLimit < glob.nesting
  match (compiled.filter (·.endsInExtension)).find? tooDeep with
  | some glob => some ("error parsing glob '" ++ glob.expression ++ "': error parsing pattern 0")
  | none =>
      ((compiled.filter (!·.endsInExtension)).findIdx? tooDeep).map fun place =>
        "error parsing pattern " ++ toString place

/-- The engine that refuses patterns for their nesting, but no set for its size. -/
instance nestingEngine : GlobEngine where
  refusal? := nestingRefusal?
  takesSkipped := by decide +kernel

end StyleBaseline
