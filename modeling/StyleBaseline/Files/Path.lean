/-
**Paths.** A path is a text; what it means are its components: the root, names, and steps to the
parent. Slashes that are repeated and single dots are silent, but for a dot at the very beginning.

* `Path.components` — what a path means. Paths are ordered by it.
* `Path.join` — a path inside another one.
* `Path.relativeTo?` — a path as it is spelled behind another one.
* `Path.ancestors` — a path and the paths above it.
-/
namespace StyleBaseline

/-- A path, as it is written. -/
structure Path where
  text : String
deriving DecidableEq, Repr

/-- A part of a path. -/
inductive Component where
  | root
  /-- The dot at the beginning of a path. -/
  | current
  | parent
  | name (text : String)
deriving DecidableEq, Repr

/-- What a path begins with. -/
inductive Lead where
  | root
  | current
  | nothing
deriving DecidableEq, Repr

/-- The pieces of a text between its slashes. -/
def slashPieces : List Char → List (List Char)
  | [] => [[]]
  | c :: cs =>
      if c = '/' then [] :: slashPieces cs
      else match slashPieces cs with
        | [] => [[c]]
        | piece :: pieces => (c :: piece) :: pieces

/-- Pieces with a slash between each two. -/
def joinPieces (pieces : List String) : String :=
  String.intercalate "/" pieces

/-- Whether a piece is no component, when it is not at the very beginning. -/
def isSilent (piece : String) : Bool :=
  piece == "" || piece == "."

/-- The component that a piece is. -/
def pieceComponent? (piece : String) : Option Component :=
  if isSilent piece then none
  else if piece = ".." then some .parent
  else some (.name piece)

/-- The pieces that are left when the silent ones at the end are dropped. -/
def dropSilentEnd (pieces : List String) : List String :=
  (pieces.reverse.dropWhile isSilent).reverse

namespace Component

/-- The rank of a kind of component in the order of paths. -/
def rank : Component → Nat
  | root => 0
  | current => 1
  | parent => 2
  | name _ => 3

/-- Components are ordered by rank, names by their code points. -/
protected def compare : Component → Component → Ordering
  | name a, name b => compareOfLessAndEq a b
  | a, b => compare a.rank b.rank

end Component

namespace Lead

/-- The component that a path begins with. -/
def component? : Lead → Option Component
  | root => some .root
  | current => some .current
  | nothing => none

/-- The path of a beginning and pieces. -/
def path (lead : Lead) (pieces : List String) : Path :=
  match lead with
  | root => ⟨"/" ++ joinPieces pieces⟩
  | current => ⟨if pieces.isEmpty then "." else "./" ++ joinPieces pieces⟩
  | nothing => ⟨joinPieces pieces⟩

end Lead

namespace Path

/-- What a path begins with, and the pieces behind that. -/
def parts (path : Path) : Lead × List String :=
  match (slashPieces path.text.toList).map String.ofList with
  | "" :: piece :: pieces => (.root, piece :: pieces)
  | "." :: pieces => (.current, pieces)
  | pieces => (.nothing, pieces)

/-- What a path means. -/
def components (path : Path) : List Component :=
  path.parts.1.component?.toList ++ path.parts.2.filterMap pieceComponent?

/-- Whether a path begins at the root. -/
def isAbsolute (path : Path) : Bool :=
  path.parts.1 == .root

/-- The order of lists of components. -/
def compareComponents : List Component → List Component → Ordering
  | [], [] => .eq
  | [], _ :: _ => .lt
  | _ :: _, [] => .gt
  | a :: as, b :: bs => (a.compare b).then (compareComponents as bs)

/-- Paths are ordered by what they mean. -/
protected def compare (a b : Path) : Ordering :=
  compareComponents a.components b.components

/-- A path inside another one. One that begins at the root takes its place. -/
def join (base path : Path) : Path :=
  if path.isAbsolute then path
  else if base.text = "" ∨ base.text.toList.getLast? = some '/' then ⟨base.text ++ path.text⟩
  else ⟨base.text ++ "/" ++ path.text⟩

/-- The path that names lead to from another one, each inside the one before. -/
def descend (path : Path) (names : List String) : Path :=
  names.foldl (fun path name => path.join ⟨name⟩) path

/-- The pieces behind those that are the given components. -/
def piecesBehind? : List Component → List String → Option (List String)
  | [], pieces => some pieces
  | _ :: _, [] => none
  | component :: components, piece :: pieces =>
      match pieceComponent? piece with
      | none => piecesBehind? (component :: components) pieces
      | some found => if found = component then piecesBehind? components pieces else none

/-- A path as it is spelled behind another one, if it lies inside. Silent pieces are kept in the
middle and dropped at the ends. -/
def relativeTo? (base path : Path) : Option Path :=
  if base.parts.1 = path.parts.1 then
    (piecesBehind? (base.parts.2.filterMap pieceComponent?) path.parts.2).map fun pieces =>
      ⟨joinPieces (dropSilentEnd (pieces.dropWhile isSilent))⟩
  else none

/-- The path above, if there is one. -/
def parent? (path : Path) : Option Path :=
  match dropSilentEnd path.parts.2 with
  | [] => if path.parts.1 = .current then some ⟨""⟩ else none
  | pieces => some (path.parts.1.path (dropSilentEnd pieces.dropLast))

/-- A path and at most so many of the paths above it. -/
def ancestorsUpTo : Nat → Path → List Path
  | 0, path => [path]
  | count + 1, path =>
      match path.parent? with
      | none => [path]
      | some above => path :: ancestorsUpTo count above

/-- A path and the paths above it. -/
def ancestors (path : Path) : List Path :=
  ancestorsUpTo path.components.length path

/-- What follows the last dot of a name, if something stands before that dot. -/
def nameExtension? (name : String) : Option String :=
  let backwards := name.toList.reverse
  match backwards.dropWhile (· ≠ '.') with
  | _ :: _ :: _ => some (String.ofList (backwards.takeWhile (· ≠ '.')).reverse)
  | _ => none

/-- What follows the last dot of the name that a path ends in. -/
def extension? (path : Path) : Option String :=
  match path.components.getLast? with
  | some (.name name) => nameExtension? name
  | _ => none

end Path

end StyleBaseline
