/-
**File trees.** Files and directories by their locations. A location is the list of names on the way
from the root, so that each place has one; a path leads to a location step by step.

* `Tree` — carries the proofs that nothing lies inside a file, that no two entries share a location,
  and that names are such as paths can hold.
* `FileSystem.locate` — the location that a path leads to.
* `FileSystem.readText` — the text of a file.
* `FileSystem.filesBelow` — the files inside a directory, at any depth.
-/
import StyleBaseline.Files.Path
import StyleBaseline.Text.Utf8
import StyleBaseline.Text.Offset

namespace StyleBaseline

/-- The bytes of the longest name. -/
def longestName : Nat := 255

/-- The bytes of the longest path. -/
def longestPath : Nat := 4095

/-- Whether a text is the name of a file or a directory. -/
def isName (text : String) : Bool :=
  !isSilent text && text != ".." && !text.toList.contains '/' && !text.toList.contains '\x00'
    && byteLength text.toList ≤ longestName

/-- The names on the way from the root. -/
abbrev Location := List String

/-- What stands at a location. -/
inductive Content where
  | file (bytes : List UInt8)
  | directory
deriving DecidableEq, Repr

/-- A file or a directory at its location. The directories above it need no entry. -/
structure Entry where
  location : Location
  content : Content
deriving DecidableEq, Repr

namespace Entry

/-- The bytes of a file. -/
def bytes? (entry : Entry) : Option (List UInt8) :=
  match entry.content with
  | .file bytes => some bytes
  | .directory => none

/-- Whether an entry is a file that lies at a location or above it. -/
def blocks (entry : Entry) (location : Location) : Bool :=
  entry.bytes?.isSome && entry.location.isPrefixOf location

/-- Whether an entry can stand in a tree: its location has names only, and a file has at least
one. -/
def isPlaced (entry : Entry) : Bool :=
  entry.location.all isName && !(entry.bytes?.isSome && entry.location.isEmpty)

/-- Whether two entries can stand in one tree. -/
def fits (a b : Entry) : Bool :=
  a.location != b.location && !a.blocks b.location && !b.blocks a.location

end Entry

/-- Entries that can stand together. -/
structure Tree where
  entries : List Entry
  placed : ∀ entry ∈ entries, entry.isPlaced = true
  consistent : entries.Pairwise fun a b => a.fits b = true

namespace Tree

/-- The tree that has only the root. -/
def empty : Tree :=
  ⟨[], by simp, .nil⟩

/-- A tree with one more entry, if that can stand in a tree and fits to all others. -/
def add (entry : Entry) (tree : Tree) : Tree :=
  if sound : entry.isPlaced = true ∧ ∀ other ∈ tree.entries, entry.fits other = true then
    ⟨entry :: tree.entries, List.forall_mem_cons.2 ⟨sound.1, tree.placed⟩,
      List.pairwise_cons.2 ⟨sound.2, tree.consistent⟩⟩
  else tree

/-- The tree of a list of entries, without those that do not fit to later ones. -/
def ofEntries (entries : List Entry) : Tree :=
  entries.foldr add empty

/-- The bytes of the file at a location. -/
def bytesAt? (tree : Tree) (location : Location) : Option (List UInt8) :=
  (tree.entries.find? (·.location = location)).bind Entry.bytes?

/-- Whether a directory is at a location: the root, an entry, or what lies above an entry. -/
def hasDirectory (tree : Tree) (location : Location) : Bool :=
  location.isEmpty || tree.entries.any fun entry =>
    if entry.location = location then entry.content = .directory
    else location.isPrefixOf entry.location

/-- The files inside a directory, by the names on the way from there. -/
def filesBelow (tree : Tree) (location : Location) : List (List String) :=
  tree.entries.filterMap fun entry =>
    if entry.bytes?.isSome ∧ location.isPrefixOf entry.location then
      some (entry.location.drop location.length)
    else none

end Tree

/-- Why a path does not give what is looked for. -/
inductive FileFault where
  | notFound
  | notDirectory
  | isDirectory
  /-- A name or a path is longer than it can be. -/
  | nameTooLong
  /-- A path holds the character that ends paths. -/
  | nulInPath
  /-- The bytes of a file are no text. -/
  | notText
deriving DecidableEq, Repr

/-- The wording of a fault. -/
def FileFault.message : FileFault → String
  | notFound => "No such file or directory (os error 2)"
  | notDirectory => "Not a directory (os error 20)"
  | isDirectory => "Is a directory (os error 21)"
  | nameTooLong => "File name too long (os error 36)"
  | nulInPath => "file name contained an unexpected NUL byte"
  | notText => "stream did not contain valid UTF-8"

/-- A tree, and the directory in it from which relative paths lead on. -/
structure FileSystem where
  tree : Tree
  workingDirectory : Location

namespace FileSystem

/-- The path of the working directory. -/
def workingPath (files : FileSystem) : Path :=
  ⟨"/" ++ joinPieces files.workingDirectory⟩

/-- The location to which a step leads from a directory. -/
def stepTo (here : Location) (piece : String) : Except FileFault Location :=
  if isSilent piece then .ok here
  else if piece = ".." then .ok here.dropLast
  else if longestName < byteLength piece.toList then .error .nameTooLong
  else .ok (here ++ [piece])

/-- The location to which steps lead. Each of them has to start at a directory. -/
def follow (files : FileSystem) : Location → List String → Except FileFault Location
  | here, [] =>
      if files.tree.hasDirectory here ∨ (files.tree.bytesAt? here).isSome then .ok here
      else .error .notFound
  | here, piece :: pieces =>
      if files.tree.hasDirectory here then do
        let next ← stepTo here piece
        files.follow next pieces
      else if (files.tree.bytesAt? here).isSome then .error .notDirectory
      else .error .notFound

/-- The location to which a path leads. -/
def locate (files : FileSystem) (path : Path) : Except FileFault Location :=
  if path.text = "" then .error .notFound
  else if path.text.toList.contains '\x00' then .error .nulInPath
  else if longestPath < byteLength path.text.toList then .error .nameTooLong
  else
    let (lead, pieces) := path.parts
    files.follow (if lead = .root then [] else files.workingDirectory) pieces

/-- Whether a path leads to a file. -/
def isFile (files : FileSystem) (path : Path) : Bool :=
  match files.locate path with
  | .ok location => (files.tree.bytesAt? location).isSome
  | .error _ => false

/-- Whether a path leads to a directory. -/
def isDirectory (files : FileSystem) (path : Path) : Bool :=
  match files.locate path with
  | .ok location => files.tree.hasDirectory location
  | .error _ => false

/-- The text of the file to which a path leads. -/
def readText (files : FileSystem) (path : Path) : Except FileFault String := do
  let location ← files.locate path
  match files.tree.bytesAt? location with
  | none => .error .isDirectory
  | some bytes =>
      match decodeUtf8? bytes with
      | none => .error .notText
      | some cs => .ok (String.ofList cs)

/-- The paths of the files inside the directory to which a path leads, at any depth. A directory
whose own path is longer than it can be is not entered. -/
def filesBelow (files : FileSystem) (path : Path) : List Path :=
  match files.locate path with
  | .ok location =>
      ((files.tree.filesBelow location).filter fun names =>
        byteLength (path.descend names.dropLast).text.toList ≤ longestPath).map path.descend
  | .error _ => []

end FileSystem

end StyleBaseline
