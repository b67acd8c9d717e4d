/-
**Which files are checked.** Each path that is given leads to a file, which is then checked in any
case, or to a directory, in which all stylesheets are checked that no pattern ignores. Without paths
the workspace is such a directory.

* `IgnoreSet.ofTexts` — the set of the patterns that are given and those that always hold.
* `selectFiles` — the files to check, in the order of their paths, each once.
-/
import StyleBaseline.Files.Glob.Engine
import StyleBaseline.Files.Tree
import StyleBaseline.Sorting

namespace StyleBaseline

/-- Patterns of files that are not checked. -/
structure IgnoreSet where
  globs : List Glob
deriving Repr

namespace IgnoreSet

/-- The patterns that always hold. -/
def default : IgnoreSet :=
  ⟨skippedDirectories.map insideDirectories⟩

/-- Whether a path is ignored. -/
def ignores (patterns : IgnoreSet) (path : Path) : Bool :=
  patterns.globs.any (·.matchesPath path)

/-- Reads patterns. The first one that is malformed is given with its fault. -/
def readGlobs : List String → Except GlobFault (List Glob)
  | [] => .ok []
  | text :: texts => do
      let glob ← (Glob.ofText text).mapError (.malformed text)
      let globs ← readGlobs texts
      .ok (glob :: globs)

/-- The set of patterns, unless the engine refuses it. -/
def ofGlobs [GlobEngine] (globs : List Glob) : Except GlobFault IgnoreSet :=
  match GlobEngine.refusal? globs with
  | some reason => .error (.refused reason)
  | none => .ok ⟨globs⟩

/-- The set of the patterns that are given and those that always hold. -/
def ofTexts [GlobEngine] (texts : List String) : Except GlobFault IgnoreSet := do
  let globs ← readGlobs texts
  ofGlobs (globs ++ default.globs)

end IgnoreSet

/-- The extension of stylesheets. -/
def stylesheetExtension : String := "css"

/-- A path as it is shown: as it is spelled behind the workspace, if it lies inside. -/
def shownPath (workspace path : Path) : Path :=
  (workspace.relativeTo? path).getD path

/-- The files to check for one path; none if that leads nowhere. -/
def filesFrom? (files : FileSystem) (workspace : Path) (ignored : IgnoreSet) (root : Path) :
    Option (List Path) :=
  if files.isFile root then some [root]
  else if files.isDirectory root then
    some ((files.filesBelow root).filter fun path =>
      path.extension? = some stylesheetExtension && !ignored.ignores (shownPath workspace path))
  else none

/-- The files to check for each of several paths. The first path that leads nowhere is given
instead. -/
def filesFromAll (files : FileSystem) (workspace : Path) (ignored : IgnoreSet) :
    List Path → Except Path (List Path)
  | [] => .ok []
  | root :: roots => do
      let found ← match filesFrom? files workspace ignored root with
        | some found => .ok found
        | none => .error root
      let others ← filesFromAll files workspace ignored roots
      .ok (found ++ others)

/-- The paths at which the search for files begins. -/
def searchRoots (workspace : Path) (paths : List Path) : List Path :=
  if paths.isEmpty then [workspace] else paths.map workspace.join

/-- The files to check. -/
def selectFiles (files : FileSystem) (workspace : Path) (paths : List Path)
    (ignored : IgnoreSet) : Except Path (List Path) :=
  (filesFromAll files workspace ignored (searchRoots workspace paths)).map
    (sortDistinct Path.compare)

end StyleBaseline
