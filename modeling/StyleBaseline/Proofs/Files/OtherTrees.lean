/-
**The selection in two trees.** In two file systems with the same workspace the same roots are
searched, and where both searches succeed each root leads to the same place in both. What else there
is in the trees has no influence then on whether a file is selected, and under which path.

* `aim_eq_of_isAbsolute`, `isAbsolute_of_mem_searchRoots` — the roots are absolute paths, which lead
  to the same place from any working directory.
* `find?_filesFrom?_congr` — what one search finds for a file that both trees have.
* `mem_selectFiles_congr` — such a file is selected in both or in neither.
-/

import StyleBaseline.Proofs.Files.Ancestors
import StyleBaseline.Proofs.Files.Selecting

namespace StyleBaseline

/-! ### Absolute paths -/

namespace Path

theorem isAbsolute_iff {path : Path} : path.isAbsolute = true ↔ path.parts.1 = .root := by
  unfold isAbsolute
  exact beq_iff_eq

@[simp]
theorem isAbsolute_rooted (text : String) : (Path.mk ("/" ++ text)).isAbsolute = true := by
  rw [isAbsolute_iff, parts_of_pieces (pieces_rooted text),
    partsOfPieces_root (Path.mk text).pieces_ne_nil]

theorem filled_of_isAbsolute {path : Path} (absolute : path.isAbsolute = true) :
    path.text ≠ "" := by
  intro empty
  have none : path = ⟨""⟩ := congrArg Path.mk empty
  rw [none] at absolute
  exact absurd absolute (by decide)

theorem join_of_isAbsolute (base : Path) {path : Path} (absolute : path.isAbsolute = true) :
    base.join path = path := by
  rw [join, if_pos absolute]

/-- **A path inside an absolute one is absolute.** -/
theorem isAbsolute_join {base : Path} (absolute : base.isAbsolute = true) (path : Path) :
    (base.join path).isAbsolute = true := by
  cases own : path.isAbsolute with
  | true => rw [join_of_isAbsolute base own, own]
  | false =>
      rw [isAbsolute_iff, parts_join own (.inl (filled_of_isAbsolute absolute))]
      exact isAbsolute_iff.mp absolute

end Path

namespace FileSystem

variable {files other : FileSystem}

@[simp]
theorem isAbsolute_workingPath (files : FileSystem) : files.workingPath.isAbsolute = true :=
  Path.isAbsolute_rooted _

/-- **An absolute path leads to one place** from any working directory. -/
theorem aim_eq_of_isAbsolute (files other : FileSystem) {path : Path}
    (absolute : path.isAbsolute = true) : other.aim path = files.aim path := by
  unfold aim Path.components
  rw [Path.isAbsolute_iff.mp absolute]
  rfl

end FileSystem

theorem isAbsolute_of_mem_searchRoots {workspace root : Path} {paths : List Path}
    (absolute : workspace.isAbsolute = true) (isRoot : root ∈ searchRoots workspace paths) :
    root.isAbsolute = true := by
  unfold searchRoots at isRoot
  split at isRoot
  · rw [List.mem_singleton.mp isRoot]
    exact absolute
  · obtain ⟨path, _, rfl⟩ := List.mem_map.mp isRoot
    exact Path.isAbsolute_join absolute path

/-! ### One file in both trees -/

section File

variable {files other : FileSystem} {workspace root path : Path} {paths : List Path}
  {ignored : IgnoreSet} {selected again : List Path}

/-- An absolute path that leads somewhere in both leads to the same place. -/
theorem locate_eq_of_isAbsolute (absolute : root.isAbsolute = true)
    (present : files.isFile root = true ∨ files.isDirectory root = true)
    (otherPresent : other.isFile root = true ∨ other.isDirectory root = true) :
    other.locate root = files.locate root := by
  obtain ⟨location, leads⟩ := present_iff.mp present
  obtain ⟨place, otherLeads⟩ := present_iff.mp otherPresent
  rw [leads, otherLeads, FileSystem.locate_eq_aim leads, FileSystem.locate_eq_aim otherLeads,
    FileSystem.aim_eq_of_isAbsolute files other absolute]

/-- What a search picks begins where its root begins. -/
theorem Picks.aim_eq {location : Location}
    (picks : Picks files workspace ignored root path location)
    (absolute : root.isAbsolute = true) (other : FileSystem) :
    other.aim path = files.aim path := by
  obtain ⟨place, names, _, rfl, rfl⟩ := picks.exists_leads
  have areNames := Tree.names_behind picks.isFile
  rw [other.aim_descend root areNames, files.aim_descend root areNames,
    FileSystem.aim_eq_of_isAbsolute files other absolute]

theorem find?_eq_some_iff_of_unique {α : Type} {items : List α} {pick : α → Bool} {item : α}
    (unique : ∀ first ∈ items, ∀ second ∈ items, pick first = true → pick second = true →
      first = second) :
    items.find? pick = some item ↔ item ∈ items ∧ pick item = true := by
  constructor
  · intro found
    exact ⟨List.mem_of_find?_eq_some found, List.find?_some found⟩
  · rintro ⟨member, picked⟩
    obtain ⟨found, finds⟩ := Option.isSome_iff_exists.mp
      (List.find?_isSome.mpr ⟨item, member, picked⟩)
    rw [finds, unique found (List.mem_of_find?_eq_some finds) item member
      (List.find?_some finds) picked]

/-- A search finds a file by its components. -/
theorem find?_filesFrom?_eq_some_iff {found : List Path} {first : Path}
    (finds : filesFrom? files workspace ignored root = some found) :
    found.find? (fun item => item.compare path = .eq) = some first ↔
      (∃ location, Picks files workspace ignored root first location) ∧
        first.components = path.components := by
  have unique : ∀ item ∈ found, ∀ second ∈ found, decide (item.compare path = .eq) = true →
      decide (second.compare path = .eq) = true → item = second := by
    intro item member second secondMember equal secondEqual
    rw [decide_eq_true_eq, Path.compare_eq_iff] at equal secondEqual
    exact eq_of_mem_filesFrom? finds item member second secondMember
      (Path.compare_eq_iff.mpr (equal.trans secondEqual.symm))
  rw [find?_eq_some_iff_of_unique unique, mem_filesFrom? finds, decide_eq_true_eq,
    Path.compare_eq_iff]

/-- **One search for a file that both trees have**: the root finds it under the same path. -/
theorem find?_filesFrom?_congr {found otherFound : List Path}
    (absolute : root.isAbsolute = true)
    (isFile : (files.tree.bytesAt? (files.aim path)).isSome = true)
    (isOtherFile : (other.tree.bytesAt? (files.aim path)).isSome = true)
    (finds : filesFrom? files workspace ignored root = some found)
    (otherFinds : filesFrom? other workspace ignored root = some otherFound) :
    found.find? (fun item => item.compare path = .eq) =
      otherFound.find? (fun item => item.compare path = .eq) := by
  have sameWay : other.locate root = files.locate root :=
    locate_eq_of_isAbsolute absolute
      ((isSome_filesFrom?_iff workspace ignored).mp (by rw [finds]; rfl))
      ((isSome_filesFrom?_iff workspace ignored).mp (by rw [otherFinds]; rfl))
  ext first
  rw [find?_filesFrom?_eq_some_iff finds, find?_filesFrom?_eq_some_iff otherFinds]
  refine and_congr_left fun same => ?_
  have sameAim : files.aim first = files.aim path := by
    unfold FileSystem.aim
    rw [same]
  constructor
  · rintro ⟨location, picks⟩
    have isThere : (other.tree.bytesAt? location).isSome = true := by
      rw [picks.location_eq, sameAim]
      exact isOtherFile
    exact ⟨location, picks.transfer sameWay isThere⟩
  · rintro ⟨location, picks⟩
    have isThere : (files.tree.bytesAt? location).isSome = true := by
      rw [picks.location_eq, ← picks.aim_eq absolute files, sameAim]
      exact isFile
    exact ⟨location, picks.transfer sameWay.symm isThere⟩

/-- **A file that both trees have** is selected in both under a path, or in neither: the other files
have no influence. -/
theorem mem_selectFiles_congr (absolute : workspace.isAbsolute = true)
    (selects : selectFiles files workspace paths ignored = .ok selected)
    (selectsAgain : selectFiles other workspace paths ignored = .ok again)
    (isFile : (files.tree.bytesAt? (files.aim path)).isSome = true)
    (isOtherFile : (other.tree.bytesAt? (files.aim path)).isSome = true) :
    path ∈ selected ↔ path ∈ again := by
  obtain ⟨present, rfl⟩ := selectFiles_eq_ok_iff.mp selects
  obtain ⟨otherPresent, rfl⟩ := selectFiles_eq_ok_iff.mp selectsAgain
  -- Of the paths with the same components the first one that a search finds is kept.
  rw [mem_sortDistinct_iff, mem_sortDistinct_iff, List.find?_flatMap, List.find?_flatMap]
  have sameFirst : ∀ root ∈ searchRoots workspace paths,
      ((filesFrom? files workspace ignored root).getD []).find?
          (fun item => item.compare path = .eq) =
        ((filesFrom? other workspace ignored root).getD []).find?
          (fun item => item.compare path = .eq) := by
    intro root isRoot
    obtain ⟨found, finds⟩ := Option.isSome_iff_exists.mp
      ((isSome_filesFrom?_iff workspace ignored).mpr (present root isRoot))
    obtain ⟨otherFound, otherFinds⟩ := Option.isSome_iff_exists.mp
      ((isSome_filesFrom?_iff workspace ignored).mpr (otherPresent root isRoot))
    rw [finds, otherFinds, Option.getD_some, Option.getD_some]
    exact find?_filesFrom?_congr (isAbsolute_of_mem_searchRoots absolute isRoot) isFile isOtherFile
      finds otherFinds
  rw [← List.head?_filterMap, ← List.head?_filterMap, List.filterMap_congr sameFirst]

end File

end StyleBaseline
