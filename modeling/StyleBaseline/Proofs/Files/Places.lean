/-
**Places in a file tree.** What stands at a location is determined by one entry of the tree at most,
so that the order of the entries does not show. A path is followed piece by piece, each from where
the one before led.

* `Tree.bytesAt?_eq_some_iff`, `Tree.mem_filesBelow` — the files of a tree by its entries.
* `FileSystem.follow_append` — the first pieces, and then the others from there.
* `FileSystem.locate_eq_aim` — a path that leads to a place leads where its components say.
* `FileSystem.locate_descend` — the way on along names from a directory.
* `FileSystem.locate_congr` — what is not on the way of a path does not matter.
-/

import Mathlib.Data.List.Nodup
import Mathlib.Data.List.Pairwise
import StyleBaseline.Proofs.Files.Joining

namespace StyleBaseline

/-! ### Entries -/

theorem Entry.fits_comm (entry other : Entry) : entry.fits other = other.fits entry := by
  simp only [fits, bne, BEq.comm (a := entry.location), Bool.and_assoc,
    Bool.and_comm (!entry.blocks other.location)]

instance : Std.Symm fun entry other : Entry => entry.fits other = true :=
  ⟨fun entry other fits => by rwa [Entry.fits_comm]⟩

namespace Tree

section Entries

variable {tree : Tree} {location : Location} {names : List String}

theorem fits_of_mem {entry other : Entry} (member : entry ∈ tree.entries)
    (otherMember : other ∈ tree.entries) (different : entry ≠ other) : entry.fits other = true :=
  tree.consistent.forall member otherMember different

theorem eq_of_location_eq {entry other : Entry} (member : entry ∈ tree.entries)
    (otherMember : other ∈ tree.entries) (same : entry.location = other.location) :
    entry = other := by
  by_contra different
  have fits := fits_of_mem member otherMember different
  simp [Entry.fits, same] at fits

/-- **The files of a tree are its entries with bytes.** -/
theorem bytesAt?_eq_some_iff {bytes : List UInt8} :
    tree.bytesAt? location = some bytes ↔ ⟨location, .file bytes⟩ ∈ tree.entries := by
  rw [bytesAt?, Option.bind_eq_some_iff]
  constructor
  · rintro ⟨⟨place, content⟩, found, isFile⟩
    have here : place = location := by simpa using List.find?_some found
    cases content with
    | directory => exact nomatch isFile
    | file others =>
        cases isFile
        exact here ▸ List.mem_of_find?_eq_some found
  · intro member
    obtain ⟨entry, found⟩ := Option.isSome_iff_exists.mp
      (List.find?_isSome (p := fun entry => entry.location = location).mpr ⟨_, member, by simp⟩)
    have here : entry.location = location := by simpa using List.find?_some found
    have same : entry = ⟨location, .file bytes⟩ :=
      eq_of_location_eq (List.mem_of_find?_eq_some found) member here
    exact ⟨entry, found, by rw [same]; rfl⟩

theorem isFile_iff :
    (tree.bytesAt? location).isSome = true ↔ ∃ bytes, ⟨location, .file bytes⟩ ∈ tree.entries := by
  simp only [Option.isSome_iff_exists, bytesAt?_eq_some_iff]

/-- The way to a file is made of names. -/
theorem names_of_isFile (isFile : (tree.bytesAt? location).isSome = true) :
    ∀ name ∈ location, NameText name := by
  obtain ⟨bytes, member⟩ := isFile_iff.mp isFile
  have placed := tree.placed _ member
  simp only [Entry.isPlaced, Bool.and_eq_true, List.all_eq_true, isName_iff] at placed
  exact placed.1

/-- The way on to a file is made of names. -/
theorem names_behind (isFile : (tree.bytesAt? (location ++ names)).isSome = true) :
    ∀ name ∈ names, NameText name :=
  fun name member => names_of_isFile isFile name (List.mem_append_right location member)

/-- There are directories above a file. -/
theorem hasDirectory_of_isFile (isFile : (tree.bytesAt? (location ++ names)).isSome = true)
    (any : names ≠ []) : tree.hasDirectory location = true := by
  obtain ⟨bytes, member⟩ := isFile_iff.mp isFile
  rw [hasDirectory, Bool.or_eq_true]
  refine .inr (List.any_eq_true.mpr ⟨_, member, ?_⟩)
  rw [if_neg (by simpa using any)]
  exact List.isPrefixOf_iff_prefix.mpr (List.prefix_append location names)

/-- There is nothing inside a file. -/
theorem eq_nil_of_isFile (isFile : (tree.bytesAt? location).isSome = true)
    (below : (tree.bytesAt? (location ++ names)).isSome = true) : names = [] := by
  obtain ⟨bytes, member⟩ := isFile_iff.mp isFile
  obtain ⟨others, belowMember⟩ := isFile_iff.mp below
  by_contra any
  have fits := fits_of_mem member belowMember (by simpa using fun same => absurd same any)
  have blocked : Entry.blocks ⟨location, .file bytes⟩ (location ++ names) = true := by
    simp [Entry.blocks, Entry.bytes?]
  simp [Entry.fits, blocked] at fits

theorem mem_filesBelow :
    names ∈ tree.filesBelow location ↔ (tree.bytesAt? (location ++ names)).isSome = true := by
  rw [isFile_iff, filesBelow, List.mem_filterMap]
  constructor
  · rintro ⟨⟨place, content⟩, member, found⟩
    split at found
    next inside =>
      obtain ⟨isFile, below⟩ := inside
      obtain ⟨rest, rfl⟩ := List.isPrefixOf_iff_prefix.mp below
      cases content with
      | directory => exact nomatch isFile
      | file bytes =>
          obtain rfl : rest = names := by simpa using found
          exact ⟨bytes, member⟩
    next => exact nomatch found
  · rintro ⟨bytes, member⟩
    exact ⟨_, member, by simp [Entry.bytes?]⟩

theorem nodup_filesBelow (tree : Tree) (location : Location) :
    (tree.filesBelow location).Nodup := by
  have distinct : tree.entries.Pairwise fun entry other => entry.location ≠ other.location :=
    tree.consistent.imp fun {entry other} fits same => by simp [Entry.fits, same] at fits
  refine distinct.filterMap _ fun entry other different names found others otherFound => ?_
  split at found
  next inside =>
    split at otherFound
    next otherInside =>
      obtain ⟨rest, place⟩ := List.isPrefixOf_iff_prefix.mp inside.2
      obtain ⟨otherRest, otherPlace⟩ := List.isPrefixOf_iff_prefix.mp otherInside.2
      rintro rfl
      rw [← place] at found different
      rw [← otherPlace] at otherFound different
      simp only [List.drop_left, Option.some.injEq] at found otherFound
      exact different (by rw [found, otherFound])
    next => exact nomatch otherFound
  next => exact nomatch found

/-- **The order of the entries does not show.** -/
theorem bytesAt?_perm {reordered : Tree} (perm : reordered.entries.Perm tree.entries)
    (location : Location) : reordered.bytesAt? location = tree.bytesAt? location := by
  refine Option.ext fun bytes => ?_
  rw [bytesAt?_eq_some_iff, bytesAt?_eq_some_iff, perm.mem_iff]

theorem hasDirectory_perm {reordered : Tree} (perm : reordered.entries.Perm tree.entries)
    (location : Location) : reordered.hasDirectory location = tree.hasDirectory location := by
  rw [hasDirectory, hasDirectory, perm.any_eq]

end Entries

/-- **Two trees have the same kind of thing at a location**: a directory, a file, or nothing. -/
structure Alike (tree other : Tree) (location : Location) : Prop where
  directory : tree.hasDirectory location = other.hasDirectory location
  file : (tree.bytesAt? location).isSome = (other.bytesAt? location).isSome

instance (tree other : Tree) (location : Location) : Decidable (tree.Alike other location) :=
  decidable_of_iff
    (tree.hasDirectory location = other.hasDirectory location ∧
      (tree.bytesAt? location).isSome = (other.bytesAt? location).isSome)
    ⟨fun same => ⟨same.1, same.2⟩, fun alike => ⟨alike.directory, alike.file⟩⟩

end Tree

/-! ### Following a path -/

/-- Where a component leads from a directory. -/
def Component.step (here : Location) : Component → Location
  | root => []
  | current => here
  | parent => here.dropLast
  | name text => here ++ [text]

/-- Names lead on one inside the other. -/
@[simp]
theorem Component.foldl_step_names (names : List String) (here : Location) :
    (names.map Component.name).foldl Component.step here = here ++ names := by
  induction names generalizing here with
  | nil => exact (List.append_nil here).symm
  | cons name names ih =>
      rw [List.map_cons, List.foldl_cons, ih, Component.step, List.append_assoc]
      rfl

/-- What is left of a computation with a result, if another one follows it. -/
theorem bind_eq_ok {ε α β : Type} {first : Except ε α} {next : α → Except ε β} {result : β}
    (succeeds : first.bind next = .ok result) :
    ∃ value, first = .ok value ∧ next value = .ok result := by
  cases first with
  | error fault => exact nomatch succeeds
  | ok value => exact ⟨value, rfl, succeeds⟩

namespace FileSystem

section Follow

variable {files other : FileSystem} {here there : Location} {pieces : List String}

theorem stepTo_name {name : String} (isName : NameText name) (here : Location) :
    stepTo here name = .ok (here ++ [name]) := by
  rw [stepTo, if_neg (by rw [isName.visible]; exact Bool.false_ne_true), if_neg isName.notParent,
    if_neg (Nat.not_lt.mpr isName.short)]

theorem stepTo_silent {piece : String} (silent : isSilent piece = true) (here : Location) :
    stepTo here piece = .ok here := by
  rw [stepTo, if_pos silent]

/-- A step leads where the component of its piece leads. -/
theorem eq_of_stepTo {piece : String} (leads : stepTo here piece = .ok there) :
    there = (pieceComponent? piece).toList.foldl Component.step here := by
  rw [stepTo] at leads
  rw [pieceComponent?]
  split at leads
  next silent => rw [if_pos silent]; exact (Except.ok.inj leads).symm
  next visible =>
    rw [if_neg visible]
    split at leads
    next isParent => rw [if_pos isParent]; exact (Except.ok.inj leads).symm
    next notParent =>
      rw [if_neg notParent]
      split at leads
      · cases leads
      · exact (Except.ok.inj leads).symm

theorem exists_of_follow (leads : files.follow here pieces = .ok there) :
    files.tree.hasDirectory there = true ∨ (files.tree.bytesAt? there).isSome = true := by
  induction pieces generalizing here with
  | nil =>
      rw [follow] at leads
      split at leads
      next present => exact Except.ok.inj leads ▸ present
      next => exact nomatch leads
  | cons piece pieces ih =>
      rw [follow] at leads
      split at leads
      next =>
        obtain ⟨next, _, goesOn⟩ := bind_eq_ok leads
        exact ih goesOn
      next => split at leads <;> exact nomatch leads

/-- A path that leads to a place leads where its components say. -/
theorem follow_eq_end (leads : files.follow here pieces = .ok there) :
    there = (pieces.filterMap pieceComponent?).foldl Component.step here := by
  induction pieces generalizing here with
  | nil =>
      rw [follow] at leads
      split at leads
      · exact (Except.ok.inj leads).symm
      · exact nomatch leads
  | cons piece pieces ih =>
      rw [follow] at leads
      split at leads
      next =>
        obtain ⟨next, step, goesOn⟩ := bind_eq_ok leads
        rw [ih goesOn, eq_of_stepTo step, ← List.foldl_append, List.filterMap_cons]
        cases pieceComponent? piece <;> rfl
      next => split at leads <;> exact nomatch leads

/-- **The first pieces, and then the others from there.** -/
@[simp]
theorem follow_append (files : FileSystem) (here : Location) (front behind : List String) :
    files.follow here (front ++ behind) =
      (files.follow here front).bind fun there => files.follow there behind := by
  induction front generalizing here with
  | nil =>
      rw [List.nil_append, follow]
      by_cases directory : files.tree.hasDirectory here = true
      · rw [if_pos (.inl directory)]
        rfl
      · by_cases isFile : (files.tree.bytesAt? here).isSome = true
        · rw [if_pos (.inr isFile)]
          rfl
        · rw [if_neg (by simp [directory, isFile])]
          cases behind with
          | nil => rw [follow, if_neg (by simp [directory, isFile])]; rfl
          | cons piece pieces => rw [follow, if_neg directory, if_neg isFile]; rfl
  | cons piece pieces ih =>
      rw [List.cons_append, follow, follow]
      split
      · cases stepTo here piece with
        | error fault => rfl
        | ok next => exact ih next
      · split <;> rfl

/-- From a directory to a file inside. -/
@[simp]
theorem follow_names {names : List String}
    (isFile : (files.tree.bytesAt? (here ++ names)).isSome = true) :
    files.follow here names = .ok (here ++ names) := by
  induction names generalizing here with
  | nil =>
      rw [List.append_nil] at isFile ⊢
      rw [follow, if_pos (.inr isFile)]
  | cons name names ih =>
      have isName : NameText name := Tree.names_of_isFile isFile name (by simp)
      have onward : here ++ name :: names = here ++ [name] ++ names := by
        rw [List.append_assoc, List.singleton_append]
      rw [follow, if_pos (Tree.hasDirectory_of_isFile isFile (List.cons_ne_nil _ _)),
        stepTo_name isName, onward]
      exact ih (onward ▸ isFile)

/-- An empty piece at the end leads nowhere else. -/
theorem follow_dropEmptyEnd (leads : files.follow here pieces = .ok there) :
    files.follow here (dropEmptyEnd pieces) = .ok there := by
  rcases List.eq_nil_or_concat' pieces with rfl | ⟨front, last, rfl⟩
  · exact leads
  · by_cases empty : last = ""
    · subst empty
      rw [follow_append] at leads
      obtain ⟨stop, frontLeads, stays⟩ := bind_eq_ok leads
      have same : there = stop := follow_eq_end stays
      simp [frontLeads, same]
    · rwa [dropEmptyEnd_concat empty]

/-- Pieces that are no components lead nowhere else. -/
theorem follow_silent (directory : files.tree.hasDirectory here = true)
    (silent : ∀ piece ∈ pieces, isSilent piece = true) : files.follow here pieces = .ok here := by
  induction pieces with
  | nil => rw [follow, if_pos (.inl directory)]
  | cons piece pieces ih =>
      obtain ⟨isSilent, others⟩ := List.forall_mem_cons.mp silent
      rw [follow, if_pos directory, stepTo_silent isSilent]
      exact ih others

/-- The locations on the way along pieces. -/
def wayFrom (here : Location) : List String → List Location
  | [] => [here]
  | piece :: pieces =>
      here :: match stepTo here piece with
        | .ok next => wayFrom next pieces
        | .error _ => []

/-- What is not on the way does not matter. -/
theorem follow_congr
    (alike : ∀ location ∈ wayFrom here pieces, files.tree.Alike other.tree location) :
    files.follow here pieces = other.follow here pieces := by
  induction pieces generalizing here with
  | nil =>
      have start := alike here (List.mem_singleton_self here)
      rw [follow, follow, start.directory, start.file]
  | cons piece pieces ih =>
      have start := alike here (by rw [wayFrom]; exact List.mem_cons_self)
      rw [follow, follow, start.directory, start.file]
      cases step : stepTo here piece with
      | error fault => rfl
      | ok next =>
          have goesOn : files.follow next pieces = other.follow next pieces :=
            ih fun location member => alike location
              (by rw [wayFrom, step]; exact List.mem_cons_of_mem _ member)
          simp only [goesOn, bind, Except.bind]

end Follow

/-! ### Where a path leads -/

/-- Where the way of a path begins. -/
def start (files : FileSystem) (path : Path) : Location :=
  if path.parts.1 = .root then [] else files.workingDirectory

/-- The locations on the way of a path. -/
def way (files : FileSystem) (path : Path) : List Location :=
  wayFrom (files.start path) path.parts.2

/-- The location to which the components of a path lead, if nothing is in the way. -/
def aim (files : FileSystem) (path : Path) : Location :=
  path.components.foldl Component.step files.workingDirectory

/-- Whether a path can be used at all. -/
structure Usable (path : Path) : Prop where
  filled : path.text ≠ ""
  noEnd : '\x00' ∉ path.text.toList
  short : byteLength path.text.toList ≤ longestPath

section Locate

variable {files other : FileSystem} {path : Path} {location : Location} {names : List String}

theorem locate_of_usable (usable : Usable path) :
    files.locate path = files.follow (files.start path) path.parts.2 := by
  rw [locate, if_neg usable.filled, if_neg (by simpa using usable.noEnd),
    if_neg (Nat.not_lt.mpr usable.short)]
  rfl

theorem locate_eq_ok_iff : files.locate path = .ok location ↔
    Usable path ∧ files.follow (files.start path) path.parts.2 = .ok location := by
  constructor
  · intro leads
    have usable : Usable path := by
      rw [locate] at leads
      split at leads
      · exact nomatch leads
      · split at leads
        · exact nomatch leads
        · split at leads
          · exact nomatch leads
          · exact ⟨by assumption, by simp_all, Nat.not_lt.mp (by assumption)⟩
    exact ⟨usable, locate_of_usable usable ▸ leads⟩
  · rintro ⟨usable, leads⟩
    rw [locate_of_usable usable, leads]

/-- **A path that leads to a place leads where its components say.** -/
theorem locate_eq_aim (leads : files.locate path = .ok location) : location = files.aim path := by
  have follows := follow_eq_end (locate_eq_ok_iff.mp leads).2
  rw [follows, aim, Path.components, List.foldl_append, start]
  cases path.parts.1 <;> rfl

theorem exists_of_locate (leads : files.locate path = .ok location) :
    files.tree.hasDirectory location = true ∨ (files.tree.bytesAt? location).isSome = true :=
  exists_of_follow (locate_eq_ok_iff.mp leads).2

theorem aim_descend (files : FileSystem) (path : Path) {names : List String}
    (areNames : ∀ name ∈ names, NameText name) :
    files.aim (path.descend names) = files.aim path ++ names := by
  simp [aim, Path.components_descend path areNames]

/-- **The way on along names from a directory** to a file. -/
theorem locate_descend (leads : files.locate path = .ok location)
    (isFile : (files.tree.bytesAt? (location ++ names)).isSome = true) :
    files.locate (path.descend names) =
      if longestPath < byteLength (path.descend names).text.toList then .error .nameTooLong
      else .ok (location ++ names) := by
  obtain ⟨usable, follows⟩ := locate_eq_ok_iff.mp leads
  have areNames := Tree.names_behind isFile
  split
  next tooLong =>
    rw [locate, if_neg (Path.text_descend_ne_empty path usable.filled areNames),
      if_neg (by simpa using Path.noEnd_descend path usable.noEnd areNames), if_pos tooLong]
  next short =>
    rw [locate_of_usable ⟨Path.text_descend_ne_empty path usable.filled areNames,
      Path.noEnd_descend path usable.noEnd areNames, Nat.not_lt.mp short⟩]
    by_cases none : names = []
    · subst none
      rw [List.append_nil]
      exact follows
    · have parts := Path.parts_descend path areNames none
      have sameStart : files.start (path.descend names) = files.start path := by
        rw [start, start, parts]
      rw [sameStart, parts, follow_append, follow_dropEmptyEnd follows]
      exact follow_names isFile

/-- **What is not on the way of a path does not matter.** -/
theorem locate_congr (sameStart : other.workingDirectory = files.workingDirectory)
    (alike : ∀ place ∈ files.way path, files.tree.Alike other.tree place) :
    files.locate path = other.locate path := by
  have follows : files.follow (files.start path) path.parts.2 =
      other.follow (files.start path) path.parts.2 := follow_congr alike
  simp only [start] at follows
  rw [locate, locate, sameStart]
  simp only [follows]

end Locate

end FileSystem

end StyleBaseline
