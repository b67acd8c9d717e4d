/-
**Arguments that are spelled differently.** Arguments that lead to the same places begin the same
searches, but a search calls what it finds by the spelling of its root. The patterns and the longest
path are about that spelling, and two paths for one file count as one only if they mean the same.

* `SamePlace`, `EnteredAlike`, `KeptAlike` — how two roots agree.
* `keptAlike_default` — the patterns that always hold see what paths mean, and not their spelling.
* `selectFiles_respelled` — when the same files are selected, and when each of them once.
-/

import StyleBaseline.Proofs.Files.Selecting
import StyleBaseline.Proofs.Files.SkippedDirectories

namespace StyleBaseline

/-! ### Roots that agree -/

section Roots

variable (files : FileSystem) (workspace : Path) (ignored : IgnoreSet) (first second : Path)

/-- Two paths lead to the same place. -/
def SamePlace : Prop :=
  ∃ location, files.locate first = .ok location ∧ files.locate second = .ok location

/-- The same directories are entered from two roots: in none of them only one of the two paths of a
directory is too long. -/
def EnteredAlike : Prop :=
  ∀ names ∈ files.tree.filesBelow (files.aim first),
    byteLength (first.descend names.dropLast).text.toList ≤ longestPath ↔
      byteLength (second.descend names.dropLast).text.toList ≤ longestPath

/-- The patterns ignore the same files from two roots. -/
def KeptAlike : Prop :=
  ∀ names ∈ files.tree.filesBelow (files.aim first), names ≠ [] →
    ignored.ignores (shownPath workspace (first.descend names)) =
      ignored.ignores (shownPath workspace (second.descend names))

/-- Whether a path goes down by names from where components lead. -/
def GoesDown (base : List Component) (path : Path) : Prop :=
  ∃ names : List String, path.components = base ++ names.map .name

end Roots

section Spelling

variable {files : FileSystem} {workspace : Path} {ignored : IgnoreSet} {first second : Path}
  {paths others roots otherRoots : List Path} {selected : List Path} {location : Location}

theorem SamePlace.present (same : SamePlace files first second) :
    files.isFile first = true ∨ files.isDirectory first = true := by
  obtain ⟨location, leads, _⟩ := same
  exact present_iff.mpr ⟨location, leads⟩

theorem SamePlace.symm (same : SamePlace files first second) : SamePlace files second first := by
  obtain ⟨location, leads, otherLeads⟩ := same
  exact ⟨location, otherLeads, leads⟩

theorem SamePlace.aim_eq (same : SamePlace files first second) :
    files.aim first = files.aim second := by
  obtain ⟨location, leads, otherLeads⟩ := same
  rw [← FileSystem.locate_eq_aim leads, ← FileSystem.locate_eq_aim otherLeads]

theorem EnteredAlike.symm (same : SamePlace files first second)
    (entered : EnteredAlike files first second) : EnteredAlike files second first :=
  fun names member => (entered names (same.aim_eq ▸ member)).symm

theorem KeptAlike.symm (same : SamePlace files first second)
    (kept : KeptAlike files workspace ignored first second) :
    KeptAlike files workspace ignored second first :=
  fun names member any => (kept names (same.aim_eq ▸ member) any).symm

/-- **The patterns that always hold** do not tell spellings apart. -/
theorem keptAlike_default (same : first.components = second.components) :
    KeptAlike files workspace .default first second := by
  intro names member any
  have areNames := Tree.names_behind (Tree.mem_filesBelow.mp member)
  refine ignores_default_congr workspace (first.endsInName_descend areNames any)
    (second.endsInName_descend areNames any) ?_
  rw [Path.components_descend first areNames, Path.components_descend second areNames, same]

/-! ### The same files -/

/-- What is picked from one root is picked from another one at the same place. -/
theorem Picks.respelled {path : Path} (same : SamePlace files first second)
    (entered : EnteredAlike files first second)
    (kept : KeptAlike files workspace ignored first second)
    (picks : Picks files workspace ignored first path location) :
    ∃ other, Picks files workspace ignored second other location := by
  obtain ⟨place, leads, otherLeads⟩ := same
  cases picks with
  | named leadsHere isFile =>
      obtain rfl := Except.ok.inj (leads.symm.trans leadsHere)
      exact ⟨second, .named otherLeads isFile⟩
  | @walked _ names leadsHere isFile inside isEntered isSheet isKept =>
      obtain rfl := Except.ok.inj (leads.symm.trans leadsHere)
      have below : names ∈ files.tree.filesBelow (files.aim first) :=
        FileSystem.locate_eq_aim leads ▸ Tree.mem_filesBelow.mpr isFile
      have areNames := Tree.names_behind isFile
      have otherSheet : (second.descend names).extension? = some stylesheetExtension := by
        rw [Path.extension?_descend second areNames inside,
          ← Path.extension?_descend first areNames inside, isSheet]
      exact ⟨second.descend names, .walked otherLeads isFile inside
        ((entered names below).mp isEntered) otherSheet (kept names below inside ▸ isKept)⟩

theorem exists_picks_congr (same : SamePlace files first second)
    (entered : EnteredAlike files first second)
    (kept : KeptAlike files workspace ignored first second) :
    (∃ path, Picks files workspace ignored first path location) ↔
      ∃ path, Picks files workspace ignored second path location := by
  constructor
  · rintro ⟨path, picks⟩
    exact picks.respelled same entered kept
  · rintro ⟨path, picks⟩
    exact picks.respelled same.symm (entered.symm same) (kept.symm same)

/-- The files that are selected. -/
theorem mem_map_aim_iff (selects : selectFiles files workspace paths ignored = .ok selected) :
    location ∈ selected.map files.aim ↔ ∃ root ∈ searchRoots workspace paths, ∃ path,
      Picks files workspace ignored root path location := by
  rw [List.mem_map]
  constructor
  · rintro ⟨path, member, rfl⟩
    obtain ⟨root, isRoot, location, picks⟩ := exists_picks_of_mem selects member
    exact ⟨root, isRoot, path, picks.location_eq ▸ picks⟩
  · rintro ⟨root, isRoot, path, picks⟩
    obtain ⟨found, member, same⟩ := (exists_mem_selectFiles_iff selects).mpr
      ⟨root, isRoot, path, location, picks, rfl⟩
    exact ⟨found, member, by rw [picks.location_eq, FileSystem.aim, FileSystem.aim, same]⟩

theorem present_of_samePlaces (same : List.Forall₂ (SamePlace files) roots otherRoots) :
    ∀ root ∈ roots, files.isFile root = true ∨ files.isDirectory root = true := by
  induction same with
  | nil => exact List.forall_mem_nil _
  | cons here _ ih => exact List.forall_mem_cons.mpr ⟨here.present, ih⟩

/-- The same files are picked from roots that agree place by place. -/
theorem exists_picks_congr_roots (same : List.Forall₂ (SamePlace files) roots otherRoots)
    (entered : List.Forall₂ (EnteredAlike files) roots otherRoots)
    (kept : List.Forall₂ (KeptAlike files workspace ignored) roots otherRoots) :
    (∃ root ∈ roots, ∃ path, Picks files workspace ignored root path location) ↔
      ∃ root ∈ otherRoots, ∃ path, Picks files workspace ignored root path location := by
  induction same with
  | nil => rfl
  | cons sameHere _ ih =>
      obtain ⟨enteredHere, enteredRest⟩ := List.forall₂_cons.mp entered
      obtain ⟨keptHere, keptRest⟩ := List.forall₂_cons.mp kept
      rw [List.exists_mem_cons_iff, List.exists_mem_cons_iff, ih enteredRest keptRest,
        exists_picks_congr sameHere enteredHere keptHere]

/-! ### Each file once -/

/-- Where all roots go down from one place by names, no file is selected twice. -/
theorem nodup_map_aim (selects : selectFiles files workspace paths ignored = .ok selected)
    {base : List Component} (down : ∀ root ∈ searchRoots workspace paths, GoesDown base root) :
    (selected.map files.aim).Nodup := by
  have allDown : ∀ path ∈ selected, GoesDown base path := by
    intro path member
    obtain ⟨root, isRoot, location, picks⟩ := exists_picks_of_mem selects member
    obtain ⟨names, components⟩ := down root isRoot
    obtain ⟨place, others, leads, rfl, rfl⟩ := picks.exists_leads
    refine ⟨names ++ others, ?_⟩
    rw [Path.components_descend root (Tree.names_behind picks.isFile), components,
      List.map_append, List.append_assoc]
  rw [List.Nodup, List.pairwise_map]
  refine (selectFiles_ascending selects).imp_of_mem ?_
  intro path other member otherMember below same
  obtain ⟨names, components⟩ := allDown path member
  obtain ⟨otherNames, otherComponents⟩ := allDown other otherMember
  rw [FileSystem.aim, FileSystem.aim, components, otherComponents, List.foldl_append,
    List.foldl_append, Component.foldl_step_names, Component.foldl_step_names] at same
  have equal : path.compare other = .eq := Path.compare_eq_iff.mpr (by
    rw [components, otherComponents, List.append_cancel_left same])
  rw [below] at equal
  cases equal

/-- **How arguments are spelled.** Where two lists of arguments lead to the same places, both
selections succeed. They select the same files, if from both spellings the same directories are
entered and the same files are ignored; for the patterns that always hold it is enough that both
spellings mean the same. And a selection has each file once, if all of its roots go down from one
place by names. -/
theorem selectFiles_respelled
    (samePlaces : List.Forall₂ (SamePlace files) (searchRoots workspace paths)
      (searchRoots workspace others)) :
    ∃ selected again, selectFiles files workspace paths ignored = .ok selected ∧
      selectFiles files workspace others ignored = .ok again ∧
      (List.Forall₂ (EnteredAlike files) (searchRoots workspace paths)
          (searchRoots workspace others) →
        (List.Forall₂ (KeptAlike files workspace ignored) (searchRoots workspace paths)
            (searchRoots workspace others) ∨
          ignored = .default ∧ List.Forall₂ (fun root other => root.components = other.components)
            (searchRoots workspace paths) (searchRoots workspace others)) →
        ∀ location, location ∈ selected.map files.aim ↔ location ∈ again.map files.aim) ∧
      ∀ base, (∀ root ∈ searchRoots workspace paths, GoesDown base root) →
        (selected.map files.aim).Nodup := by
  have present := present_of_samePlaces samePlaces
  have otherPresent := present_of_samePlaces
    (samePlaces.flip.imp fun _ _ same => SamePlace.symm same)
  obtain ⟨selected, selects⟩ : ∃ selected,
      selectFiles files workspace paths ignored = .ok selected :=
    ⟨_, selectFiles_eq_ok_iff.mpr ⟨present, rfl⟩⟩
  obtain ⟨again, selectsAgain⟩ : ∃ again,
      selectFiles files workspace others ignored = .ok again :=
    ⟨_, selectFiles_eq_ok_iff.mpr ⟨otherPresent, rfl⟩⟩
  refine ⟨selected, again, selects, selectsAgain, ?_, fun base => nodup_map_aim selects⟩
  intro entered agreement location
  have kept : List.Forall₂ (KeptAlike files workspace ignored) (searchRoots workspace paths)
      (searchRoots workspace others) := by
    rcases agreement with kept | ⟨rfl, sameMeaning⟩
    · exact kept
    · exact sameMeaning.imp fun _ _ => keptAlike_default
  rw [mem_map_aim_iff selects, mem_map_aim_iff selectsAgain,
    exists_picks_congr_roots samePlaces entered kept]

theorem selectFiles_respelled_nestedSheets :
    List.Forall₂ (SamePlace nestedSheets) (searchRoots ⟨"/"⟩ [⟨"b"⟩, ⟨"a.css"⟩])
        (searchRoots ⟨"/"⟩ [⟨"./b//"⟩, ⟨"b/../a.css"⟩]) ∧
      ∃ selected again,
        selectFiles nestedSheets ⟨"/"⟩ [⟨"b"⟩, ⟨"a.css"⟩] .default = .ok selected ∧
        selectFiles nestedSheets ⟨"/"⟩ [⟨"./b//"⟩, ⟨"b/../a.css"⟩] .default = .ok again ∧
        ∀ location, location ∈ selected.map nestedSheets.aim ↔
          location ∈ again.map nestedSheets.aim := by
  have samePlaces : List.Forall₂ (SamePlace nestedSheets) (searchRoots ⟨"/"⟩ [⟨"b"⟩, ⟨"a.css"⟩])
      (searchRoots ⟨"/"⟩ [⟨"./b//"⟩, ⟨"b/../a.css"⟩]) :=
    .cons ⟨["b"], by decide +kernel⟩ (.cons ⟨["a.css"], by decide +kernel⟩ .nil)
  have entered : List.Forall₂ (EnteredAlike nestedSheets)
      (searchRoots ⟨"/"⟩ [⟨"b"⟩, ⟨"a.css"⟩]) (searchRoots ⟨"/"⟩ [⟨"./b//"⟩, ⟨"b/../a.css"⟩]) := by
    refine .cons ?_ (.cons ?_ .nil) <;> rw [EnteredAlike] <;> decide +kernel
  have kept : List.Forall₂ (KeptAlike nestedSheets ⟨"/"⟩ .default)
      (searchRoots ⟨"/"⟩ [⟨"b"⟩, ⟨"a.css"⟩]) (searchRoots ⟨"/"⟩ [⟨"./b//"⟩, ⟨"b/../a.css"⟩]) := by
    refine .cons ?_ (.cons ?_ .nil) <;> rw [KeptAlike] <;> decide +kernel
  obtain ⟨selected, again, selects, selectsAgain, sameFiles, _⟩ :=
    @selectFiles_respelled nestedSheets ⟨"/"⟩ .default _ _ samePlaces
  exact ⟨samePlaces, selected, again, selects, selectsAgain, sameFiles entered (.inl kept)⟩

/-- The pattern of one file in a directory. -/
def sheetPattern : Glob :=
  ⟨"b/c.css".toList.map .literal⟩

/-- **Spellings that show.** With a detour to the same place a file is selected a second time, and
with a dot behind the name of a directory a pattern for a file in it is missed. -/
theorem selectFiles_detours :
    (selectFiles nestedSheets ⟨"/"⟩ [⟨"a.css"⟩, ⟨"b/../a.css"⟩] .default =
        .ok [⟨"/a.css"⟩, ⟨"/b/../a.css"⟩] ∧
      nestedSheets.locate ⟨"/a.css"⟩ = .ok ["a.css"] ∧
      nestedSheets.locate ⟨"/b/../a.css"⟩ = .ok ["a.css"]) ∧
    nestedSheets.locate ⟨"/b"⟩ = nestedSheets.locate ⟨"/b/."⟩ ∧
      Glob.ofText "b/c.css" = .ok sheetPattern ∧
      selectFiles nestedSheets ⟨"/"⟩ [⟨"b"⟩] ⟨[sheetPattern]⟩ = .ok [] ∧
      selectFiles nestedSheets ⟨"/"⟩ [⟨"b/."⟩] ⟨[sheetPattern]⟩ = .ok [⟨"/b/./c.css"⟩] :=
  ⟨by decide +kernel, by decide +kernel, rfl, by decide +kernel, by decide +kernel⟩

end Spelling

end StyleBaseline
