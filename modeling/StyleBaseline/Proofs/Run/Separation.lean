/-
**Files are checked by themselves.** A run prints one block for each file that it selects, in the
order of the paths, and counts what is in the blocks. What is in a block depends on the settings and
on the bytes of the file alone: another run with the same settings that finds the same bytes there
prints the same block, whatever other files it finds.

* `output_eq_blocks`, `entries_document`, `countP_shown` — a result as made of blocks.
* `shownAt_congr` — what a block depends on.
* `run_separate` — the whole.
-/

import Mathlib.Algebra.GroupWithZero.Nat
import StyleBaseline.Proofs.Files.OtherTrees
import StyleBaseline.Proofs.Run.Agreement
import StyleBaseline.Proofs.Run.Shown

namespace StyleBaseline

/-! ### Blocks -/

namespace Session

variable (session : Session) (files : FileSystem) (arguments : Arguments)

/-- The block of text that is printed for the file at a path. -/
def blockAt (path : Path) : String :=
  String.join ((session.shownAt files arguments path).map (·.text arguments.output))

/-- The entries of a document for the file at a path. -/
def entriesAt (path : Path) : List ReportEntry :=
  (session.shownAt files arguments path).map (·.entry)

/-- The number of diagnostics of a severity that are shown of the file at a path. -/
def countAt (severity : Severity) (path : Path) : Nat :=
  (session.shownAt files arguments path).countP (·.hasSeverity severity)

end Session

section Blocks

variable (session : Session) (files : FileSystem) (arguments : Arguments)

/-- The output as text is made of blocks. -/
theorem output_eq_blocks (isText : arguments.output ≠ .json) :
    (session.result files arguments).output =
      String.join (session.selected.map (session.blockAt files arguments))
        ++ session.ending files arguments := by
  have blocks : String.join ((session.shown files arguments).map (·.text arguments.output)) =
      String.join (session.selected.map (session.blockAt files arguments)) := by
    unfold Session.shown Session.blockAt
    rw [List.map_flatMap, join_flatMap]
  rw [← blocks]
  unfold Session.result
  cases format : arguments.output with
  | json => exact absurd format isText
  | _ => rfl

theorem output_eq_document (isDocument : arguments.output = .json) :
    (session.result files arguments).output = (session.document files arguments).text ++ "\n" := by
  unfold Session.result
  rw [isDocument]

/-- The entries of a document are those of its files. -/
theorem entries_document :
    (session.document files arguments).entries =
      session.selected.flatMap (session.entriesAt files arguments) :=
  List.map_flatMap

/-- What is counted are the diagnostics of the files. -/
theorem countP_shown (severity : Severity) :
    (session.shown files arguments).countP (·.hasSeverity severity) =
      (session.selected.map (session.countAt files arguments severity)).sum :=
  List.countP_flatMap

end Blocks

/-! ### What a block depends on -/

/-- **Two runs have the same settings**: the same workspace, configuration and index. -/
structure SameSettings (session other : Session) : Prop where
  workspace : other.workspace = session.workspace
  config : other.config = session.config
  index : other.dataset.index = session.dataset.index

section Separation

variable {first second : Surroundings} {arguments : Arguments} {session other : Session}
  {path : Path}

/-- With the same settings the same is shown of a file with the same text. -/
theorem shownAt_congr {files otherFiles : FileSystem} (arguments : Arguments)
    (same : SameSettings session other)
    (sameText : otherFiles.readText path = files.readText path) :
    other.shownAt otherFiles arguments path = session.shownAt files arguments path := by
  unfold Session.shownAt Session.options
  rw [sameText, same.workspace, same.config, same.index]

theorem isAbsolute_workspace [GlobEngine]
    (prepares : Session.prepare first arguments = .ok session) :
    session.workspace.isAbsolute = true := by
  rw [(selectFiles_of_prepare prepares).1]
  exact Path.isAbsolute_join first.files.isAbsolute_workingPath arguments.workspace

/-- The files that are selected are in the order of their paths. -/
theorem selected_ascending [GlobEngine] (prepares : Session.prepare first arguments = .ok session) :
    session.selected.Pairwise fun path other => path.compare other = .lt := by
  obtain ⟨_, _, _, selects⟩ := selectFiles_of_prepare prepares
  exact selectFiles_ascending selects

/-- Two runs with the same settings search the same roots with the same patterns. -/
theorem exists_selectFiles [GlobEngine] (prepares : Session.prepare first arguments = .ok session)
    (otherPrepares : Session.prepare second arguments = .ok other)
    (same : SameSettings session other) :
    ∃ ignored, selectFiles first.files session.workspace arguments.paths ignored =
        .ok session.selected ∧
      selectFiles second.files session.workspace arguments.paths ignored = .ok other.selected := by
  obtain ⟨_, ignored, reads, selects⟩ := selectFiles_of_prepare prepares
  obtain ⟨_, otherIgnored, readsAgain, selectsAgain⟩ := selectFiles_of_prepare otherPrepares
  rw [same.config] at readsAgain
  rw [same.workspace] at selectsAgain
  obtain rfl : ignored = otherIgnored := Except.ok.inj (reads.symm.trans readsAgain)
  exact ⟨ignored, selects, selectsAgain⟩

/-- A file that is selected is there. -/
theorem isFile_of_mem_selected {files : FileSystem} {workspace : Path} {paths selected : List Path}
    {ignored : IgnoreSet} (selects : selectFiles files workspace paths ignored = .ok selected)
    (member : path ∈ selected) : (files.tree.bytesAt? (files.aim path)).isSome = true := by
  obtain ⟨root, _, location, picks⟩ := exists_picks_of_mem selects member
  rw [← picks.location_eq]
  exact picks.isFile

/-- **A file with the same bytes** is selected by both runs under the same path, and read alike. -/
theorem selected_and_read_alike [GlobEngine]
    (prepares : Session.prepare first arguments = .ok session)
    (otherPrepares : Session.prepare second arguments = .ok other)
    (same : SameSettings session other) (member : path ∈ session.selected)
    (sameBytes : second.files.tree.bytesAt? (first.files.aim path) =
      first.files.tree.bytesAt? (first.files.aim path)) :
    path ∈ other.selected ∧ second.files.readText path = first.files.readText path := by
  have absolute := isAbsolute_workspace prepares
  obtain ⟨ignored, selects, selectsAgain⟩ := exists_selectFiles prepares otherPrepares same
  have isFile := isFile_of_mem_selected selects member
  have isOtherFile : (second.files.tree.bytesAt? (first.files.aim path)).isSome = true := by
    rw [sameBytes]
    exact isFile
  refine ⟨(mem_selectFiles_congr absolute selects selectsAgain isFile isOtherFile).mp member, ?_⟩
  obtain ⟨root, isRoot, location, picks⟩ := exists_picks_of_mem selects member
  have sameWay : second.files.locate root = first.files.locate root :=
    locate_eq_of_isAbsolute (isAbsolute_of_mem_searchRoots absolute isRoot)
      ((selectFiles_eq_ok_iff.mp selects).1 root isRoot)
      ((selectFiles_eq_ok_iff.mp selectsAgain).1 root isRoot)
  rw [← picks.location_eq] at sameBytes
  exact readText_congr picks sameWay sameBytes.symm

/-- **Files are checked by themselves.** The output of a run is made of one block for each selected
file, which stand in the strictly ascending order of the paths, and its counts are the sums of those
of the files. A second run with the same arguments and settings that finds the same bytes of a file
selects the file, too, and has the same block, the same entries and the same counts for it. -/
theorem run_separate [GlobEngine] (prepares : Session.prepare first arguments = .ok session) :
    ∃ result, run first arguments = .ok result ∧
      (arguments.output ≠ .json → result.output =
        String.join (session.selected.map (session.blockAt first.files arguments))
          ++ session.ending first.files arguments) ∧
      (arguments.output = .json → result.output =
        (Report.mk (session.selected.flatMap (session.entriesAt first.files arguments))
          (session.finalStatistics first.files arguments)).text ++ "\n") ∧
      (session.selected.Pairwise fun path other => path.compare other = .lt) ∧
      result.summary.errors =
        (session.selected.map (session.countAt first.files arguments .error)).sum ∧
      result.summary.warnings =
        (session.selected.map (session.countAt first.files arguments .warning)).sum ∧
      ∀ (second : Surroundings) (other : Session),
        Session.prepare second arguments = .ok other → SameSettings session other →
        ∀ path ∈ session.selected,
          second.files.tree.bytesAt? (first.files.aim path) =
            first.files.tree.bytesAt? (first.files.aim path) →
          path ∈ other.selected ∧
            other.blockAt second.files arguments path =
              session.blockAt first.files arguments path ∧
            other.entriesAt second.files arguments path =
              session.entriesAt first.files arguments path ∧
            ∀ severity, other.countAt second.files arguments severity path =
              session.countAt first.files arguments severity path := by
  refine ⟨session.result first.files arguments, run_eq_ok_iff.mpr ⟨session, prepares, rfl⟩,
    output_eq_blocks session first.files arguments, ?_, selected_ascending prepares,
    countP_shown session first.files arguments .error,
    countP_shown session first.files arguments .warning, ?_⟩
  · intro isDocument
    rw [output_eq_document session first.files arguments isDocument, ← entries_document]
    rfl
  · intro second other otherPrepares same path member sameBytes
    obtain ⟨selectedToo, sameText⟩ :=
      selected_and_read_alike prepares otherPrepares same member sameBytes
    have sameShown := shownAt_congr arguments same sameText
    unfold Session.blockAt Session.entriesAt Session.countAt
    rw [sameShown]
    exact ⟨selectedToo, rfl, rfl, fun _ => rfl⟩

/-- Two stylesheets with unmatched braces. -/
def twoSheets : Surroundings where
  files := ⟨⟨[⟨["a.css"], .file (encodeUtf8 "a\x7b".toList)⟩,
    ⟨["b.css"], .file (encodeUtf8 "\x7d".toList)⟩], by decide, by decide⟩, []⟩
  datasetVariable := none

/-- The first of them, another one in front of it, and the second one with bytes that are no
text. -/
def otherSheets : Surroundings where
  files := ⟨⟨[⟨["a.css"], .file (encodeUtf8 "a\x7b".toList)⟩, ⟨["b.css"], .file [255]⟩,
    ⟨["a", "c.css"], .file (encodeUtf8 "\x7d".toList)⟩], by decide, by decide⟩, []⟩
  datasetVariable := none

theorem run_separate_twoSheets :
    ∃ session other, Session.prepare twoSheets allSheets = .ok session ∧
      session.selected = [⟨"/a.css"⟩, ⟨"/b.css"⟩] ∧
      Session.prepare otherSheets allSheets = .ok other ∧
      other.selected = [⟨"/a/c.css"⟩, ⟨"/a.css"⟩, ⟨"/b.css"⟩] ∧
      SameSettings session other ∧
      otherSheets.files.tree.bytesAt? (twoSheets.files.aim ⟨"/a.css"⟩) =
        twoSheets.files.tree.bytesAt? (twoSheets.files.aim ⟨"/a.css"⟩) ∧
      other.blockAt otherSheets.files allSheets ⟨"/a.css"⟩ =
        session.blockAt twoSheets.files allSheets ⟨"/a.css"⟩ := by
  have settings : (Session.prepare twoSheets allSheets).toOption.map
      (fun session => (session.workspace, session.config, session.dataset.index,
        session.selected)) =
      some (⟨"/"⟩, .default, .empty, [⟨"/a.css"⟩, ⟨"/b.css"⟩]) := by decide +kernel
  have otherSettings : (Session.prepare otherSheets allSheets).toOption.map
      (fun session => (session.workspace, session.config, session.dataset.index,
        session.selected)) =
      some (⟨"/"⟩, .default, .empty, [⟨"/a/c.css"⟩, ⟨"/a.css"⟩, ⟨"/b.css"⟩]) := by decide +kernel
  obtain ⟨session, prepares, parts⟩ := exists_session settings
  obtain ⟨other, otherPrepares, otherParts⟩ := exists_session otherSettings
  simp only [Prod.mk.injEq] at parts otherParts
  obtain ⟨workspace, config, index, selected⟩ := parts
  obtain ⟨otherWorkspace, otherConfig, otherIndex, otherSelected⟩ := otherParts
  have same : SameSettings session other :=
    ⟨otherWorkspace.trans workspace.symm, otherConfig.trans config.symm,
      otherIndex.trans index.symm⟩
  have sameBytes : otherSheets.files.tree.bytesAt? (twoSheets.files.aim ⟨"/a.css"⟩) =
      twoSheets.files.tree.bytesAt? (twoSheets.files.aim ⟨"/a.css"⟩) := by decide +kernel
  have member : Path.mk "/a.css" ∈ session.selected := by
    rw [selected]
    exact List.mem_cons_self
  obtain ⟨_, _, _, _, _, _, _, separate⟩ := run_separate prepares
  obtain ⟨_, sameBlock, _⟩ := separate otherSheets other otherPrepares same _ member sameBytes
  exact ⟨session, other, prepares, selected, otherPrepares, otherSelected, same, sameBytes,
    sameBlock⟩

end Separation

end StyleBaseline
