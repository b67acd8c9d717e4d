/-
**Which files are checked.** The files that a run counts are those that it selects. It checks those
of them that can be read; the others are left out of the reports, but not out of the count.

* `readText_eq_ok_iff` — what is read of a selected file.
* `mem_readable_iff` — which of the selected files can be read.
* `run_coverage` — what the count of the files says, and when it is the number of checked files.
-/

import StyleBaseline.Proofs.Run.Agreement
import StyleBaseline.Proofs.Run.Shown
import StyleBaseline.Proofs.Text.Utf8

namespace StyleBaseline

/-! ### Files with a text -/

/-- **A file can be read** under a path: the path is not too long, and the bytes of the file are
those of a text. -/
structure HasText (files : FileSystem) (path : Path) : Prop where
  short : byteLength path.text.toList ≤ longestPath
  isText : ∃ text : String, files.tree.bytesAt? (files.aim path) = some (encodeUtf8 text.toList)

namespace Session

/-- The selected files that can be read. -/
def readable (session : Session) (files : FileSystem) : List Path :=
  session.selected.filter fun path => (files.readText path).toOption.isSome

/-- The selected files that cannot be read. -/
def unreadable (session : Session) (files : FileSystem) : List Path :=
  session.selected.filter fun path => !(files.readText path).toOption.isSome

end Session

section Reading

variable {files : FileSystem} {workspace path : Path} {paths selected : List Path}
  {ignored : IgnoreSet}

/-- **What is read of a selected file**: the text with its bytes, if the path is not too long. -/
theorem readText_eq_ok_iff (selects : selectFiles files workspace paths ignored = .ok selected)
    (member : path ∈ selected) {text : String} :
    files.readText path = .ok text ↔ byteLength path.text.toList ≤ longestPath ∧
      files.tree.bytesAt? (files.aim path) = some (encodeUtf8 text.toList) := by
  obtain ⟨root, _, location, picks⟩ := exists_picks_of_mem selects member
  obtain ⟨bytes, found⟩ := Option.isSome_iff_exists.mp picks.isFile
  have isHere : files.tree.bytesAt? (files.aim path) = some bytes := picks.location_eq ▸ found
  obtain ⟨place, names, leads, rfl, rfl⟩ := picks.exists_leads
  unfold FileSystem.readText
  rw [FileSystem.locate_descend leads picks.isFile, isHere, Option.some.injEq]
  by_cases short : byteLength (root.descend names).text.toList ≤ longestPath
  · rw [if_neg (Nat.not_lt.mpr short), and_iff_right short, eq_comm (b := encodeUtf8 _),
      ← decodeUtf8?_eq_toList_iff]
    simp only [bind, Except.bind, found]
    cases decodeUtf8? bytes with
    | none => exact ⟨nofun, nofun⟩
    | some cs => exact ⟨fun reads => congrArg some (Except.ok.inj reads),
        fun isText => congrArg Except.ok (Option.some.inj isText)⟩
  · rw [if_pos (Nat.lt_of_not_le short)]
    exact ⟨nofun, fun reads => absurd reads.1 short⟩

end Reading

/-! ### Counting -/

section Count

variable {surroundings : Surroundings} {arguments : Arguments} {session : Session} {path : Path}

/-- **Which of the selected files can be read.** -/
theorem mem_readable_iff [GlobEngine]
    (prepares : Session.prepare surroundings arguments = .ok session) :
    path ∈ session.readable surroundings.files ↔
      path ∈ session.selected ∧ HasText surroundings.files path := by
  obtain ⟨_, _, _, selects⟩ := selectFiles_of_prepare prepares
  unfold Session.readable
  rw [List.mem_filter]
  refine and_congr_right fun member => ?_
  constructor
  · intro isRead
    cases reads : surroundings.files.readText path with
    | error fault =>
        rw [reads] at isRead
        exact nomatch isRead
    | ok text =>
        obtain ⟨short, isText⟩ := (readText_eq_ok_iff selects member).mp reads
        exact ⟨short, text, isText⟩
  · rintro ⟨short, text, isText⟩
    rw [(readText_eq_ok_iff selects member).mpr ⟨short, isText⟩]
    rfl

/-- There is one report for each file that can be read. -/
theorem length_reports (session : Session) (files : FileSystem) (arguments : Arguments) :
    (session.reports files arguments).length = (session.readable files).length := by
  unfold Session.reports Session.readable
  rw [List.length_filterMap_eq_countP, List.countP_eq_length_filter]
  congr 2
  funext path
  unfold Session.report?
  exact Option.isSome_map

theorem length_selected (session : Session) (files : FileSystem) :
    session.selected.length =
      (session.readable files).length + (session.unreadable files).length := by
  unfold Session.readable Session.unreadable
  exact List.length_eq_length_filter_add _

/-- All selected files can be read if none is left out. -/
theorem length_readable_eq_iff [GlobEngine]
    (prepares : Session.prepare surroundings arguments = .ok session) :
    session.selected.length = (session.readable surroundings.files).length ↔
      ∀ path ∈ session.selected, HasText surroundings.files path := by
  constructor
  · intro same path member
    have all : session.readable surroundings.files = session.selected :=
      List.filter_sublist.eq_of_length same.symm
    rw [← all] at member
    exact ((mem_readable_iff prepares).mp member).2
  · intro allText
    have all : session.readable surroundings.files = session.selected := by
      apply List.filter_eq_self.mpr
      intro path member
      exact (List.mem_filter.mp ((mem_readable_iff prepares).mpr ⟨member, allText path member⟩)).2
    rw [all]

/-- **What the count of the files says.** The files of the summary are all that are selected: those
on which there is a report, and those that cannot be read, since their paths are too long or their
bytes are no text. The count is the number of checked files only if there are none of these. -/
theorem run_coverage [GlobEngine]
    (prepares : Session.prepare surroundings arguments = .ok session) :
    ∃ result, run surroundings arguments = .ok result ∧
      result.summary.files = session.selected.length ∧
      (session.reports surroundings.files arguments).length =
        (session.readable surroundings.files).length ∧
      result.summary.files = (session.reports surroundings.files arguments).length +
        (session.unreadable surroundings.files).length ∧
      (∀ path, path ∈ session.readable surroundings.files ↔
        path ∈ session.selected ∧ HasText surroundings.files path) ∧
      (result.summary.files = (session.reports surroundings.files arguments).length ↔
        ∀ path ∈ session.selected, HasText surroundings.files path) := by
  have reported := length_reports session surroundings.files arguments
  refine ⟨session.result surroundings.files arguments,
    run_eq_ok_iff.mpr ⟨session, prepares, rfl⟩, rfl, reported, ?_,
    fun path => mem_readable_iff prepares, ?_⟩
  · rw [reported]
    exact length_selected session surroundings.files
  · rw [reported]
    exact length_readable_eq_iff prepares

/-- A stylesheet, and another one with bytes that are no text. -/
def sheetAndBytes : Surroundings where
  files := ⟨⟨[⟨["a.css"], .file (encodeUtf8 "a\x7b".toList)⟩, ⟨["b.css"], .file [255]⟩],
    by decide, by decide⟩, []⟩
  datasetVariable := none

theorem run_coverage_sheetAndBytes :
    ∃ session result, Session.prepare sheetAndBytes allSheets = .ok session ∧
      run sheetAndBytes allSheets = .ok result ∧
      session.selected = [⟨"/a.css"⟩, ⟨"/b.css"⟩] ∧
      session.readable sheetAndBytes.files = [⟨"/a.css"⟩] ∧
      ¬HasText sheetAndBytes.files ⟨"/b.css"⟩ ∧
      result.summary.files = 2 ∧
      (session.reports sheetAndBytes.files allSheets).length = 1 := by
  have works : (Session.prepare sheetAndBytes allSheets).toOption.map (fun session =>
      (session.selected, session.readable sheetAndBytes.files)) =
      some ([⟨"/a.css"⟩, ⟨"/b.css"⟩], [⟨"/a.css"⟩]) := by decide +kernel
  obtain ⟨session, prepares, parts⟩ := exists_session works
  obtain ⟨selected, readable⟩ := Prod.mk.inj parts
  obtain ⟨result, succeeds, files, reported, _, isReadable, _⟩ := run_coverage prepares
  have noText : ¬HasText sheetAndBytes.files ⟨"/b.css"⟩ := by
    intro hasText
    have member : Path.mk "/b.css" ∈ session.selected :=
      selected ▸ List.mem_cons_of_mem _ List.mem_cons_self
    have isRead := (isReadable _).mpr ⟨member, hasText⟩
    rw [readable] at isRead
    exact absurd isRead (by decide)
  refine ⟨session, result, prepares, succeeds, selected, readable, noText, ?_, ?_⟩
  · rw [files, selected]
    rfl
  · rw [reported, readable]
    rfl

/-- A file that is called like a stylesheet, with a byte that is no text. -/
def byteAlone : Surroundings where
  files := ⟨⟨[⟨["a.css"], .file [255]⟩], by decide, by decide⟩, []⟩
  datasetVariable := none

/-- The count of the files is not always that of the reports. -/
theorem files_ne_length_reports :
    ¬∀ (surroundings : Surroundings) (arguments : Arguments) (session : Session)
      (result : RunResult), Session.prepare surroundings arguments = .ok session →
      run surroundings arguments = .ok result →
      result.summary.files = (session.reports surroundings.files arguments).length := by
  intro always
  have works : (Session.prepare byteAlone allSheets).toOption.map (fun session =>
      (session.selected.length, (session.reports byteAlone.files allSheets).length)) =
      some (1, 0) := by decide +kernel
  obtain ⟨session, prepares, parts⟩ := exists_session works
  obtain ⟨files, reported⟩ := Prod.mk.inj parts
  have same : session.selected.length = (session.reports byteAlone.files allSheets).length :=
    always byteAlone allSheets session _ prepares (run_eq_ok_iff.mpr ⟨session, prepares, rfl⟩)
  rw [files, reported] at same
  exact absurd same (by decide)

end Count

end StyleBaseline
