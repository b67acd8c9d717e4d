/-
**Names in reports.** A file is reported under its path as it is spelled behind the workspace, or
under its whole path if it lies outside. Joining works on texts, and silent pieces get lost on the
way; but the workspace and the name of a report always make a path that means what the path of the
file means. So the name says which file it is, and no two files are reported under one name.

* `Path.components_join`, `Path.components_join_congr` — what a path inside another one means.
* `components_join_shownPath` — the workspace and a path as it is shown.
* `reports_identify` — the files of a selection, and the reports on them.
-/

import StyleBaseline.Proofs.Files.OtherTrees
import StyleBaseline.Run

namespace StyleBaseline

/-! ### Paths that are joined -/

namespace Path

variable {base path first second : Path}

/-- **What a path inside another one means**: the steps of the one behind what the other means. -/
theorem components_join (relative : path.isAbsolute = false) (filled : base.text ≠ "") :
    (base.join path).components = base.components ++ path.steps := by
  simp [components, parts_join relative (.inl filled)]

/-- Paths that mean the same do so inside another one, too. -/
theorem components_join_congr (filled : base.text ≠ "")
    (same : first.components = second.components) :
    (base.join first).components = (base.join second).components := by
  obtain ⟨sameLead, sameSteps⟩ := components_eq_iff.mp same
  have alike : first.isAbsolute = second.isAbsolute := by
    rw [isAbsolute, isAbsolute, sameLead]
  cases absolute : second.isAbsolute with
  | true =>
      rw [join_of_isAbsolute base (alike.trans absolute), join_of_isAbsolute base absolute, same]
  | false =>
      rw [components_join (alike.trans absolute) filled, components_join absolute filled, sameSteps]

theorem isAbsolute_descend (absolute : path.isAbsolute = true) (names : List String) :
    (path.descend names).isAbsolute = true := by
  induction names using List.reverseRecOn with
  | nil => exact absolute
  | append_singleton names name ih =>
      rw [descend_concat]
      exact isAbsolute_join ih _

end Path

/-! ### Back from the name to the file -/

section Names

variable {workspace path : Path}

/-- **The workspace and a path as it is shown** make a path that means the same. -/
theorem components_join_shownPath (absolute : workspace.isAbsolute = true)
    (pathAbsolute : path.isAbsolute = true) :
    (workspace.join (shownPath workspace path)).components = path.components := by
  by_cases inside : LiesInside workspace path
  · obtain ⟨relative, steps⟩ := steps_of_inside inside
    rw [Path.components_join relative (Path.filled_of_isAbsolute absolute), Path.components_eq,
      Path.components_eq, List.append_assoc, steps, inside.1]
  · rw [shownPath_of_outside inside, Path.join_of_isAbsolute workspace pathAbsolute]

/-- Paths that are shown alike mean the same. -/
theorem components_eq_of_shownPath {other : Path} (absolute : workspace.isAbsolute = true)
    (pathAbsolute : path.isAbsolute = true) (otherAbsolute : other.isAbsolute = true)
    (same : (shownPath workspace path).components = (shownPath workspace other).components) :
    path.components = other.components := by
  rw [← components_join_shownPath absolute pathAbsolute,
    ← components_join_shownPath absolute otherAbsolute]
  exact Path.components_join_congr (Path.filled_of_isAbsolute absolute) same

end Names

/-! ### Selected files and their reports -/

section Selected

variable {files : FileSystem} {workspace path : Path} {paths selected : List Path}
  {ignored : IgnoreSet}

theorem isAbsolute_of_mem_selected (absolute : workspace.isAbsolute = true)
    (selects : selectFiles files workspace paths ignored = .ok selected)
    (member : path ∈ selected) : path.isAbsolute = true := by
  obtain ⟨root, isRoot, location, picks⟩ := exists_picks_of_mem selects member
  obtain ⟨place, names, _, _, rfl⟩ := picks.exists_leads
  exact Path.isAbsolute_descend (isAbsolute_of_mem_searchRoots absolute isRoot) names

/-- Two selected files never have names that mean the same. -/
theorem selected_apart (absolute : workspace.isAbsolute = true)
    (selects : selectFiles files workspace paths ignored = .ok selected) :
    selected.Pairwise fun path other =>
      (shownPath workspace path).components ≠ (shownPath workspace other).components := by
  refine (selectFiles_ascending selects).imp_of_mem ?_
  intro path other member otherMember below same
  have equal := Path.compare_eq_iff.mpr (components_eq_of_shownPath absolute
    (isAbsolute_of_mem_selected absolute selects member)
    (isAbsolute_of_mem_selected absolute selects otherMember) same)
  rw [below] at equal
  cases equal

/-- A report has the name and the text of its file. -/
theorem Session.report?_eq_some {session : Session} {arguments : Arguments} {report : FileReport}
    (isReport : session.report? files arguments path = some report) :
    report.path = shownPath session.workspace path ∧ files.readText path = .ok report.source := by
  unfold Session.report? at isReport
  cases reads : files.readText path with
  | error fault =>
      rw [reads] at isReport
      exact nomatch isReport
  | ok source =>
      rw [reads] at isReport
      obtain rfl := Option.some.inj isReport
      exact ⟨rfl, rfl⟩

/-- **Names identify the files that are selected.** In front of the name of a selected file the
workspace gives a path that means the path of the file, and two selected files never have names that
mean the same. The reports of a run on these files have such names: each of them names a selected
file, with the text that was read from it, and no two name the same. -/
theorem reports_identify (absolute : workspace.isAbsolute = true)
    (selects : selectFiles files workspace paths ignored = .ok selected) :
    (∀ path ∈ selected,
        (workspace.join (shownPath workspace path)).components = path.components) ∧
      (selected.Pairwise fun path other =>
        (shownPath workspace path).components ≠ (shownPath workspace other).components) ∧
      ∀ (session : Session) (arguments : Arguments),
        session.workspace = workspace → session.selected = selected →
          (∀ report ∈ session.reports files arguments, ∃ path ∈ selected,
            (workspace.join report.path).components = path.components ∧
              files.readText path = .ok report.source) ∧
          (session.reports files arguments).Pairwise fun report other =>
            report.path.components ≠ other.path.components := by
  have back : ∀ path ∈ selected,
      (workspace.join (shownPath workspace path)).components = path.components :=
    fun path member => components_join_shownPath absolute
      (isAbsolute_of_mem_selected absolute selects member)
  have apart := selected_apart absolute selects
  refine ⟨back, apart, ?_⟩
  rintro session arguments rfl rfl
  constructor
  · intro report member
    obtain ⟨path, isSelected, isReport⟩ := List.mem_filterMap.mp member
    obtain ⟨name, reads⟩ := Session.report?_eq_some isReport
    exact ⟨path, isSelected, by rw [name, back path isSelected], reads⟩
  · unfold Session.reports
    rw [List.pairwise_filterMap]
    refine apart.imp fun different report isReport other isOther => ?_
    rw [(Session.report?_eq_some isReport).1, (Session.report?_eq_some isOther).1]
    exact different

theorem reports_identify_nestedSheets :
    (Path.mk "/b/./").isAbsolute = true ∧
      selectFiles nestedSheets ⟨"/b/./"⟩ [⟨"../a.css"⟩, ⟨"/b//c.css"⟩] .default =
        .ok [⟨"/b/./../a.css"⟩, ⟨"/b//c.css"⟩] ∧
      ((Path.mk "/b/./").join (shownPath ⟨"/b/./"⟩ ⟨"/b//c.css"⟩)).components =
        (Path.mk "/b//c.css").components ∧
      (shownPath ⟨"/b/./"⟩ ⟨"/b/./../a.css"⟩).components ≠
        (shownPath ⟨"/b/./"⟩ ⟨"/b//c.css"⟩).components := by
  have absolute : (Path.mk "/b/./").isAbsolute = true := by decide +kernel
  have selects : selectFiles nestedSheets ⟨"/b/./"⟩ [⟨"../a.css"⟩, ⟨"/b//c.css"⟩] .default =
      .ok [⟨"/b/./../a.css"⟩, ⟨"/b//c.css"⟩] := by decide +kernel
  obtain ⟨back, apart, _⟩ := reports_identify absolute selects
  exact ⟨absolute, selects, back _ (by simp),
    (List.pairwise_cons.mp apart).1 _ (List.mem_singleton_self _)⟩

end Selected

end StyleBaseline
