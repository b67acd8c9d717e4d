/-
**Paths as they are shown.** A path is shown as it is spelled behind the workspace. Which pieces
that leaves depends on the spelling, but what they mean does not: it is what the path means, without
what the workspace means.

* `Path.steps` — what a path means, without its beginning.
* `Path.piecesBehind?_eq_some`, `Path.isSome_piecesBehind?` — what stands behind given components.
* `Path.pieces_joinPieces` — pieces are read back from a path that is made of them.
* `steps_of_inside`, `shownPath_of_outside` — what a path means as it is shown.
-/

import Mathlib.Data.List.Basic
import StyleBaseline.Files.Selection
import StyleBaseline.Proofs.Files.Joining

namespace StyleBaseline

theorem eq_of_pieceComponent?_name {piece name : String}
    (means : pieceComponent? piece = some (.name name)) : piece = name := by
  rw [pieceComponent?] at means
  split at means
  · cases means
  · split at means
    · cases means
    · exact Component.name.inj (Option.some.inj means)

namespace Path

/-! ### Steps -/

/-- What a path means, without its beginning. -/
def steps (path : Path) : List Component :=
  path.parts.2.filterMap pieceComponent?

theorem components_eq (path : Path) :
    path.components = path.parts.1.component?.toList ++ path.steps :=
  rfl

/-- The pieces of a path are those behind its beginning, and perhaps a silent one before. -/
theorem pieces_eq (path : Path) : path.pieces = path.parts.2 ∨
    ∃ piece, isSilent piece = true ∧ path.pieces = piece :: path.parts.2 := by
  rw [parts_eq]
  unfold partsOfPieces
  split
  next root => exact .inr ⟨"", rfl, root⟩
  next current => exact .inr ⟨".", rfl, current⟩
  next => exact .inl rfl

theorem mem_pieces (path : Path) {piece : String} (member : piece ∈ path.parts.2) :
    piece ∈ path.pieces := by
  rcases path.pieces_eq with same | ⟨_, _, more⟩
  · exact same ▸ member
  · exact more ▸ List.mem_cons_of_mem _ member

@[simp]
theorem filterMap_pieces (path : Path) : path.pieces.filterMap pieceComponent? = path.steps := by
  rcases path.pieces_eq with same | ⟨piece, silent, more⟩
  · rw [same, steps]
  · rw [more, List.filterMap_cons_none (pieceComponent?_of_isSilent silent), steps]

/-- Steps are neither the root nor the dot at the beginning. -/
theorem mem_steps {path : Path} {component : Component} (member : component ∈ path.steps) :
    component ≠ .root ∧ component ≠ .current := by
  obtain ⟨piece, _, means⟩ := List.mem_filterMap.mp member
  rw [pieceComponent?] at means
  split at means
  · cases means
  · split at means <;> obtain rfl := Option.some.inj means <;> simp

/-- **Paths that mean the same** have the same beginning and the same steps. -/
theorem components_eq_iff {first second : Path} : first.components = second.components ↔
    first.parts.1 = second.parts.1 ∧ first.steps = second.steps := by
  constructor
  · intro same
    rw [components_eq, components_eq] at same
    have noRoot := fun (path : Path) (member : Component.root ∈ path.steps) =>
      (mem_steps member).1 rfl
    have noCurrent := fun (path : Path) (member : Component.current ∈ path.steps) =>
      (mem_steps member).2 rfl
    cases lead : first.parts.1 <;> cases otherLead : second.parts.1 <;>
      simp only [lead, otherLead, Lead.component?, Option.toList_some, Option.toList_none,
        List.nil_append, List.singleton_append, List.cons.injEq, true_and, reduceCtorEq,
        false_and] at same ⊢
    · exact same
    · exact noRoot second (same ▸ List.mem_cons_self)
    · exact same
    · exact noCurrent second (same ▸ List.mem_cons_self)
    · exact noRoot first (same ▸ List.mem_cons_self)
    · exact noCurrent first (same ▸ List.mem_cons_self)
    · exact same
  · rintro ⟨lead, steps⟩
    rw [components_eq, components_eq, lead, steps]

/-! ### Behind given components -/

/-- What stands behind given components. -/
theorem piecesBehind?_eq_some {components : List Component} {pieces behind : List String}
    (found : piecesBehind? components pieces = some behind) :
    ∃ front, pieces = front ++ behind ∧ front.filterMap pieceComponent? = components := by
  induction components, pieces using piecesBehind?.induct with
  | case1 pieces => exact ⟨[], (Option.some.inj (piecesBehind?.eq_1 pieces ▸ found)), rfl⟩
  | case2 => exact nomatch found
  | case3 component components piece pieces silent ih =>
      rw [piecesBehind?, silent] at found
      obtain ⟨front, rfl, means⟩ := ih found
      exact ⟨piece :: front, rfl, by rw [List.filterMap_cons_none silent, means]⟩
  | case4 components piece pieces component means ih =>
      rw [piecesBehind?, means] at found
      obtain ⟨front, rfl, others⟩ := ih (by simpa using found)
      exact ⟨piece :: front, rfl, by rw [List.filterMap_cons_some means, others]⟩
  | case5 component components piece pieces other means different =>
      simp only [piecesBehind?, means, if_neg different] at found
      exact nomatch found

/-- Something stands behind given components if they come first. -/
theorem isSome_piecesBehind? (components : List Component) (pieces : List String) :
    (piecesBehind? components pieces).isSome = true ↔
      components <+: pieces.filterMap pieceComponent? := by
  induction components, pieces using piecesBehind?.induct with
  | case1 pieces => simp [piecesBehind?]
  | case2 component components => simp [piecesBehind?]
  | case3 component components piece pieces silent ih =>
      rw [piecesBehind?, silent, List.filterMap_cons_none silent]
      exact ih
  | case4 components piece pieces component means ih =>
      rw [piecesBehind?, means, List.filterMap_cons_some means, List.cons_prefix_cons]
      simpa using ih
  | case5 component components piece pieces other means different =>
      rw [piecesBehind?, means, List.filterMap_cons_some means, List.cons_prefix_cons]
      simp [different, Ne.symm different]

/-! ### Pieces put together -/

theorem noSlash_of_mem_pieces {path : Path} {piece : String} (member : piece ∈ path.pieces) :
    '/' ∉ piece.toList := by
  obtain ⟨cs, isPiece, rfl⟩ := List.mem_map.mp member
  rw [String.toList_ofList]
  exact notMem_of_mem_slashPieces isPiece

/-- **Pieces are read back** from a path that is made of them. -/
theorem pieces_joinPieces {list : List String} (any : list ≠ [])
    (noSlash : ∀ piece ∈ list, '/' ∉ piece.toList) : (Path.mk (joinPieces list)).pieces = list := by
  obtain ⟨piece, others, rfl⟩ := List.exists_cons_of_ne_nil any
  clear any
  induction others generalizing piece with
  | nil =>
      rw [joinPieces, String.intercalate_singleton]
      exact pieces_of_noSlash (noSlash piece List.mem_cons_self)
  | cons next others ih =>
      obtain ⟨plain, othersPlain⟩ := List.forall_mem_cons.mp noSlash
      have goesOn : (slashPieces (joinPieces (next :: others)).toList).map String.ofList =
          next :: others := ih next othersPlain
      rw [pieces, joinPieces, String.intercalate_cons_cons, String.toList_append,
        String.toList_append, show "/".toList = ['/'] from rfl, List.append_assoc,
        List.singleton_append, slashPieces_append_slash, slashPieces_of_noSlash plain,
        List.map_append, ← joinPieces, goesOn, List.map_singleton, String.ofList_toList]
      rfl

/-- A path that is made of pieces has no beginning of its own if the first piece is not silent, and
its steps are what the pieces mean. -/
theorem steps_joinPieces {pieces : List String} (noSlash : ∀ piece ∈ pieces, '/' ∉ piece.toList)
    (begins : ∀ piece ∈ pieces.head?, isSilent piece = false) :
    (Path.mk (joinPieces pieces)).parts.1 = .nothing ∧
      (Path.mk (joinPieces pieces)).steps = pieces.filterMap pieceComponent? := by
  cases pieces with
  | nil => exact ⟨rfl, rfl⟩
  | cons piece others =>
      have read := pieces_joinPieces (List.cons_ne_nil piece others) noSlash
      refine ⟨?_, by rw [← filterMap_pieces, read]⟩
      rw [parts_eq, read, partsOfPieces_other (begins piece rfl)]

end Path

/-! ### As it is shown -/

/-- Silent pieces at the front mean nothing. -/
@[simp]
theorem filterMap_dropWhile_isSilent (pieces : List String) :
    (pieces.dropWhile isSilent).filterMap pieceComponent? = pieces.filterMap pieceComponent? := by
  induction pieces with
  | nil => rfl
  | cons piece pieces ih =>
      by_cases silent : isSilent piece = true
      · rw [List.dropWhile_cons_of_pos silent, ih,
          List.filterMap_cons_none (pieceComponent?_of_isSilent silent)]
      · rw [List.dropWhile_cons_of_neg silent]

/-- Silent pieces at the end mean nothing. -/
@[simp]
theorem filterMap_dropSilentEnd (pieces : List String) :
    (dropSilentEnd pieces).filterMap pieceComponent? = pieces.filterMap pieceComponent? := by
  rw [dropSilentEnd, List.filterMap_reverse, filterMap_dropWhile_isSilent, ← List.filterMap_reverse,
    List.reverse_reverse]

theorem dropSilentEnd_isPrefix (pieces : List String) : dropSilentEnd pieces <+: pieces := by
  rw [dropSilentEnd, ← List.reverse_suffix, List.reverse_reverse]
  exact List.dropWhile_suffix _

theorem dropSilentEnd_concat {piece : String} (visible : isSilent piece = false)
    (pieces : List String) : dropSilentEnd (pieces ++ [piece]) = pieces ++ [piece] := by
  rw [dropSilentEnd, List.reverse_concat, List.dropWhile_cons_of_neg (by simp [visible]),
    List.reverse_cons, List.reverse_reverse]

theorem dropWhile_isSilent_concat {piece : String} (visible : isSilent piece = false)
    (pieces : List String) :
    (pieces ++ [piece]).dropWhile isSilent = pieces.dropWhile isSilent ++ [piece] := by
  rw [List.dropWhile_append]
  split
  next all => rw [List.isEmpty_iff.mp all, List.dropWhile_cons_of_neg (by simp [visible])]; rfl
  next => rfl

theorem mem_filterMap_pieceComponent?_iff {name : String} (isName : NameText name)
    (pieces : List String) : .name name ∈ pieces.filterMap pieceComponent? ↔ name ∈ pieces := by
  rw [List.mem_filterMap]
  constructor
  · rintro ⟨piece, member, means⟩
    exact eq_of_pieceComponent?_name means ▸ member
  · exact fun member => ⟨name, member, isName.pieceComponent?_eq⟩

/-- A path that ends in a name. -/
def Path.EndsInName (path : Path) : Prop :=
  ∃ front name, NameText name ∧ path.pieces = front ++ [name]

theorem Path.endsInName_descend (root : Path) {names : List String}
    (areNames : ∀ name ∈ names, NameText name) (any : names ≠ []) :
    (root.descend names).EndsInName := by
  obtain ⟨front, last, rfl⟩ := (List.eq_nil_or_concat' names).resolve_left any
  have isLast : NameText last := areNames last (List.mem_append_right _ List.mem_cons_self)
  have parts := congrArg Prod.snd (parts_descend root areNames any)
  rw [← List.append_assoc] at parts
  rcases (root.descend (front ++ [last])).pieces_eq with same | ⟨piece, _, more⟩
  · exact ⟨_, last, isLast, same.trans parts⟩
  · exact ⟨piece :: _, last, isLast, by rw [more, parts, List.cons_append]⟩

/-- The names before the last piece of a path are those before its last step. -/
theorem mem_dropLast_pieces_iff {path : Path} (ends : path.EndsInName) {name : String}
    (isName : NameText name) : name ∈ path.pieces.dropLast ↔ .name name ∈ path.steps.dropLast := by
  obtain ⟨front, last, isLast, pieces⟩ := ends
  rw [← Path.filterMap_pieces, pieces, List.dropLast_concat, List.filterMap_append,
    List.filterMap_cons_some isLast.pieceComponent?_eq, List.filterMap_nil, List.dropLast_concat,
    mem_filterMap_pieceComponent?_iff isName]

/-- Whether a path lies inside the workspace, as far as one sees from what both mean. -/
def LiesInside (workspace path : Path) : Prop :=
  workspace.parts.1 = path.parts.1 ∧ workspace.steps <+: path.steps

theorem shownPath_of_outside {workspace path : Path} (outside : ¬LiesInside workspace path) :
    shownPath workspace path = path := by
  rw [shownPath, Path.relativeTo?]
  split
  next lead =>
    have none : ¬(Path.piecesBehind? workspace.steps path.parts.2).isSome = true := fun found =>
      outside ⟨lead, (Path.isSome_piecesBehind? _ _).mp found⟩
    rw [← Path.steps, Option.not_isSome_iff_eq_none.mp none]
    rfl
  next => rfl

/-- Of a path inside the workspace those pieces are shown that stand behind what the workspace
means. -/
theorem exists_pieces_of_inside {workspace path : Path} (inside : LiesInside workspace path) :
    ∃ before behind, path.parts.2 = before ++ behind ∧
      before.filterMap pieceComponent? = workspace.steps ∧
      shownPath workspace path = ⟨joinPieces (dropSilentEnd (behind.dropWhile isSilent))⟩ := by
  obtain ⟨lead, begins⟩ := inside
  obtain ⟨behind, found⟩ := Option.isSome_iff_exists.mp
    ((Path.isSome_piecesBehind? workspace.steps path.parts.2).mpr begins)
  obtain ⟨before, cut, means⟩ := Path.piecesBehind?_eq_some found
  refine ⟨before, behind, cut, means, ?_⟩
  rw [shownPath, Path.relativeTo?, if_pos lead, ← Path.steps, found]
  rfl

/-- **A path inside the workspace** loses its beginning and the steps of the workspace. -/
theorem steps_of_inside {workspace path : Path} (inside : LiesInside workspace path) :
    (shownPath workspace path).isAbsolute = false ∧
      workspace.steps ++ (shownPath workspace path).steps = path.steps := by
  obtain ⟨front, behind, cut, means, shown⟩ := exists_pieces_of_inside inside
  have isPrefix := dropSilentEnd_isPrefix (behind.dropWhile isSilent)
  have noSlash : ∀ piece ∈ dropSilentEnd (behind.dropWhile isSilent), '/' ∉ piece.toList := by
    intro piece member
    have inBehind := (List.dropWhile_suffix _).subset (isPrefix.subset member)
    exact Path.noSlash_of_mem_pieces (path.mem_pieces (cut ▸ List.mem_append_right front inBehind))
  have visible : ∀ piece ∈ (dropSilentEnd (behind.dropWhile isSilent)).head?,
      isSilent piece = false := by
    intro piece first
    obtain ⟨others, whole⟩ := List.head?_eq_some_iff.mp first
    obtain ⟨rest, split⟩ := isPrefix
    have notFirst := List.head?_dropWhile_not isSilent behind
    rw [← split, whole] at notFirst
    simpa using notFirst
  obtain ⟨nothing, steps⟩ := Path.steps_joinPieces noSlash visible
  refine ⟨?_, ?_⟩
  · rw [shown, Path.isAbsolute, nothing]
    rfl
  · rw [shown, steps, filterMap_dropSilentEnd, filterMap_dropWhile_isSilent, ← means, Path.steps,
      cut, List.filterMap_append]

/-- A path inside the workspace that ends in a name does so as it is shown, too, if anything is left
of it. -/
theorem endsInName_of_inside {workspace path : Path} (ends : path.EndsInName)
    (inside : LiesInside workspace path) :
    (shownPath workspace path).EndsInName ∨ shownPath workspace path = ⟨""⟩ := by
  obtain ⟨before, behind, cut, _, shown⟩ := exists_pieces_of_inside inside
  rcases List.eq_nil_or_concat' behind with rfl | ⟨middle, last, rfl⟩
  · exact .inr shown
  · have subset : ∀ piece ∈ middle ++ [last], piece ∈ path.pieces := fun piece member =>
      path.mem_pieces (cut ▸ List.mem_append_right before member)
    have isLast : NameText last := by
      obtain ⟨front, name, isName, pieces⟩ := ends
      have same : path.pieces.getLast? = some last := by
        rcases path.pieces_eq with same | ⟨_, _, more⟩
        · rw [same, cut, ← List.append_assoc, List.getLast?_concat]
        · rw [more, cut, ← List.append_assoc, ← List.cons_append, List.getLast?_concat]
      rw [pieces, List.getLast?_concat] at same
      exact Option.some.inj same ▸ isName
    rw [dropWhile_isSilent_concat isLast.visible, dropSilentEnd_concat isLast.visible] at shown
    refine .inl ⟨middle.dropWhile isSilent, last, isLast, ?_⟩
    rw [shown]
    refine Path.pieces_joinPieces (by simp) fun piece member => ?_
    refine Path.noSlash_of_mem_pieces (subset piece ?_)
    rcases List.mem_append.mp member with inMiddle | isLast
    · exact List.mem_append_left _ ((List.dropWhile_suffix _).subset inMiddle)
    · exact List.mem_append_right _ isLast

/-- What a path means as it is shown depends only on what it means. -/
theorem steps_shownPath_congr {workspace path other : Path}
    (same : path.components = other.components) :
    (shownPath workspace path).steps = (shownPath workspace other).steps := by
  obtain ⟨sameLead, sameSteps⟩ := Path.components_eq_iff.mp same
  by_cases inside : LiesInside workspace path
  · have otherInside : LiesInside workspace other :=
      ⟨sameLead ▸ inside.1, sameSteps ▸ inside.2⟩
    refine List.append_cancel_left (?_ : workspace.steps ++ _ = workspace.steps ++ _)
    rw [(steps_of_inside inside).2, (steps_of_inside otherInside).2, sameSteps]
  · have otherOutside : ¬LiesInside workspace other := fun otherInside =>
      inside ⟨sameLead ▸ otherInside.1, sameSteps ▸ otherInside.2⟩
    rw [shownPath_of_outside inside, shownPath_of_outside otherOutside, sameSteps]

/-- As it is shown, a path ends in a name, too, if anything is left of it. -/
theorem endsInName_shownPath (workspace : Path) {path : Path} (ends : path.EndsInName) :
    (shownPath workspace path).EndsInName ∨ shownPath workspace path = ⟨""⟩ := by
  by_cases inside : LiesInside workspace path
  · exact endsInName_of_inside ends inside
  · rw [shownPath_of_outside inside]
    exact .inl ends

end StyleBaseline
