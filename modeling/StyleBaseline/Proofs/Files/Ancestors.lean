/-
**The paths above a path.** The path above another one means the same without the last component, so
that there are as many of them as there are components: the walk upwards never ends too early.

* `Path.components_parent?` — what the path above means.
* `Path.ancestors_eq` — the paths above, from a path upwards.
-/

import Mathlib.Data.List.Basic
import StyleBaseline.Proofs.Files.Shown

namespace StyleBaseline

/-- What is left of pieces without the silent ones at the end ends in a piece that is not silent. -/
theorem visible_of_dropSilentEnd {pieces front : List String} {last : String}
    (left : dropSilentEnd pieces = front ++ [last]) : isSilent last = false := by
  have reversed : pieces.reverse.dropWhile isSilent = last :: front.reverse := by
    rw [← List.reverse_reverse (pieces.reverse.dropWhile isSilent), ← dropSilentEnd, left,
      List.reverse_concat]
  have notFirst := List.head?_dropWhile_not isSilent pieces.reverse
  rw [reversed] at notFirst
  simpa using notFirst

/-- The first pieces of a path without a beginning have none, too. -/
theorem Path.partsOfPieces_of_isPrefix {front pieces : List String} (begins : front <+: pieces)
    (any : front ≠ []) (nothing : (partsOfPieces pieces).1 = .nothing) :
    partsOfPieces front = (.nothing, front) := by
  obtain ⟨rest, rfl⟩ := begins
  unfold partsOfPieces at nothing ⊢
  split
  next => exact nomatch nothing
  next => exact nomatch nothing
  next => rfl

theorem exists_pieceComponent? {piece : String} (visible : isSilent piece = false) :
    ∃ component, pieceComponent? piece = some component := by
  rw [pieceComponent?, if_neg (by rw [visible]; exact Bool.false_ne_true)]
  split <;> exact ⟨_, rfl⟩

namespace Path

variable {path above : Path}

@[simp]
theorem pieces_rooted (text : String) :
    (Path.mk ("/" ++ text)).pieces = "" :: (Path.mk text).pieces := by
  rw [pieces, String.toList_append, show "/".toList = ['/'] from rfl, List.singleton_append,
    slashPieces_slash]
  rfl

@[simp]
theorem pieces_current (text : String) :
    (Path.mk ("./" ++ text)).pieces = "." :: (Path.mk text).pieces := by
  rw [pieces, String.toList_append, show "./".toList = ['.', '/'] from rfl, List.cons_append,
    List.singleton_append, slashPieces_cons (by decide), slashPieces_slash]
  rfl

theorem parts_of_pieces {pieces : List String} (same : path.pieces = pieces) :
    path.parts = partsOfPieces pieces := by
  rw [parts_eq, same]

/-- **What the first pieces of a path mean**, behind its beginning. -/
theorem components_leadPath {front : List String} (begins : front <+: path.parts.2) :
    (path.parts.1.path front).components =
      path.parts.1.component?.toList ++ front.filterMap pieceComponent? := by
  have noSlash : ∀ piece ∈ front, '/' ∉ piece.toList := fun piece member =>
    noSlash_of_mem_pieces (path.mem_pieces (begins.subset member))
  by_cases none : front = []
  · rw [none]
    cases path.parts.1 <;> rfl
  · have read : (Path.mk (joinPieces front)).pieces = front := pieces_joinPieces none noSlash
    have parts : (path.parts.1.path front).parts = (path.parts.1, front) := by
      cases lead : path.parts.1 with
      | root =>
          have pieces : (Lead.root.path front).pieces = "" :: front := by
            rw [Lead.path, pieces_rooted, read]
          rw [parts_of_pieces pieces, partsOfPieces_root none]
      | current =>
          have pieces : (Lead.current.path front).pieces = "." :: front := by
            rw [Lead.path, if_neg (by simpa using none), pieces_current, read]
          rw [parts_of_pieces pieces, partsOfPieces]
      | nothing =>
          have nothing : (partsOfPieces path.pieces).1 = .nothing := by rw [← parts_eq, lead]
          have whole : path.parts.2 = path.pieces := by
            rw [parts_eq, partsOfPieces_of_nothing nothing]
          rw [Lead.path, parts_of_pieces read]
          exact partsOfPieces_of_isPrefix (whole ▸ begins) none nothing
    rw [components, parts]

/-- **The path above** means the same without the last component. -/
theorem components_parent? (isAbove : path.parent? = some above) :
    path.components ≠ [] ∧ above.components = path.components.dropLast := by
  rw [parent?] at isAbove
  have same : path.components =
      path.parts.1.component?.toList ++ (dropSilentEnd path.parts.2).filterMap pieceComponent? := by
    simp [components]
  split at isAbove
  next none =>
    split at isAbove
    next current =>
      obtain rfl := Option.some.inj isAbove
      rw [same, none, current]
      exact ⟨List.cons_ne_nil _ _, rfl⟩
    next => cases isAbove
  next any =>
    obtain rfl := Option.some.inj isAbove
    obtain ⟨front, last, left⟩ :=
      (List.eq_nil_or_concat' (dropSilentEnd path.parts.2)).resolve_left any
    obtain ⟨component, means⟩ := exists_pieceComponent? (visible_of_dropSilentEnd left)
    have ends : path.components =
        (path.parts.1.component?.toList ++ front.filterMap pieceComponent?) ++ [component] := by
      rw [same, left, List.filterMap_append, List.filterMap_cons_some means, List.filterMap_nil,
        List.append_assoc]
    have begins : dropSilentEnd front <+: path.parts.2 :=
      ((dropSilentEnd_isPrefix front).trans ⟨[last], left.symm⟩).trans (dropSilentEnd_isPrefix _)
    rw [left, List.dropLast_concat, components_leadPath begins, filterMap_dropSilentEnd, ends,
      List.dropLast_concat]
    exact ⟨by simp, rfl⟩

/-- **The paths above a path**: the walk upwards ends where there is no path above. -/
theorem ancestors_eq (path : Path) :
    path.ancestors = path :: (path.parent?.map ancestors).getD [] := by
  rw [ancestors]
  cases isAbove : path.parent? with
  | none => cases path.components.length <;> simp [ancestorsUpTo, isAbove]
  | some above =>
      obtain ⟨any, components⟩ := components_parent? isAbove
      have length : path.components.length = above.components.length + 1 := by
        rw [components, List.length_dropLast]
        have positive := List.length_pos_of_ne_nil any
        omega
      rw [length, ancestorsUpTo, isAbove]
      rfl

end Path

end StyleBaseline
