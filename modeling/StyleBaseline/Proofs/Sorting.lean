/-
**Sorted lists.** Items that are picked out in ascending order are not moved among themselves when
all are put in order by a key. Where items that are equal count once, the order in which the others
come does not matter.

* `sortByKey_eq_insertionSort` — the order by a key as the sorting of the library.
* `filter_sortByKey` — what is in order stays as it is.
* `pairwise_sortByKey`, `map_sortByKey` — the result is in order, and a map that keeps the keys can
  be applied before or after.
* `sortDistinct_ascending`, `exists_eq_sortDistinct_iff` — each of the items once, in order.
* `mem_sortDistinct_iff` — of items that are equal the first is kept.
* `sortDistinct_append_perm` — different items in another order give the same result.
-/

import Mathlib.Data.List.Sort
import StyleBaseline.Sorting

namespace StyleBaseline

variable {α : Type} {key : α → Nat}

/-! ### The stable order by a key -/

theorem insertByKey_eq_orderedInsert (item : α) (items : List α) :
    insertByKey key item items =
      items.orderedInsert (fun first second => key first ≤ key second) item := by
  induction items with
  | nil => rfl
  | cons first rest ih => rw [insertByKey, List.orderedInsert_cons, ih]

theorem sortByKey_eq_insertionSort (items : List α) :
    sortByKey key items = items.insertionSort fun first second => key first ≤ key second := by
  induction items with
  | nil => rfl
  | cons first rest ih =>
      rw [List.insertionSort_cons, ← ih, ← insertByKey_eq_orderedInsert]
      rfl

theorem sortByKey_perm (items : List α) : (sortByKey key items).Perm items := by
  rw [sortByKey_eq_insertionSort]
  exact List.perm_insertionSort _ items

theorem pairwise_sortByKey (items : List α) :
    (sortByKey key items).Pairwise fun first second => key first ≤ key second := by
  have total : Std.Total fun first second : α => key first ≤ key second :=
    ⟨fun first second => Nat.le_total (key first) (key second)⟩
  have trans : IsTrans α fun first second => key first ≤ key second :=
    ⟨fun _ _ _ below above => Nat.le_trans below above⟩
  rw [sortByKey_eq_insertionSort]
  exact List.pairwise_insertionSort _ items

theorem map_sortByKey {f : α → α} (keeps : ∀ item, key (f item) = key item) (items : List α) :
    (sortByKey key items).map f = sortByKey key (items.map f) := by
  rw [sortByKey_eq_insertionSort, sortByKey_eq_insertionSort]
  refine List.map_insertionSort _ _ f items fun first _ second _ => ?_
  rw [keeps, keeps]

/-- **What is in order stays as it is**: of the items that are picked, if they are in ascending
order already, none overtakes another. -/
theorem filter_sortByKey {items : List α} {pick : α → Bool}
    (ascending : (items.filter pick).Pairwise fun first second => key first ≤ key second) :
    (sortByKey key items).filter pick = items.filter pick := by
  have within : (items.filter pick).Sublist (sortByKey key items) := by
    rw [sortByKey_eq_insertionSort]
    exact List.sublist_insertionSort ascending List.filter_sublist
  have picked : (items.filter pick).Sublist ((sortByKey key items).filter pick) := by
    have again := within.filter pick
    simpa only [List.filter_filter, Bool.and_self] using again
  exact (picked.eq_of_length ((sortByKey_perm items).filter pick).length_eq.symm).symm

/-! ### Distinct items in ascending order -/

section Distinct

variable {order : α → α → Ordering} {items : List α} {item other : α}

theorem mem_insertDistinct (member : other ∈ insertDistinct order item items) :
    other = item ∨ other ∈ items := by
  induction items with
  | nil => exact .inl (List.mem_singleton.mp member)
  | cons first rest ih =>
      rw [insertDistinct] at member
      split at member
      · exact List.mem_cons.mp member
      · exact (List.mem_cons.mp member).imp_right (List.mem_cons_of_mem _)
      · rcases List.mem_cons.mp member with rfl | later
        · exact .inr List.mem_cons_self
        · exact (ih later).imp_right (List.mem_cons_of_mem _)

theorem sortDistinct_subset (items : List α) : sortDistinct order items ⊆ items := by
  induction items with
  | nil => exact List.Subset.refl []
  | cons first rest ih =>
      intro other member
      rcases mem_insertDistinct member with rfl | later
      · exact List.mem_cons_self
      · exact List.mem_cons_of_mem _ (ih later)

variable [Std.TransCmp order]

theorem insertDistinct_ascending (item : α)
    (ascending : items.Pairwise fun first second => order first second = .lt) :
    (insertDistinct order item items).Pairwise fun first second => order first second = .lt := by
  induction items with
  | nil => exact List.pairwise_singleton _ item
  | cons first rest ih =>
      obtain ⟨below, restAscending⟩ := List.pairwise_cons.mp ascending
      rw [insertDistinct]
      split
      next before =>
        refine List.pairwise_cons.mpr ⟨fun other member => ?_, ascending⟩
        rcases List.mem_cons.mp member with rfl | later
        · exact before
        · exact Std.TransCmp.lt_trans before (below other later)
      next same =>
        refine List.pairwise_cons.mpr ⟨fun other member => ?_, restAscending⟩
        exact Std.TransCmp.lt_of_eq_of_lt same (below other member)
      next behind =>
        refine List.pairwise_cons.mpr ⟨fun other member => ?_, ih restAscending⟩
        rcases mem_insertDistinct member with rfl | later
        · exact Std.OrientedCmp.lt_of_gt behind
        · exact below other later

/-- **The items stand in strictly ascending order.** -/
theorem sortDistinct_ascending (items : List α) :
    (sortDistinct order items).Pairwise fun first second => order first second = .lt := by
  induction items with
  | nil => exact List.Pairwise.nil
  | cons first rest ih => exact insertDistinct_ascending first ih

theorem exists_eq_insertDistinct_iff (item : α) (items : List α) :
    (∃ found ∈ insertDistinct order item items, order found other = .eq) ↔
      order item other = .eq ∨ ∃ found ∈ items, order found other = .eq := by
  induction items with
  | nil => simp [insertDistinct]
  | cons first rest ih =>
      rw [insertDistinct]
      split
      next => simp
      next same =>
        have first_eq : order first other = .eq ↔ order item other = .eq := by
          rw [Std.TransCmp.congr_left same]
        simp [first_eq]
      next => simp only [List.exists_mem_cons_iff, ih, or_left_comm]

/-- **Nothing is lost** but what is equal to something that is kept. -/
theorem exists_eq_sortDistinct_iff (items : List α) :
    (∃ found ∈ sortDistinct order items, order found other = .eq) ↔
      ∃ found ∈ items, order found other = .eq := by
  induction items with
  | nil => exact Iff.rfl
  | cons first rest ih =>
      rw [List.exists_mem_cons_iff, ← ih]
      exact exists_eq_insertDistinct_iff first (sortDistinct order rest)

/-- Among ascending items an item takes the place of those that are equal to it. -/
theorem mem_insertDistinct_iff
    (ascending : items.Pairwise fun first second => order first second = .lt) :
    other ∈ insertDistinct order item items ↔
      other = item ∨ (other ∈ items ∧ order item other ≠ .eq) := by
  induction items with
  | nil => simp [insertDistinct]
  | cons first rest ih =>
      obtain ⟨below, restAscending⟩ := List.pairwise_cons.mp ascending
      -- What stands behind an item that is not before `first` is not equal to it.
      have apart : order item first ≠ .gt → ∀ later ∈ rest, order item later ≠ .eq := by
        intro notBehind later member
        have before : order item later = .lt :=
          Std.TransCmp.lt_of_isLE_of_lt (Ordering.isLE_iff_ne_gt.mpr notBehind) (below later member)
        rw [before]
        exact nofun
      cases compared : order item first with
      | lt =>
          simp only [insertDistinct, compared, List.mem_cons]
          refine or_congr_right ⟨?_, And.left⟩
          rintro (rfl | later)
          · exact ⟨.inl rfl, by rw [compared]; exact nofun⟩
          · exact ⟨.inr later, apart (by rw [compared]; exact nofun) other later⟩
      | eq =>
          simp only [insertDistinct, compared, List.mem_cons]
          refine or_congr_right ⟨fun later => ?_, ?_⟩
          · exact ⟨.inr later, apart (by rw [compared]; exact nofun) other later⟩
          · rintro ⟨rfl | later, different⟩
            · exact absurd compared different
            · exact later
      | gt =>
          simp only [insertDistinct, compared, List.mem_cons, ih restAscending]
          constructor
          · rintro (rfl | same | ⟨later, different⟩)
            · exact .inr ⟨.inl rfl, by rw [compared]; exact nofun⟩
            · exact .inl same
            · exact .inr ⟨.inr later, different⟩
          · rintro (same | ⟨rfl | later, different⟩)
            · exact .inr (.inl same)
            · exact .inl rfl
            · exact .inr (.inr ⟨later, different⟩)

/-- **Of items that are equal the first is kept.** -/
theorem mem_sortDistinct_iff (items : List α) :
    other ∈ sortDistinct order items ↔
      items.find? (fun item => order item other = .eq) = some other := by
  induction items with
  | nil => simp [sortDistinct]
  | cons first rest ih =>
      have step : other ∈ sortDistinct order (first :: rest) ↔
          other = first ∨ (other ∈ sortDistinct order rest ∧ order first other ≠ .eq) :=
        mem_insertDistinct_iff (sortDistinct_ascending rest)
      rw [step, List.find?_cons, ih]
      by_cases same : order first other = .eq
      · simp [same, eq_comm]
      · have different : other ≠ first := by
          rintro rfl
          exact same Std.ReflCmp.compare_self
        simp [same, different]

theorem insertDistinct_comm_of_lt (before : order item other = .lt) (items : List α) :
    insertDistinct order item (insertDistinct order other items) =
      insertDistinct order other (insertDistinct order item items) := by
  have behind : order other item = .gt := Std.OrientedCmp.gt_of_lt before
  induction items with
  | nil => simp only [insertDistinct, before, behind]
  | cons first rest ih =>
      cases otherFirst : order other first with
      | lt =>
          have itemFirst : order item first = .lt := Std.TransCmp.lt_trans before otherFirst
          simp only [insertDistinct, otherFirst, itemFirst, before, behind]
      | eq =>
          have itemFirst : order item first = .lt := Std.TransCmp.lt_of_lt_of_eq before otherFirst
          simp only [insertDistinct, otherFirst, itemFirst, before, behind]
      | gt =>
          cases itemFirst : order item first <;>
            simp only [insertDistinct, otherFirst, itemFirst, behind, ih]

/-- Two items that are not equal find their places in either order. -/
theorem insertDistinct_comm (apart : order item other ≠ .eq) (items : List α) :
    insertDistinct order item (insertDistinct order other items) =
      insertDistinct order other (insertDistinct order item items) := by
  cases compared : order item other with
  | lt => exact insertDistinct_comm_of_lt compared items
  | eq => exact absurd compared apart
  | gt => exact (insertDistinct_comm_of_lt (Std.OrientedCmp.lt_of_gt compared) items).symm

/-- **The order of different items does not matter.** -/
theorem sortDistinct_append_perm {reordered behind otherBehind : List α}
    (perm : items.Perm reordered)
    (apart : ∀ first ∈ items, ∀ second ∈ items, order first second = .eq → first = second)
    (same : sortDistinct order behind = sortDistinct order otherBehind) :
    sortDistinct order (items ++ behind) = sortDistinct order (reordered ++ otherBehind) := by
  have either : ∀ first ∈ items, ∀ second ∈ items, ∀ sorted,
      insertDistinct order second (insertDistinct order first sorted) =
        insertDistinct order first (insertDistinct order second sorted) := by
    intro first inItems second secondInItems sorted
    by_cases equal : order second first = .eq
    · rw [apart second secondInItems first inItems equal]
    · exact insertDistinct_comm equal sorted
  calc sortDistinct order (items ++ behind)
      = items.foldr (insertDistinct order) (sortDistinct order behind) := List.foldr_append
    _ = reordered.foldr (insertDistinct order) (sortDistinct order behind) :=
        perm.foldr_eq' either _
    _ = sortDistinct order (reordered ++ otherBehind) := by
        rw [same]
        exact List.foldr_append.symm

end Distinct

end StyleBaseline
