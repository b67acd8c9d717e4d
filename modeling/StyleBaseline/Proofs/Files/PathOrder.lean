/-
**The order of paths.** Components are ordered by rank and then by their names, and paths by their
components in turn. Two paths are equal in this order if they mean the same, however they are
spelled.

* `Path.compare_eq_iff` — equality in the order is equality of the components.
* `Path.map_components_eq_of_ascending` — two ascending lists with the same paths are equal up to
  spelling.
-/

import Mathlib.Data.List.Sort
import StyleBaseline.Files.Path

namespace StyleBaseline

namespace Component

/-- The name that a component is, if it is one. -/
def nameText : Component → String
  | name text => text
  | _ => ""

theorem compare_eq_compareLex :
    Component.compare = compareLex (compareOn rank) (compareOn nameText) := by
  funext first second
  cases first <;> cases second <;> rfl

instance : Std.TransCmp Component.compare := by
  rw [compare_eq_compareLex]
  infer_instance

instance : Std.LawfulEqCmp Component.compare where
  eq_of_compare {first second} equal := by
    cases first with
    | name text =>
        cases second with
        | name other =>
            have same : compare text other = .eq := equal
            exact congrArg name (Std.LawfulEqCmp.eq_of_compare same)
        | _ => exact absurd equal (by simp [Component.compare, rank])
    | _ => cases second <;> first | rfl | exact absurd equal (by simp [Component.compare, rank])

end Component

namespace Path

theorem compareComponents_eq_compareLex :
    compareComponents = List.compareLex Component.compare := by
  funext first second
  induction first generalizing second with
  | nil => cases second <;> rfl
  | cons component components ih =>
      cases second with
      | nil => rfl
      | cons other others => rw [compareComponents, List.compareLex_cons_cons, ih]

instance : Std.TransCmp Path.compare where
  eq_swap {first second} := by
    rw [Path.compare, Path.compare, compareComponents_eq_compareLex]
    exact Std.OrientedCmp.eq_swap
  isLE_trans {first second third} below above := by
    rw [Path.compare, compareComponents_eq_compareLex] at *
    exact Std.TransCmp.isLE_trans below above

/-- **Paths are equal in the order if they mean the same.** -/
theorem compare_eq_iff {first second : Path} :
    first.compare second = .eq ↔ first.components = second.components := by
  rw [Path.compare, compareComponents_eq_compareLex]
  exact Std.LawfulEqCmp.compare_eq_iff_eq

/-- **Ascending lists with the same paths** are equal up to spelling. -/
theorem map_components_eq_of_ascending {first second : List Path}
    (ascending : first.Pairwise fun path other => path.compare other = .lt)
    (otherAscending : second.Pairwise fun path other => path.compare other = .lt)
    (same : ∀ path : Path, (∃ found ∈ first, found.components = path.components) ↔
      ∃ found ∈ second, found.components = path.components) :
    first.map components = second.map components := by
  let before : List Component → List Component → Prop := fun path other =>
    compareComponents path other = .lt
  have antisymm : Std.Antisymm before := ⟨fun path other below above => by
    simp only [before, compareComponents_eq_compareLex] at below above
    exact nomatch below.symm.trans (Std.OrientedCmp.gt_of_lt above)⟩
  have irrefl : Std.Irrefl before := ⟨fun path below => by
    simp only [before, compareComponents_eq_compareLex] at below
    exact nomatch below.symm.trans Std.ReflCmp.compare_self⟩
  refine List.Pairwise.eq_of_mem_iff (r := before) (List.pairwise_map.mpr ascending)
    (List.pairwise_map.mpr otherAscending) fun meaning => ?_
  rw [List.mem_map, List.mem_map]
  constructor
  · rintro ⟨path, member, rfl⟩
    exact (same path).mp ⟨path, member, rfl⟩
  · rintro ⟨path, member, rfl⟩
    exact (same path).mpr ⟨path, member, rfl⟩

end Path

end StyleBaseline
