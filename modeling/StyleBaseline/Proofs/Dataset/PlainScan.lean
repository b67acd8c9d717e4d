/-
**A verdict without an index.** The index and the search through the tiers are ways to look less
often at the database. The verdict that they give is the one of a plain scan: among the features
that concern a property take those of the greatest tier.

* `Verdict.ofRecords_of_greatest` — the first tier with a feature is the greatest.
* `Index.verdict_of_greatest` — what the index of a database gives for it.
* `Index.verdict_scan` — the verdict on a property, read off the database.
-/

import Mathlib.Data.Finset.Max
import Mathlib.Order.Bounds.Basic
import StyleBaseline.Proofs.Dataset.Verdicts

namespace StyleBaseline

namespace Tier

/-- The place of a tier, counted from the lowest. -/
def rank : Tier → Nat
  | .noBaseline => 0
  | .low => 1
  | .high => 2

theorem rank_injective : Function.Injective rank := by
  intro first second same
  cases first <;> cases second <;> first | rfl | exact absurd same (by decide)

/-- No baseline is below low, and low below high. -/
instance : LinearOrder Tier where
  le first second := first.rank ≤ second.rank
  le_refl tier := Nat.le_refl tier.rank
  le_trans _ _ _ below above := Nat.le_trans below above
  le_antisymm _ _ below above := rank_injective (Nat.le_antisymm below above)
  le_total first second := Nat.le_total first.rank second.rank
  toDecidableLE first second := inferInstanceAs (Decidable (first.rank ≤ second.rank))
  toDecidableEq := inferInstance

theorem noBaseline_le (tier : Tier) : .noBaseline ≤ tier :=
  Nat.zero_le tier.rank

/-- Among some items one has the greatest tier. -/
theorem exists_greatest {α : Type} {items : List α} (tierOf : α → Tier) (nonempty : items ≠ []) :
    ∃ best, IsGreatest {tier | ∃ item ∈ items, tierOf item = tier} best := by
  have tiers : {tier | ∃ item ∈ items, tierOf item = tier} = (items.map tierOf).toFinset := by
    ext tier
    simp
  have inhabited : (items.map tierOf).toFinset.Nonempty := by
    simpa using nonempty
  rw [tiers]
  exact ⟨_, Finset.isGreatest_max' _ inhabited⟩

end Tier

namespace Verdict

variable {records : List FeatureRecord}

/-- **The first tier with a feature is the greatest**: the tiers are tried from the best on. -/
theorem ofRecords_of_greatest {best : Tier}
    (greatest : IsGreatest {tier | ∃ record ∈ records, record.tier = tier} best) :
    ofRecords records = ⟨best.support, records.filter (·.tier = best)⟩ := by
  obtain ⟨present, bound⟩ := greatest
  have present : ∃ record ∈ records, record.tier = best := present
  have absent {tier : Tier} (above : best < tier) : ¬ ∃ record ∈ records, record.tier = tier :=
    fun found => absurd (bound found) (not_le_of_gt above)
  rw [ofRecords_eq]
  cases best with
  | high => rw [if_pos present]; rfl
  | low => rw [if_neg (absent (by decide)), if_pos present]; rfl
  | noBaseline =>
      have nonempty : records ≠ [] := by
        obtain ⟨record, member, _⟩ := present
        exact List.ne_nil_of_mem member
      have lowest : records.filter (·.tier = .noBaseline) = records := by
        rw [List.filter_eq_self]
        intro record member
        have below : record.tier ≤ .noBaseline := bound ⟨record, member, rfl⟩
        exact decide_eq_true (le_antisymm below (Tier.noBaseline_le record.tier))
      rw [if_neg (absent (by decide)), if_neg (absent (by decide)), if_neg nonempty, lowest]
      rfl

/-- Where there are records, some tier is found among them. -/
theorem isSome_findSome?_ofTier? (nonempty : records ≠ []) :
    (Tier.bestFirst.findSome? (ofTier? records)).isSome := by
  obtain ⟨record, rest, rfl⟩ := List.exists_cons_of_ne_nil nonempty
  rw [List.isSome_findSome?, List.any_eq_true]
  refine ⟨record.tier, by cases record.tier <;> decide, ?_⟩
  rw [ofTier?_eq, if_pos ⟨record, List.mem_cons_self, rfl⟩]
  rfl

end Verdict

/-! ### The verdict of a database -/

/-- The features with a path that names a property, with their keys, in the order of the
database. -/
def Database.featuresNaming (database : Database) (property : String) : List (String × Feature) :=
  database.features.entries.filter fun entry => ∃ path ∈ entry.2.paths, Names path property

namespace Index

variable {database : Database} {property : String}

theorem verdict_eq_ofRecords (database : Database) (property : String) :
    (Index.ofDatabase database).verdict property = .ofRecords
      ((database.featuresNaming property).map fun entry => .ofFeature entry.1 entry.2) :=
  verdict_ofDatabase database property

/-- The greatest tier among the features that name a property decides. -/
theorem verdict_of_greatest {best : Tier}
    (greatest : IsGreatest
      {tier | ∃ entry ∈ database.featuresNaming property, entry.2.tier = tier} best) :
    (Index.ofDatabase database).verdict property =
      ⟨best.support, ((database.featuresNaming property).filter (·.2.tier = best)).map
        fun entry => .ofFeature entry.1 entry.2⟩ := by
  let record (entry : String × Feature) : FeatureRecord := .ofFeature entry.1 entry.2
  let naming := database.featuresNaming property
  have tiers : {tier | ∃ known ∈ naming.map record, known.tier = tier} =
      {tier | ∃ entry ∈ naming, entry.2.tier = tier} := by
    ext tier
    simp only [List.mem_map, exists_exists_and_eq_and]
    rfl
  rw [← tiers] at greatest
  rw [verdict_eq_ofRecords, Verdict.ofRecords_of_greatest greatest, List.filter_map]
  rfl

/-- No feature contributes twice. -/
theorem nodup_contributing (database : Database) (property : String) :
    (((Index.ofDatabase database).verdict property).contributing.map (·.key)).Nodup := by
  by_cases nonempty : database.featuresNaming property = []
  · rw [verdict_eq_ofRecords, nonempty]
    exact List.nodup_nil
  · obtain ⟨best, greatest⟩ :=
      Tier.exists_greatest (fun entry : String × Feature => entry.2.tier) nonempty
    rw [verdict_of_greatest greatest, List.map_map]
    refine database.features.distinct.sublist ?_
    exact (List.filter_sublist.trans List.filter_sublist).map Prod.fst

/-- **The verdict of a plain scan.** Nothing is known of a property if no feature of the database
has a path that names it. Otherwise the greatest tier among the features with such a path decides,
and the records of that tier contribute, in the order of the database and each once. The search
through the tiers of an indexed property always finds one. -/
theorem verdict_scan (database : Database) (property : String) :
    let naming := database.featuresNaming property
    let index := Index.ofDatabase database
    let verdict := index.verdict property
    (verdict = ⟨.unknown, []⟩ ↔ naming = []) ∧
    (naming ≠ [] → ∃ best, IsGreatest {tier | ∃ entry ∈ naming, entry.2.tier = tier} best ∧
      verdict.support = best.support ∧
      verdict.contributing = ((naming.filter (·.2.tier = best)).map fun entry =>
        .ofFeature entry.1 entry.2) ∧
      verdict.contributing ≠ []) ∧
    (verdict.contributing.map (·.key)).Nodup ∧
    ∀ records, index.find? property = some records →
      (Tier.bestFirst.findSome? (Verdict.ofTier? records)).isSome := by
  intro naming index verdict
  have decided (nonempty : naming ≠ []) := Tier.exists_greatest (·.2.tier) nonempty
  refine ⟨⟨fun unknown => ?_, fun nothing => ?_⟩, fun nonempty => ?_,
    nodup_contributing database property, fun records found => ?_⟩
  · by_contra nonempty
    obtain ⟨best, greatest⟩ := decided nonempty
    have isBest := (verdict_of_greatest greatest).symm.trans unknown
    rw [Verdict.mk.injEq] at isBest
    cases best <;> exact nomatch isBest.1
  · have given : verdict = .ofRecords (naming.map _) := verdict_eq_ofRecords database property
    rw [given, nothing]
    rfl
  · obtain ⟨best, greatest⟩ := decided nonempty
    have isBest := verdict_of_greatest greatest
    obtain ⟨entry, member, isTier⟩ := greatest.1
    refine ⟨best, greatest, congrArg Verdict.support isBest,
      congrArg Verdict.contributing isBest, ?_⟩
    show ((Index.ofDatabase database).verdict property).contributing ≠ []
    rw [isBest]
    exact List.ne_nil_of_mem (List.mem_map_of_mem
      (List.mem_filter.mpr ⟨member, decide_eq_true isTier⟩))
  · rw [find?_ofDatabase, Option.ite_none_left_eq_some, Option.some.injEq] at found
    obtain ⟨nonempty, rfl⟩ := found
    exact Verdict.isSome_findSome?_ofTier? nonempty

end Index

end StyleBaseline
