/-
**What a verdict says.** The best tier among the features behind a property decides, and the
features of that tier are named.

* `Verdict.ofRecords_eq` — the verdict on the features of a property, tier by tier.
* `Verdict.message?_ofRecords` — what is said, and when.
* `Index.verdict_ofDatabase` — the verdict that the index of a database gives.
-/

import StyleBaseline.Dataset.Verdict
import StyleBaseline.Proofs.Dataset.IndexContents

namespace StyleBaseline

namespace Verdict

variable {records : List FeatureRecord}

theorem ofTier?_eq (tier : Tier) (records : List FeatureRecord) :
    ofTier? records tier =
      if ∃ record ∈ records, record.tier = tier then
        some ⟨tier.support, records.filter (·.tier = tier)⟩
      else none := by
  by_cases present : ∃ record ∈ records, record.tier = tier
  · obtain ⟨record, member, isTier⟩ := present
    have nonempty : records.filter (·.tier = tier) ≠ [] :=
      List.ne_nil_of_mem (List.mem_filter.mpr ⟨member, decide_eq_true isTier⟩)
    rw [if_pos ⟨record, member, isTier⟩, ofTier?, if_neg (by rwa [List.isEmpty_iff])]
  · have nothing : records.filter (·.tier = tier) = [] := by
      rw [List.filter_eq_nil_iff]
      exact fun record member isTier => present ⟨record, member, of_decide_eq_true isTier⟩
    rw [if_neg present, ofTier?, nothing]
    rfl

/-- **The verdict on the features of a property**: if there is one of the highest tier, these count;
else those of the lower tier, if there are any; else all. -/
theorem ofRecords_eq (records : List FeatureRecord) :
    ofRecords records =
      if ∃ record ∈ records, record.tier = .high then ⟨.high, records.filter (·.tier = .high)⟩
      else if ∃ record ∈ records, record.tier = .low then ⟨.low, records.filter (·.tier = .low)⟩
      else if records = [] then unknown
      else ⟨.noBaseline, records⟩ := by
  rw [ofRecords, Tier.bestFirst]
  simp only [List.findSome?_cons, List.findSome?_nil, ofTier?_eq]
  by_cases high : ∃ record ∈ records, record.tier = .high
  · rw [if_pos high, if_pos high]
    rfl
  by_cases low : ∃ record ∈ records, record.tier = .low
  · rw [if_neg high, if_neg high, if_pos low, if_pos low]
    rfl
  have lowest : ∀ record ∈ records, record.tier = .noBaseline := by
    intro record member
    cases isTier : record.tier with
    | noBaseline => rfl
    | low => exact absurd ⟨record, member, isTier⟩ low
    | high => exact absurd ⟨record, member, isTier⟩ high
  rw [if_neg high, if_neg high, if_neg low, if_neg low]
  cases records with
  | nil => rfl
  | cons first rest =>
      have all : (first :: rest).filter (·.tier = .noBaseline) = first :: rest := by
        rw [List.filter_eq_self]
        exact fun record member => decide_eq_true (lowest record member)
      rw [if_pos ⟨first, List.mem_cons_self .., lowest first (List.mem_cons_self ..)⟩, all,
        if_neg (List.cons_ne_nil first rest)]
      rfl

/-! ### What is said -/

/-- The wording on a property that only features of the lower tier support. -/
def lowBaselineText (property : String) (names : List String) : String :=
  "Property '" ++ property ++ "' has low baseline status (" ++ ", ".intercalate names
    ++ "). Consider providing fallbacks."

/-- The wording on a property that no feature supports. -/
def noBaselineText (property : String) (names : List String) : String :=
  "Property '" ++ property ++ "' has no baseline support (" ++ ", ".intercalate names
    ++ "). Browser support is very limited."

/-- **What is said of a property**: nothing if no feature is known behind it or one of them is of
the highest tier. -/
theorem message?_ofRecords (records : List FeatureRecord) (property : String) :
    (ofRecords records).message? property =
      if records ≠ [] ∧ ∀ record ∈ records, record.tier ≠ .high then
        some (if ∃ record ∈ records, record.tier = .low then
          lowBaselineText property ((records.filter (·.tier = .low)).map (·.displayName))
        else noBaselineText property (records.map (·.displayName)))
      else none := by
  rw [ofRecords_eq]
  by_cases high : ∃ record ∈ records, record.tier = .high
  · obtain ⟨record, member, isHigh⟩ := high
    rw [if_pos ⟨record, member, isHigh⟩, if_neg fun lower => lower.2 record member isHigh]
    rfl
  have lower : ∀ record ∈ records, record.tier ≠ .high := fun record member isHigh =>
    high ⟨record, member, isHigh⟩
  rw [if_neg high]
  by_cases low : ∃ record ∈ records, record.tier = .low
  · have nonempty : records ≠ [] := by
      obtain ⟨record, member, _⟩ := low
      exact List.ne_nil_of_mem member
    rw [if_pos low, if_pos ⟨nonempty, lower⟩, if_pos low]
    rfl
  rw [if_neg low]
  by_cases nothing : records = []
  · rw [if_pos nothing, if_neg fun known => known.1 nothing]
    rfl
  · rw [if_neg nothing, if_pos ⟨nothing, lower⟩, if_neg low]
    rfl

end Verdict

/-- **The verdict on a property** is that on the features of the database that concern it. -/
theorem Index.verdict_ofDatabase (database : Database) (property : String) :
    (Index.ofDatabase database).verdict property =
      .ofRecords (recordsBehind database.features.entries property) := by
  rw [Index.verdict, Index.find?_ofDatabase]
  by_cases nothing : recordsBehind database.features.entries property = []
  · rw [if_pos nothing, nothing]
    rfl
  · rw [if_neg nothing]

end StyleBaseline
