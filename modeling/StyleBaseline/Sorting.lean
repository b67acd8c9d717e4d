/-
**Sorting.** Two ways to put a list in order: by a numeric key, items with one key staying as they
are; and by a comparison, of items that compare as equal only the first being kept.

* `sortByKey` — the stable order by a key.
* `sortDistinct` — the strictly ascending order.
-/
namespace StyleBaseline

variable {α : Type}

/-- Puts an item in front of the first one whose key is not below its own. -/
def insertByKey (key : α → Nat) (item : α) : List α → List α
  | [] => [item]
  | first :: rest =>
      if key item ≤ key first then item :: first :: rest
      else first :: insertByKey key item rest

/-- The items by ascending key, those with one key in their old order. -/
def sortByKey (key : α → Nat) (items : List α) : List α :=
  items.foldr (insertByKey key) []

/-- Puts an item at its place among ascending ones, instead of one that is equal to it. -/
def insertDistinct (order : α → α → Ordering) (item : α) : List α → List α
  | [] => [item]
  | first :: rest =>
      match order item first with
      | .lt => item :: first :: rest
      | .eq => item :: rest
      | .gt => first :: insertDistinct order item rest

/-- The items in ascending order, of equal ones only the first. -/
def sortDistinct (order : α → α → Ordering) (items : List α) : List α :=
  items.foldr (insertDistinct order) []

end StyleBaseline
