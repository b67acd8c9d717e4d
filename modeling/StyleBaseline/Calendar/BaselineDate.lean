/-
**Baseline dates.** The day on which a feature became available, exact or as an upper bound, which
is written with `≤` in front.
-/
import StyleBaseline.Calendar.Date

namespace StyleBaseline

/-- A date, exact or "on or before". -/
structure BaselineDate where
  date : Date
  approximate : Bool
deriving DecidableEq

namespace BaselineDate

/-- Reads a date with white space around it and perhaps one `≤` in front of it. -/
def parse (text : String) : Except DateFault BaselineDate :=
  match trimBoth text.toList with
  | '≤' :: rest => (Date.parse rest).map fun date => ⟨date, true⟩
  | rest => (Date.parse rest).map fun date => ⟨date, false⟩

/-- The written form of a baseline date. -/
def text (since : BaselineDate) : String :=
  String.ofList (if since.approximate then '≤' :: since.date.text else since.date.text)

/-- Baseline dates are ordered by day; on one day the exact date comes before the bound. -/
protected def compare (a b : BaselineDate) : Ordering :=
  (compare a.date b.date).then (compare a.approximate b.approximate)

instance : Ord BaselineDate := ⟨BaselineDate.compare⟩

end BaselineDate

end StyleBaseline
