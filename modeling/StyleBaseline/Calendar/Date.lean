/-
**Calendar dates.** A date is a day of the proleptic Gregorian calendar whose year lies between
-262143 and 262142. Its written form is year, month and day with hyphens between them.

* `Date` — carries the proof that the day exists.
* `Date.text` — four digits of year, with a sign when the year lies outside 0 to 9999, and two of
  month and of day.
* `Date.parse` — reads more than is written: white space before each number, fewer digits, and a
  sign with any year. A year without a sign has at most four digits.
-/
import StyleBaseline.Text.CharacterClasses

namespace StyleBaseline

/-- Every fourth year is a leap year, but of the full centuries only every fourth. -/
def isLeapYear (year : Int) : Bool :=
  year % 4 == 0 && (year % 100 != 0 || year % 400 == 0)

/-- The number of days of a month, zero if there is no such month. -/
def daysInMonth (year : Int) (month : Nat) : Nat :=
  match month with
  | 1 | 3 | 5 | 7 | 8 | 10 | 12 => 31
  | 4 | 6 | 9 | 11 => 30
  | 2 => if isLeapYear year then 29 else 28
  | _ => 0

/-- A day of the calendar. -/
structure Date where
  year : Int
  month : Nat
  day : Nat
  yearInRange : -262143 ≤ year ∧ year ≤ 262142
  dayExists : 1 ≤ day ∧ day ≤ daysInMonth year month
deriving DecidableEq

/-- Why a text is not a date. -/
inductive DateFault where
  /-- The text ends too early. -/
  | tooShort
  /-- The text goes on after the date. -/
  | tooLong
  /-- Another character stands where a digit or a hyphen has to. -/
  | invalid
  /-- A number is too large, or there is no such day. -/
  | outOfRange
deriving DecidableEq, Repr

namespace DateFault

/-- The wording of a fault. -/
def message : DateFault → String
  | tooShort => "premature end of input"
  | tooLong => "trailing input"
  | invalid => "input contains invalid characters"
  | outOfRange => "input is out of range"

end DateFault

/-! ### Reading -/

/-- The number that a run of decimal digits writes. -/
def digitsValue (digits : List Char) : Nat :=
  digits.foldl (fun value c => 10 * value + (c.toNat - '0'.toNat)) 0

/-- Reads a number of at least one digit, and of no more than `width` if there is a width. -/
def readNumber (width : Option Nat) (cs : List Char) : Except DateFault (Nat × List Char) :=
  let window := match width with
    | some count => cs.take count
    | none => cs
  let digits := window.takeWhile Char.isDigit
  if cs.isEmpty then .error .tooShort
  else if digits.isEmpty then .error .invalid
  else .ok (digitsValue digits, cs.drop digits.length)

/-- Reads the hyphen between two numbers. -/
def readHyphen : List Char → Except DateFault (List Char)
  | [] => .error .tooShort
  | c :: cs => if c = '-' then .ok cs else .error .invalid

/-- Reads a year. A year that does not fit into 32 bits with a sign is refused at once. -/
def readYear (cs : List Char) : Except DateFault (Int × List Char) := do
  let (year, rest) ← match trimStart cs with
    | '-' :: digits => (readNumber none digits).map fun (value, rest) => (-(value : Int), rest)
    | '+' :: digits => (readNumber none digits).map fun (value, rest) => ((value : Int), rest)
    | digits => (readNumber (some 4) digits).map fun (value, rest) => ((value : Int), rest)
  if -2147483648 ≤ year ∧ year ≤ 2147483647 then .ok (year, rest) else .error .outOfRange

/-- Reads a month or a day, which is at most `limit`. -/
def readPart (limit : Nat) (cs : List Char) : Except DateFault (Nat × List Char) := do
  let (value, rest) ← readNumber (some 2) (trimStart cs)
  if 1 ≤ value ∧ value ≤ limit then .ok (value, rest) else .error .outOfRange

namespace Date

/-- The day of the given numbers, if there is one. -/
def of? (year : Int) (month day : Nat) : Option Date :=
  if inRange : -262143 ≤ year ∧ year ≤ 262142 then
    if found : 1 ≤ day ∧ day ≤ daysInMonth year month then
      some ⟨year, month, day, inRange, found⟩
    else none
  else none

/-- Reads a date that takes the whole text. -/
def parse (cs : List Char) : Except DateFault Date := do
  let (year, rest) ← readYear cs
  let rest ← readHyphen rest
  let (month, rest) ← readPart 12 rest
  let rest ← readHyphen rest
  let (day, rest) ← readPart 31 rest
  if rest.isEmpty then
    match of? year month day with
    | some date => .ok date
    | none => .error .outOfRange
  else .error .tooLong

end Date

/-! ### Writing -/

/-- A number in decimal, with zeros in front of it up to the given width. -/
def paddedNumber (width n : Nat) : List Char :=
  let digits := Nat.toDigits 10 n
  List.replicate (width - digits.length) '0' ++ digits

/-- A year: four digits, with a sign if it lies outside 0 to 9999. -/
def yearText (year : Int) : List Char :=
  if year < 0 then '-' :: paddedNumber 4 year.natAbs
  else if year ≤ 9999 then paddedNumber 4 year.natAbs
  else '+' :: paddedNumber 4 year.natAbs

namespace Date

/-- The written form of a date. -/
def text (date : Date) : List Char :=
  yearText date.year ++ '-' :: paddedNumber 2 date.month ++ '-' :: paddedNumber 2 date.day

/-- Dates are ordered by year, month and day. -/
protected def compare (a b : Date) : Ordering :=
  (compare a.year b.year).then ((compare a.month b.month).then (compare a.day b.day))

instance : Ord Date := ⟨Date.compare⟩

end Date

end StyleBaseline
