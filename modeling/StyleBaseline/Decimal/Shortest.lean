/-
**The shortest decimal of a double.** Of all decimals that round to a double the one with the fewest
digits is written, and of several of these the nearest to the double.

* `Binary64.shortest` — the digits, as a whole number, and the power of ten that they count.
* `Binary64.text` — positional from `1e-5` up to `1e16`, always with a point; outside with an
  exponent that carries its sign.
-/
import StyleBaseline.Decimal.Binary64

namespace StyleBaseline

/-- A decimal: a whole number times a power of ten. -/
structure Decimal where
  digits : Nat
  power : Int
deriving DecidableEq, Repr

namespace Binary64

/-- The multiple of a power of ten that is nearest to a double among those that round to it, a tie
going to the even one. The two multiples around the double are the only ones that can be it. The
decimals that round to a double lie halfway up to its neighbours; below a power of two the neighbour
is half as far. The ends count if the mantissa is even. -/
def nearestMultiple? (x : Binary64) (power : Int) : Option Decimal :=
  let quarters := 4 * x.mantissa
  let below := if x.mantissa = powerOfTwo 52 ∧ leastExponent < x.exponent then 1 else 2
  let unit := x.exponent - 2
  let doubleScale := powerOfTwo unit.toNat * powerOfTen (-power).toNat
  let tenScale := powerOfTwo (-unit).toNat * powerOfTen power.toNat
  let value := quarters * doubleScale
  let lowest := (quarters - below) * doubleScale
  let highest := (quarters + 2) * doubleScale
  let floor := value / tenScale
  let roundsTo (multiple : Nat) : Bool :=
    if x.mantissa % 2 = 0 then lowest ≤ multiple * tenScale ∧ multiple * tenScale ≤ highest
    else lowest < multiple * tenScale ∧ multiple * tenScale < highest
  let fromFloor := value - floor * tenScale
  let fromCeiling := (floor + 1) * tenScale - value
  let floorFirst := fromFloor < fromCeiling ∨ (fromFloor = fromCeiling ∧ floor % 2 = 0)
  match roundsTo floor, roundsTo (floor + 1) with
  | true, true => some ⟨if floorFirst then floor else floor + 1, power⟩
  | true, false => some ⟨floor, power⟩
  | false, true => some ⟨floor + 1, power⟩
  | false, false => none

/-- The powers of ten that the last digit of a shortest decimal can count, the largest first. -/
def decimalPowers : List Int :=
  (List.range 634).map fun (step : Nat) => (309 : Int) - step

/-- The shortest decimal of a double that is not zero. -/
def shortest (x : Binary64) : Decimal :=
  (decimalPowers.findSome? x.nearestMultiple?).getD ⟨0, 0⟩

end Binary64

/-- The text of a decimal: positional if the first digit counts from `1e-5` to `1e15`. -/
def Decimal.text (decimal : Decimal) : List Char :=
  let digits := Nat.toDigits 10 decimal.digits
  let lead : Int := decimal.power + digits.length - 1
  if 0 ≤ decimal.power ∧ lead < 16 then
    digits ++ List.replicate decimal.power.toNat '0' ++ ['.', '0']
  else if 0 ≤ lead ∧ lead < 16 then
    digits.take (lead.toNat + 1) ++ '.' :: digits.drop (lead.toNat + 1)
  else if -5 ≤ lead ∧ lead < 0 then
    '0' :: '.' :: List.replicate (lead.natAbs - 1) '0' ++ digits
  else
    let fraction := match digits.tail with
      | [] => []
      | rest => '.' :: rest
    digits.take 1 ++ fraction ++ 'e' :: (if lead < 0 then '-' else '+')
      :: Nat.toDigits 10 lead.natAbs

/-- The text of a double. -/
def Binary64.text (x : Binary64) : List Char :=
  if x.isZero then ['0', '.', '0'] else x.shortest.text

end StyleBaseline
