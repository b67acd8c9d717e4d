/-
**Doubles.** The finite numbers of the 64-bit binary format, without their sign: a mantissa below
`2 ^ 53` times a power of two from `2 ^ -1074` to `2 ^ 971`. Each operation is the exact one followed
by rounding to the nearest double, a tie going to the even mantissa.

* `Binary64.ofRatio?` — the double nearest to a fraction; none if that is beyond the largest one.
* `Binary64.times?`, `Binary64.dividedBy` — product and quotient.
* `Binary64.scaled?` — a whole number times a power of ten, one rounding per operation.
-/
namespace StyleBaseline

/-- A finite double without its sign, of the value `mantissa * 2 ^ exponent`. The mantissa is at
least `2 ^ 52` unless the exponent is the least one. -/
structure Binary64 where
  mantissa : Nat
  exponent : Int
deriving DecidableEq, Repr

/-- A power of two. -/
def powerOfTwo (power : Nat) : Nat :=
  Nat.pow 2 power

/-- A power of ten. -/
def powerOfTen (power : Nat) : Nat :=
  Nat.pow 10 power

/-- The whole number nearest to a fraction, a tie going to the even one. -/
def roundHalfEven (num den : Nat) : Nat :=
  let floor := num / den
  let rest := 2 * (num % den)
  if rest < den then floor
  else if den < rest then floor + 1
  else floor + floor % 2

/-- The fraction `num / den` divided by a power of two, as a numerator and a denominator. -/
def overPowerOfTwo (num den : Nat) (exponent : Int) : Nat × Nat :=
  (num * powerOfTwo (-exponent).toNat, den * powerOfTwo exponent.toNat)

namespace Binary64

/-- The exponent of the least double. -/
def leastExponent : Int := -1074

/-- The exponent of the largest doubles. -/
def greatestExponent : Int := 971

def zero : Binary64 := ⟨0, leastExponent⟩

def isZero (x : Binary64) : Bool :=
  x.mantissa == 0

/-- The exponent with which a positive fraction has a mantissa of 53 bits. -/
def exponentOf (num den : Nat) : Int :=
  let guess : Int := (Nat.log2 num : Int) - Nat.log2 den
  let (scaledNum, scaledDen) := overPowerOfTwo num den guess
  if scaledNum < scaledDen then guess - 53 else guess - 52

/-- The double nearest to a fraction. -/
def ofRatio? (num den : Nat) : Option Binary64 :=
  if num = 0 then some zero
  else
    let exponent := max (exponentOf num den) leastExponent
    let (scaledNum, scaledDen) := overPowerOfTwo num den exponent
    let mantissa := roundHalfEven scaledNum scaledDen
    let x : Binary64 :=
      if mantissa = powerOfTwo 53 then ⟨powerOfTwo 52, exponent + 1⟩ else ⟨mantissa, exponent⟩
    if x.exponent ≤ greatestExponent then some x else none

/-- The numerator of a double's value. -/
def num (x : Binary64) : Nat :=
  x.mantissa * powerOfTwo x.exponent.toNat

/-- The denominator of a double's value. -/
def den (x : Binary64) : Nat :=
  powerOfTwo (-x.exponent).toNat

/-- The product of two doubles. -/
def times? (x y : Binary64) : Option Binary64 :=
  ofRatio? (x.num * y.num) (x.den * y.den)

/-- The quotient of a double by one that is not below one. -/
def dividedBy (x y : Binary64) : Binary64 :=
  (ofRatio? (x.num * y.den) (x.den * y.num)).getD zero

/-- The double nearest to a power of ten, up to the largest one there is. -/
def tenTo (power : Nat) : Binary64 :=
  (ofRatio? (powerOfTen power) 1).getD zero

/-- The largest power of ten below the largest double. -/
def greatestPower : Nat := 308

/-- A double divided by a power of ten, in steps of at most the largest power. -/
def scaledDown : (steps : Nat) → Binary64 → (power : Nat) → Binary64
  | 0, x, _ => x
  | steps + 1, x, power =>
      if power ≤ greatestPower then x.dividedBy (tenTo power)
      else if x.isZero then x
      else scaledDown steps (x.dividedBy (tenTo greatestPower)) (power - greatestPower)

/-- A whole number times a power of ten, the number, the power and the result each rounded. -/
def scaled? (significand : Nat) (power : Int) : Option Binary64 :=
  (ofRatio? significand 1).bind fun x =>
    if power < 0 then
      some (scaledDown (power.natAbs / greatestPower + 1) x power.natAbs)
    else if power.natAbs ≤ greatestPower then x.times? (tenTo power.natAbs)
    else if x.isZero then some x
    else none

end Binary64

end StyleBaseline
