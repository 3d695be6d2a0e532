/-!
# Binary floating-point numbers

The numbers of 64 bits that are finite and not negative, in exact arithmetic on natural numbers:
a significand below `bound` times a power of two.

- `Binary64.nearest?` : the number nearest to a quotient, a half going to the even significand.
- `Binary64.mul?`, `Binary64.div?` : the nearest to a product and to a quotient of two of them.
- `Binary64.scale?` : multiplication by a power of ten, one rounded step at a time.
-/

namespace Declarator

/-- The number `significand * 2 ^ exponent`. -/
structure Binary64 where
  significand : Nat
  exponent : Int
  deriving DecidableEq

namespace Binary64

/-- The least exponent, at which the significand may be small. -/
def minExponent : Int := -1074

/-- The greatest exponent. -/
def maxExponent : Int := 971

def zero : Binary64 := ⟨0, minExponent⟩

/-- Significands are below this power of two, the fifty-third. -/
def bound : Nat := 0x20000000000000

/-- The least significand where the exponent is not the least: half of `bound`. -/
def leastNormal : Nat := 0x10000000000000

/-- `num / den` rounded to a natural number, a half going to the even neighbour. -/
def roundEven (num den : Nat) : Nat :=
  let q := num / den
  let twice := 2 * (num % den)
  if twice < den then q
  else if den < twice then q + 1
  else if q % 2 = 0 then q else q + 1

/-- Numerator and denominator of `num / den * base ^ k`. -/
def scaled (num den base : Nat) (k : Int) : Nat × Nat :=
  if 0 ≤ k then (num * base.pow k.toNat, den) else (num, den * base.pow (-k).toNat)

/-- The greatest `e` with `2 ^ e ≤ num / den`, for positive `num` and `den`. -/
def log2Ratio (num den : Nat) : Int :=
  let guess : Int := num.log2 - den.log2
  let power := scaled 1 1 2 guess
  if power.1 * den ≤ num * power.2 then guess else guess - 1

/-- The number nearest to `num / den`, or nothing if that is beyond the greatest. -/
def nearest? (num den : Nat) : Option Binary64 :=
  if num = 0 then some zero
  else
    let q := max (log2Ratio num den - 52) minExponent
    let ratio := scaled num den 2 (-q)
    let m := roundEven ratio.1 ratio.2
    let x : Binary64 := if m = bound then ⟨leastNormal, q + 1⟩ else ⟨m, q⟩
    if x.exponent ≤ maxExponent then some x else none

/-- Numerator and denominator of a number. -/
def ratio (x : Binary64) : Nat × Nat :=
  scaled x.significand 1 2 x.exponent

/-- The nearest to a product. -/
def mul? (x y : Binary64) : Option Binary64 :=
  nearest? (x.ratio.1 * y.ratio.1) (x.ratio.2 * y.ratio.2)

/-- The nearest to a quotient. -/
def div? (x y : Binary64) : Option Binary64 :=
  nearest? (x.ratio.1 * y.ratio.2) (x.ratio.2 * y.ratio.1)

/-- The greatest power of ten that is a number. -/
def maxPower : Int := 308

/-- A number times `10 ^ k`. The power is rounded before it is applied; below the least power of
ten the number is divided by the greatest, over and over. -/
def scale? (x : Binary64) (k : Int) : Option Binary64 :=
  if maxPower < k then if x = zero then some zero else none
  else if 0 ≤ k then do x.mul? (← nearest? (Nat.pow 10 k.toNat) 1)
  else if -maxPower ≤ k then do x.div? (← nearest? (Nat.pow 10 (-k).toNat) 1)
  else if x = zero then some zero
  else do
    let smaller ← x.div? (← nearest? (Nat.pow 10 maxPower.toNat) 1)
    smaller.scale? (k + maxPower)
termination_by (-k).toNat
decreasing_by simp only [maxPower] at *; omega

end Binary64

end Declarator
