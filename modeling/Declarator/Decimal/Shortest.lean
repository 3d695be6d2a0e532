import Declarator.Decimal.Binary64
import Declarator.Text.Basic

/-!
# The shortest decimal of a binary number

A binary number is written with the fewest digits that tell it from its neighbours, and of those
the nearest.

- `Binary64.gap` : the quarter units between a number and the ends of what rounds to it.
- `Binary64.shortest` : the digits.
- `Binary64.text` : the number as it is written.
-/

namespace Declarator

/-- The number `digits * 10 ^ exponent`. -/
structure Decimal where
  digits : Nat
  exponent : Int
  deriving DecidableEq

namespace Binary64

/-- How many quarters of its last place a number may be lowered and still be the nearest: half a
place, or a quarter at a power of two, below which the places are half as wide. -/
def gap (x : Binary64) : Nat :=
  if x.significand = leastNormal ∧ minExponent < x.exponent then 1 else 2

/-- Whether `d * 10 ^ k` rounds to `x`. The ends belong to what rounds to it exactly if the
significand is even. -/
def roundsFrom (x : Binary64) (d : Nat) (k : Int) : Bool :=
  let quarter := scaled 1 1 2 (x.exponent - 2)
  let power := scaled 1 1 10 k
  let low := (4 * x.significand - x.gap) * quarter.1 * power.2
  let high := (4 * x.significand + 2) * quarter.1 * power.2
  let point := d * power.1 * quarter.2
  if x.significand % 2 = 0 then low ≤ point && point ≤ high else low < point && point < high

/-- The multiple of `10 ^ k` that rounds to `x` and is nearest to it, if there is one. -/
def onGrid? (x : Binary64) (k : Int) : Option Decimal :=
  let power := scaled 1 1 10 k
  let num := x.ratio.1 * power.2
  let den := x.ratio.2 * power.1
  let below := num / den
  let nearer := roundEven num den
  let other := if nearer = below then below + 1 else below
  if x.roundsFrom nearer k then some ⟨nearer, k⟩
  else if x.roundsFrom other k then some ⟨other, k⟩
  else none

/-- The exponent of the leading decimal digit. No number but zero is below `10 ^ -400`. -/
def leadingExponent (x : Binary64) : Int :=
  (Nat.toDigits 10 (x.ratio.1 * Nat.pow 10 400 / x.ratio.2)).length - 401

/-- The fewest digits that round to `x`, and of those the nearest to it. Seventeen are always
enough. -/
def shortest (x : Binary64) : Decimal :=
  ((List.range 17).findSome? fun n : Nat => x.onGrid? (x.leadingExponent - n)).getD ⟨0, 0⟩

/-- A number in decimal. From `10 ^ -5` up to `10 ^ 16` the point is written in its place, with a
digit on either side; beyond, it follows the first digit, and an exponent with its sign follows. -/
def text (x : Binary64) : Text :=
  if x = zero then ['0', '.', '0']
  else
    let d := x.shortest
    let all := Nat.toDigits 10 d.digits
    let lead : Int := d.exponent + all.length - 1
    let kept := (all.reverse.dropWhile (· == '0')).reverse
    if 0 ≤ lead && lead ≤ 15 then
      let whole := kept.take (lead.toNat + 1)
      let fraction := kept.drop (lead.toNat + 1)
      whole ++ List.replicate (lead.toNat + 1 - whole.length) '0'
        ++ '.' :: (if fraction.isEmpty then ['0'] else fraction)
    else if -5 ≤ lead && lead < 0 then
      '0' :: '.' :: List.replicate (-lead - 1).toNat '0' ++ kept
    else
      let sign := if lead < 0 then '-' else '+'
      let fraction := kept.drop 1
      kept.take 1 ++ (if fraction.isEmpty then [] else '.' :: fraction)
        ++ 'e' :: sign :: Nat.toDigits 10 lead.natAbs

end Binary64

end Declarator
