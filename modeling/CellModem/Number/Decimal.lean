import CellModem.Number.Binary32

/-!
# From decimal to binary32

The nearest binary32 number to a decimal one; of two equally near the one with the even
significand. A decimal number past the midpoint of the greatest finite number and the next power of
two becomes infinite.
-/

namespace CellModem.Number

/-- `digits * 10 ^ exponent`, with a sign. -/
structure Decimal where
  negative : Bool
  digits : Nat
  exponent : Int
  deriving DecidableEq, Repr

/-- `num / den` to the nearest whole number, a half to the even one. -/
def divNearestEven (num den : Nat) : Nat :=
  let q := num / den
  let r := num % den
  if 2 * r < den then q
  else if 2 * r = den then q + q % 2
  else q + 1

namespace Decimal

def fractionToBinary32 (negative : Bool) (num den : Nat) : Binary32 :=
  let scale : Int := (Nat.log2 num : Int) - Nat.log2 den
  let below : Bool :=
    if 0 ≤ scale then num < den * Nat.pow 2 scale.toNat else num * Nat.pow 2 (-scale).toNat < den
  let exponent : Int := max Binary32.minExponent (if below then scale - 24 else scale - 23)
  let significand :=
    if 0 ≤ exponent then divNearestEven num (den * Nat.pow 2 exponent.toNat)
    else divNearestEven (num * Nat.pow 2 (-exponent).toNat) den
  Binary32.encode negative significand exponent

/-- The nearest binary32 number. Numbers of more than forty digits before the point, and those with
more than 46 zeros behind it, are settled without writing the power of ten out. -/
def toBinary32 (x : Decimal) : Binary32 :=
  let places : Int := (Nat.toDigits 10 x.digits).length + x.exponent
  if x.digits = 0 then .zero x.negative
  else if 40 < places then .infinity x.negative
  else if places < -46 then .zero x.negative
  else if 0 ≤ x.exponent then
    fractionToBinary32 x.negative (x.digits * Nat.pow 10 x.exponent.toNat) 1
  else fractionToBinary32 x.negative x.digits (Nat.pow 10 (-x.exponent).toNat)

end Decimal

end CellModem.Number
