/-!
# Binary32 numbers

The numbers of IEEE 754's 32-bit format, as their bits: a sign, eight bits of exponent and 23 bits
of fraction. A finite number is `significand * 2 ^ exponent`, with a significand below `2 ^ 24`.
-/

namespace CellModem.Number

structure Binary32 where
  bits : UInt32
  deriving DecidableEq, Repr

/-- What a number is, its sign apart. -/
inductive Binary32.Magnitude where
  | nan
  | infinite
  /-- `significand * 2 ^ exponent` -/
  | finite (significand : Nat) (exponent : Int)
  deriving DecidableEq, Repr

namespace Binary32

/-- Of the finite numbers, the least exponent; there the significand may be small. -/
def minExponent : Int := -149

def infinityBits : Nat := 0x7F800000

def isNegative (x : Binary32) : Bool :=
  0x80000000 ≤ x.bits.toNat

def magnitude (x : Binary32) : Magnitude :=
  let unsigned := x.bits.toNat % 0x80000000
  let exponent : Nat := unsigned / 0x800000
  let fraction : Nat := unsigned % 0x800000
  if exponent = 255 then
    if fraction = 0 then .infinite else .nan
  else if exponent = 0 then .finite fraction minExponent
  else .finite (0x800000 + fraction) ((exponent : Int) - 150)

def ofUnsigned (negative : Bool) (unsigned : Nat) : Binary32 :=
  ⟨UInt32.ofNat (if negative then 0x80000000 + unsigned else unsigned)⟩

/-- `significand * 2 ^ exponent` for a significand of at most `2 ^ 24`, of at least `2 ^ 23` above
the least exponent. Counting on from the bits of the power of two below also carries a significand
of `2 ^ 24` into the exponent; what is too large becomes infinite. -/
def encode (negative : Bool) (significand : Nat) (exponent : Int) : Binary32 :=
  ofUnsigned negative
    (min ((exponent - minExponent).toNat * 0x800000 + significand) infinityBits)

def infinity (negative : Bool) : Binary32 := ofUnsigned negative infinityBits

def nan (negative : Bool) : Binary32 := ofUnsigned negative 0x7FC00000

def zero (negative : Bool) : Binary32 := ofUnsigned negative 0

/-- The nearest number of 32 bits with sign. -/
def clampInt32 (n : Int) : Int :=
  max (-0x80000000) (min n 0x7FFFFFFF)

theorem clampInt32_bounds (n : Int) : -0x80000000 ≤ clampInt32 n ∧ clampInt32 n ≤ 0x7FFFFFFF := by
  unfold clampInt32
  omega

/-- `m * 2 ^ e` without what stands behind the point. -/
def wholePart (m : Nat) (e : Int) : Nat :=
  if 0 ≤ e then m * Nat.pow 2 e.toNat else m / Nat.pow 2 (-e).toNat

/-- The whole part in 32 bits with sign. What lies outside goes to the nearer end, and a number
that is none to zero. -/
def truncate (x : Binary32) : Int :=
  let signed (n : Nat) : Int := if x.isNegative then -(n : Int) else n
  match x.magnitude with
  | .nan => 0
  | .infinite => clampInt32 (signed 0x80000000)
  | .finite m e => clampInt32 (signed (wholePart m e))

end Binary32

end CellModem.Number
