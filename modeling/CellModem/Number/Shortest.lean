import CellModem.Number.Binary32

/-!
# The fewest digits that read back

A binary32 number is written with the fewest significant decimal digits that are nearer to it than
to any other. Every decimal number strictly between the midpoints to its two neighbours reads back
as it, the midpoints themselves too when its significand is even. For one digit, two, and so on up
to nine, the two decimal numbers of so many digits around it are tried; the first length with a hit
wins, and of two hits the nearer.
-/

namespace CellModem.Number

/-- Which of two decimal numbers equally near is written. -/
inductive Tie where
  | up
  | even
  deriving DecidableEq, Repr

/-- The positive number `digits * 10 ^ exponent`. -/
structure Digits where
  digits : Nat
  exponent : Int
  deriving DecidableEq, Repr

namespace Digits

/-- `a * 2 ^ e` and `b * 10 ^ k` brought over one denominator. -/
def commonScale (a : Nat) (e : Int) (b : Nat) (k : Int) : Nat × Nat :=
  let up (n : Int) : Nat := n.toNat
  (a * Nat.pow 2 (up e) * Nat.pow 10 (up (-k)), b * Nat.pow 10 (up k) * Nat.pow 2 (up (-e)))

/-- Whether `b * 10 ^ k` reads back as `m * 2 ^ e`. With everything in quarters of `2 ^ e`, the
upper midpoint is `4 * m + 2`, and the lower one `4 * m - 2`, or `4 * m - 1` where the numbers below
lie twice as dense. -/
def readsBack (m : Nat) (e : Int) (b : Nat) (k : Int) : Bool :=
  let lower := if m = 0x800000 ∧ Binary32.minExponent < e then 4 * m - 1 else 4 * m - 2
  let (low, candidate) := commonScale lower (e - 2) b k
  let (high, _) := commonScale (4 * m + 2) (e - 2) b k
  if m % 2 = 0 then low ≤ candidate && candidate ≤ high else low < candidate && candidate < high

/-- Drops the zeros at the end; `fuel` bounds their number. -/
def strip : (fuel : Nat) → Digits → Digits
  | 0, d => d
  | fuel + 1, d =>
    if d.digits ≠ 0 ∧ d.digits % 10 = 0 then strip fuel ⟨d.digits / 10, d.exponent + 1⟩ else d

/-- Of the two multiples of `10 ^ k` around `m * 2 ^ e` the one to write, if one reads back. -/
def onGrid? (tie : Tie) (m : Nat) (e k : Int) : Option Digits :=
  let (value, unit) := commonScale m e 1 k
  let below := value / unit
  let rest := value % unit
  let downwards := readsBack m e below k && below ≠ 0
  let upwards := readsBack m e (below + 1) k
  let nearerBelow := 2 * rest < unit || (2 * rest = unit && tie = .even && below % 2 = 0)
  if downwards && (nearerBelow || !upwards) then some ⟨below, k⟩
  else if upwards then some ⟨below + 1, k⟩
  else none

/-- The power of ten of the first digit of `m * 2 ^ e`, searched downwards from `k`. -/
def leadingPower (m : Nat) (e : Int) : (fuel : Nat) → (k : Int) → Int
  | 0, k => k
  | fuel + 1, k =>
    let (value, power) := commonScale m e 1 k
    if power ≤ value then k else leadingPower m e fuel (k - 1)

/-- Tries `count` more digits than the multiples of `10 ^ k` show. -/
def search (tie : Tie) (m : Nat) (e : Int) : (count : Nat) → (k : Int) → Digits
  | 0, k => ⟨m, k⟩
  | count + 1, k =>
    match onGrid? tie m e k with
    | some d => strip 10 d
    | none => search tie m e count (k - 1)

/-- The fewest digits for `m * 2 ^ e`, a positive binary32 number. Nine always suffice; the first
stands between `10 ^ -45` and `10 ^ 38`. -/
def shortest (tie : Tie) (m : Nat) (e : Int) : Digits :=
  search tie m e 9 (leadingPower m e 84 38)

end Digits

end CellModem.Number
