/-!
# Reading whole numbers

A number is an optional sign and at least one ASCII digit, leading zeros allowed, and nothing else.
One that does not fit its range is no number at all. `+` is a sign of every kind of number, `-`
only of the signed ones.
-/

namespace CellModem.Number

def digitValue? (c : Char) : Option Nat :=
  if '0' ≤ c ∧ c ≤ '9' then some (c.toNat - 48) else none

def readDigitsFrom? : (acc : Nat) → List Char → Option Nat
  | acc, [] => some acc
  | acc, c :: cs => (digitValue? c).bind fun d => readDigitsFrom? (acc * 10 + d) cs

def readDigits? : List Char → Option Nat
  | [] => none
  | c :: cs => readDigitsFrom? 0 (c :: cs)

/-- A number with sign, before its range is looked at. -/
def readSigned? : List Char → Option Int
  | '-' :: cs => (readDigits? cs).map fun n => -(n : Int)
  | '+' :: cs => (readDigits? cs).map Int.ofNat
  | cs => (readDigits? cs).map Int.ofNat

def IsInt64 (n : Int) : Prop := -0x8000000000000000 ≤ n ∧ n < 0x8000000000000000

instance (n : Int) : Decidable (IsInt64 n) := inferInstanceAs (Decidable (_ ∧ _))

def readInt64? (text : List Char) : Option Int :=
  (readSigned? text).bind fun n => if IsInt64 n then some n else none

def readUInt32? (text : List Char) : Option UInt32 :=
  let digits := match text with
    | '+' :: cs => cs
    | cs => cs
  (readDigits? digits).bind fun n => if n < UInt32.size then some (UInt32.ofNat n) else none

def toUInt32? (n : Int) : Option UInt32 :=
  if 0 ≤ n ∧ n < 0x100000000 then some (UInt32.ofNat n.toNat) else none

theorem toUInt32?_eq_none_iff {n : Int} : toUInt32? n = none ↔ n < 0 ∨ 0x100000000 ≤ n := by
  unfold toUInt32?
  split <;> simp <;> omega

theorem toNat_of_toUInt32? {n : Int} {u : UInt32} (h : toUInt32? n = some u) :
    (u.toNat : Int) = n := by
  unfold toUInt32? at h
  split at h
  · next hn =>
    obtain rfl := Option.some.inj h
    have : n.toNat < 4294967296 := by omega
    simp [UInt32.toNat_ofNat', Nat.mod_eq_of_lt this]
    omega
  · simp at h

end CellModem.Number
