import CellModem.Number.Shortest

/-!
# Writing digits out

Where the point goes, when an exponent is written instead of zeros, and what else a kind of text
decides about the numbers in it.
-/

namespace CellModem.Number

/-- The decisions of one kind of text about the numbers in it. -/
structure Layout where
  /-- The least and the greatest power of ten of the first digit at which a number is written
  without an exponent; `none` writes every number so. -/
  positional : Option (Int × Int)
  /-- Whether a whole number written without an exponent ends in `.0`. -/
  pointZero : Bool
  tie : Tie
  deriving DecidableEq, Repr

namespace Layout

def writePositional (layout : Layout) (d : Digits) : String :=
  let digits := Nat.toDigits 10 d.digits
  let whole (n : List Char) := String.ofList n ++ if layout.pointZero then ".0" else ""
  if 0 ≤ d.exponent then whole (digits ++ List.replicate d.exponent.toNat '0')
  else
    let places := (-d.exponent).toNat
    if places < digits.length then
      let split := digits.length - places
      String.ofList (digits.take split ++ '.' :: digits.drop split)
    else
      String.ofList ('0' :: '.' :: List.replicate (places - digits.length) '0' ++ digits)

/-- One digit, the others behind a point, and the power of ten with its sign. -/
def writeScientific (d : Digits) (power : Int) : String :=
  let mark := (if power < 0 then "e-" else "e+") ++ toString power.natAbs
  match Nat.toDigits 10 d.digits with
  | [] => mark
  | [c] => String.ofList [c] ++ mark
  | c :: cs => String.ofList (c :: '.' :: cs) ++ mark

def writeDigits (layout : Layout) (d : Digits) : String :=
  let power : Int := (Nat.toDigits 10 d.digits).length + d.exponent - 1
  match layout.positional with
  | none => layout.writePositional d
  | some (low, high) =>
    if low ≤ power ∧ power ≤ high then layout.writePositional d else writeScientific d power

def writeFinite (layout : Layout) (m : Nat) (e : Int) : String :=
  if m = 0 then if layout.pointZero then "0.0" else "0"
  else layout.writeDigits (Digits.shortest layout.tie m e)

end Layout

end CellModem.Number
