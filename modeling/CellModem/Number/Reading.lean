import CellModem.Number.Decimal
import CellModem.Number.Integer

/-!
# Reading fractional numbers

A fractional number is an optional sign and then `inf`, `infinity` or `nan` in any case, or digits
with at most one point among or around them and an optional exponent: `e` or `E`, an optional sign
and at least one digit. There is at least one digit before the exponent. Nothing else may stand in
the text.
-/

namespace CellModem.Number

def spanDigits (text : List Char) : List Char × List Char :=
  text.span fun c => (digitValue? c).isSome

def digitsValue (digits : List Char) : Nat :=
  digits.foldl (fun n c => n * 10 + (digitValue? c).getD 0) 0

/-- The value of an exponent's digits. Once it has reached `2 ^ 16` further digits change nothing:
no number has so many digits that the difference could matter. -/
def exponentValue (digits : List Char) : Nat :=
  digits.foldl (fun n c => if n < 65536 then n * 10 + (digitValue? c).getD 0 else n) 0

/-- The exponent that ends a number; there may be none. -/
def readExponent? : List Char → Option Int
  | [] => some 0
  | c :: rest =>
    if c = 'e' ∨ c = 'E' then
      let (negative, digits) := match rest with
        | '-' :: digits => (true, digits)
        | '+' :: digits => (false, digits)
        | digits => (false, digits)
      if digits ≠ [] ∧ digits.all (fun d => (digitValue? d).isSome) then
        some (if negative then -(exponentValue digits : Int) else exponentValue digits)
      else none
    else none

/-- Digits, point and exponent, without sign. -/
def readUnsigned? (negative : Bool) (text : List Char) : Option Decimal :=
  let (whole, rest) := spanDigits text
  let (fraction, rest) := match rest with
    | '.' :: rest => spanDigits rest
    | rest => ([], rest)
  if whole = [] ∧ fraction = [] then none
  else (readExponent? rest).map fun e =>
    ⟨negative, digitsValue (whole ++ fraction), e - fraction.length⟩

def readNamed? (negative : Bool) (text : List Char) : Option Binary32 :=
  let name := String.ofList (text.map Char.toLower)
  if name = "inf" ∨ name = "infinity" then some (.infinity negative)
  else if name = "nan" then some (.nan negative)
  else none

/-- The nearest binary32 number to the one written. -/
def readBinary32? (text : List Char) : Option Binary32 :=
  let (negative, body) := match text with
    | '-' :: body => (true, body)
    | '+' :: body => (false, body)
    | body => (false, body)
  match readNamed? negative body with
  | some x => some x
  | none => (readUnsigned? negative body).map Decimal.toBinary32

end CellModem.Number
