/-!
# Blank characters

Text is trimmed by the Unicode property `White_Space`: the controls from tab to carriage return,
the next-line control, and every space separator and line or paragraph separator. The zero-width
space is not one of them.
-/

namespace CellModem.Text

/-- The characters with the property `White_Space`. -/
def isBlank (c : Char) : Bool :=
  let n := c.toNat
  (0x09 ≤ n && n ≤ 0x0D) || n == 0x20 || n == 0x85 || n == 0xA0 || n == 0x1680
    || (0x2000 ≤ n && n ≤ 0x200A) || n == 0x2028 || n == 0x2029 || n == 0x202F
    || n == 0x205F || n == 0x3000

def trimStart (text : List Char) : List Char :=
  text.dropWhile isBlank

def trimEnd (text : List Char) : List Char :=
  (text.reverse.dropWhile isBlank).reverse

def trim (text : List Char) : List Char :=
  trimEnd (trimStart text)

/-! ## Leading and contained text -/

def dropLead? : (lead text : List Char) → Option (List Char)
  | [], text => some text
  | _ :: _, [] => none
  | l :: lead, c :: text => if l = c then dropLead? lead text else none

theorem dropLead?_eq_some_iff {lead text rest : List Char} :
    dropLead? lead text = some rest ↔ text = lead ++ rest := by
  induction lead generalizing text with
  | nil => simp [dropLead?, eq_comm]
  | cons l lead ih =>
    cases text with
    | nil => simp [dropLead?]
    | cons c text =>
      by_cases h : l = c <;> simp [dropLead?, h, ih]
      exact fun e => absurd e.symm h

def startsWith (line lead : String) : Bool :=
  (dropLead? lead.toList line.toList).isSome

def contains (part : List Char) : List Char → Bool
  | [] => (dropLead? part []).isSome
  | c :: text => (dropLead? part (c :: text)).isSome || contains part text

def mentions (line part : String) : Bool :=
  contains part.toList line.toList

end CellModem.Text
