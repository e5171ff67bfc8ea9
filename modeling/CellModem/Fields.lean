import CellModem.Error
import CellModem.Number.Reading
import CellModem.Text.Blank

/-!
# The fields of a line

A line carries fields between commas. A field in double quotes may hold commas and ends at the next
quote. `Fields` walks them from the left: every read consumes one field, whether it succeeds or not.
-/

namespace CellModem

/-- A place between two fields of a line. -/
structure Fields where
  /-- The text from the next field on; `none` once the last field is consumed. -/
  rest : Option (List Char)
  index : Nat
  deriving DecidableEq, Repr

inductive RawField where
  | plain (text : List Char)
  | quoted (text : List Char)
  /-- A quote without its partner takes the rest of the line. -/
  | unterminated
  deriving DecidableEq, Repr

namespace Fields

def ofText (text : String) : Fields := ⟨some text.toList, 0⟩

/-- The text behind the first `mark`, when there is one, and what stands before it. -/
def cutAt (mark : Char) (text : List Char) : List Char × Option (List Char) :=
  match text.span (· ≠ mark) with
  | (before, []) => (before, none)
  | (before, _ :: behind) => (before, some behind)

/-- The text behind a comma that follows, after blanks at most. -/
def afterComma? (text : List Char) : Option (List Char) :=
  Text.dropLead? [','] (Text.trimStart text)

/-- The first field of a text and the text of the fields behind it. A quoted field has none behind
it unless a comma comes next. -/
def splitField (text : List Char) : RawField × Option (List Char) :=
  match Text.trimStart text with
  | '"' :: body =>
    match cutAt '"' body with
    | (_, none) => (.unterminated, none)
    | (field, some behind) => (.quoted field, afterComma? behind)
  | body =>
    let (field, behind) := cutAt ',' body
    (.plain (Text.trimEnd field), behind)

/-- Consumes a field. At the end of the line there is none, and the place stays as it is. -/
def take (f : Fields) : Except DecodeError (Nat × RawField) × Fields :=
  match f.rest with
  | none => (.error (.fieldMissing f.index), f)
  | some text =>
    let (field, behind) := splitField text
    (.ok (f.index, field), ⟨behind, f.index + 1⟩)

/-- Consumes a field and makes something of it. An empty field counts as missing. -/
def takeAs {α : Type} (expected : FieldKind) (read? : RawField → Option α) (f : Fields) :
    Except DecodeError α × Fields :=
  match f.take with
  | (.error e, f) => (.error e, f)
  | (.ok (index, .plain []), f) => (.error (.fieldMissing index), f)
  | (.ok (index, field), f) =>
    match read? field with
    | some a => (.ok a, f)
    | none => (.error (.fieldMismatch index expected), f)

def integer (f : Fields) : Except DecodeError Int × Fields :=
  f.takeAs .integer fun
    | .plain text => Number.readInt64? text
    | _ => none

def float (f : Fields) : Except DecodeError Number.Binary32 × Fields :=
  f.takeAs .float fun
    | .plain text => Number.readBinary32? text
    | _ => none

def quotedString (f : Fields) : Except DecodeError String × Fields :=
  f.takeAs .quotedString fun
    | .quoted text => some (String.ofList text)
    | _ => none

def token (f : Fields) : Except DecodeError String × Fields :=
  f.takeAs .token fun
    | .plain text => some (String.ofList text)
    | _ => none

def skip (f : Fields) : Except DecodeError Unit × Fields :=
  match f.take with
  | (.error e, f) => (.error e, f)
  | (.ok _, f) => (.ok (), f)

def skipMany : (count : Nat) → (f : Fields) → Except DecodeError Unit × Fields
  | 0, f => (.ok (), f)
  | count + 1, f =>
    match f.skip with
    | (.error e, f) => (.error e, f)
    | (.ok _, f) => skipMany count f

end Fields

/-! ## Reading several fields -/

/-- Reads fields in turn and stops at the first that cannot be read. -/
abbrev FieldReader := ExceptT DecodeError (StateM Fields)

namespace FieldReader

def integer : FieldReader Int := fun f => f.integer
def float : FieldReader Number.Binary32 := fun f => f.float
def quotedString : FieldReader String := fun f => f.quotedString
def token : FieldReader String := fun f => f.token
def skip : FieldReader Unit := fun f => f.skip
def skipMany (count : Nat) : FieldReader Unit := fun f => f.skipMany count

def fitUInt32 (value : Int) : Except DecodeError UInt32 :=
  match Number.toUInt32? value with
  | some u => .ok u
  | none => .error (.outOfRange value 0xFFFFFFFF)

def uint32 : FieldReader UInt32 := do
  let value ← integer
  fitUInt32 value

end FieldReader

end CellModem
