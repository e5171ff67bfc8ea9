import CellModem.Fields
import CellModem.Response

/-!
# Reading an answer

An answer is read line by line: the next line that starts with a given lead, or the next line
whatever it is. A table is every line with one lead, a row each; more rows than the table may have
refuse it as a whole.
-/

namespace CellModem

structure Decoder where
  lines : List String
  deriving DecidableEq, Repr

namespace Decoder

def ofResponse (r : Response) : Decoder := ⟨r.lines⟩

def fieldsAfter? (lead line : String) : Option Fields :=
  (Text.dropLead? lead.toList line.toList).map fun rest => ⟨some rest, 0⟩

/-- The first of the lines that starts with `lead`, as its fields, and the lines behind it. -/
def seek (lead : String) : List String → Except DecodeError Fields × Decoder
  | [] => (.error (.leadNotFound lead), ⟨[]⟩)
  | line :: rest =>
    match fieldsAfter? lead line with
    | some fields => (.ok fields, ⟨rest⟩)
    | none => seek lead rest

def nextLine (lead : String) (d : Decoder) : Except DecodeError Fields × Decoder :=
  seek lead d.lines

def nextRaw (d : Decoder) : Option String × Decoder :=
  match d.lines with
  | [] => (none, d)
  | line :: rest => (some line, ⟨rest⟩)

def remaining (d : Decoder) : Nat := d.lines.length

end Decoder

def Response.decodeSingle {α : Type} (r : Response) (lead : String) (read : FieldReader α) :
    Except DecodeError α := do
  let fields ← ((Decoder.ofResponse r).nextLine lead).1
  (read.run fields).1

/-! ## Tables -/

section Tables

variable {m : Type → Type} [Monad m] {α : Type}

/-- Reads `count` rows, the first of them numbered `index`. -/
def Decoder.rows (lead : String) (row : Nat → Fields → ExceptT DecodeError m α) :
    (count index : Nat) → Decoder → ExceptT DecodeError m (List α)
  | 0, _, _ => pure []
  | count + 1, index, d => do
    let (fields, d) := d.nextLine lead
    let value ← row index (← fields)
    return value :: (← rows lead row count (index + 1) d)

/-- Reads every line with the lead as a row. Rows count from zero. -/
def Response.decodeTableWith (r : Response) (lead : String) (cap : Nat)
    (row : Nat → Fields → ExceptT DecodeError m α) : ExceptT DecodeError m (List α) :=
  let count := (r.lines.filter fun line => Text.startsWith line lead).length
  if cap < count then throw (.tooManyRows cap)
  else (Decoder.ofResponse r).rows lead row count 0

def Response.decodeTable (r : Response) (lead : String) (cap : Nat)
    (row : Nat → FieldReader α) : Except DecodeError (List α) :=
  let readRow (index : Nat) (fields : Fields) : ExceptT DecodeError Id α :=
    ((row index).run fields).1
  (r.decodeTableWith lead cap readRow).run

end Tables

/-! ## Codes -/

/-- What a code stands for; the first entry counts. -/
def lookupCode {α : Type} (code : Int) (table : List (Int × α)) : Except DecodeError α :=
  match table.lookup code with
  | some value => .ok value
  | none => .error (.unknownCode code)

end CellModem
