import CellModem.Decoding

/-!
# Packet data profiles
-/

namespace CellModem

structure Profile where
  cid : UInt32
  pdpType : String
  apn : String
  deriving DecidableEq, Repr

def checkLength (what text : String) (max : Nat) : Except Error Unit :=
  if max < text.toList.length then .error (.invalidArgument s!"{what} longer than {max} characters")
  else .ok ()

/-- Text that can stand between quotes. -/
def checkUnquoted (what text : String) : Except Error Unit :=
  if text.toList.contains '"' then .error (.invalidArgument s!"{what} must not contain quotes")
  else .ok ()

namespace Profile

def maxCount : Nat := 16

/-- The number of a profile as its user writes it, in at most four characters. -/
def parseCid (text : String) : Except Error UInt32 := do
  checkLength "cid" text 4
  match Number.readUInt32? text.toList with
  | some cid => return cid
  | none => throw (.invalidArgument ("cid " ++ Text.quoted text ++ " is not a number"))

def parse (cid pdpType apn : String) : Except Error Profile := do
  let cid ← parseCid cid
  checkLength "PDP type" pdpType 8
  checkLength "APN" apn 40
  checkUnquoted "PDP type" pdpType
  checkUnquoted "APN" apn
  return { cid, pdpType, apn }

/-- The profile as `AT+CGDCONT=` takes it. -/
def argument (p : Profile) : String :=
  s!"{p.cid},\"{p.pdpType}\",\"{p.apn}\""

/-- One `+CGDCONT:` line; what stands behind the three fields is of no interest. -/
def row : FieldReader Profile := do
  let cid ← .uint32
  let pdpType ← .quotedString
  let apn ← .quotedString
  return { cid, pdpType, apn }

def ofResponse (r : Response) : Except DecodeError (List Profile) :=
  r.decodeTable "+CGDCONT:" maxCount fun _ => row

end Profile

end CellModem
