import CellModem.Decoding
import CellModem.Event

/-!
# Radio reports

What the modem says about its serving cell. The technology decides which report it gives: LTE has
one of its own, the UMTS technologies share another, and no other technology has any.
-/

namespace CellModem

structure UmtsReport where
  uarfcn : Int
  ecio : Number.Binary32
  rscp : Int
  rssi : Int
  /-- The band of the channel, 0 when it lies in none. -/
  band : Nat
  deriving DecidableEq, Repr

structure LteReport where
  earfcn : Int
  rsrp : Int
  rssi : Int
  rsrq : Number.Binary32
  band : UInt32
  deriving DecidableEq, Repr

inductive RadioReport where
  | umts (report : UmtsReport)
  | lte (report : LteReport)
  deriving DecidableEq, Repr

def RadioReport.properties : RadioReport → Properties
  | .lte s => [("Tech", .text "4G"), ("EARFCN", .int s.earfcn), ("RSRP", .int s.rsrp),
      ("RSSI", .int s.rssi), ("RSRQ", .float s.rsrq), ("band", .uint s.band)]
  | .umts s => [("Tech", .text "3G"), ("UARFCN", .int s.uarfcn), ("RSCP", .int s.rscp),
      ("RSSI", .int s.rssi), ("EcIo", .float s.ecio), ("band", .uint (UInt32.ofNat s.band))]

/-! ## UMTS bands -/

/-- Channel ranges and their bands, both ends included. Two of them overlap; the first counts. -/
def umtsBands : List (Int × Int × Nat) :=
  [(10562, 10838, 1), (9662, 9938, 2), (1162, 1513, 3), (1537, 1738, 4), (4357, 4458, 5),
    (4387, 4413, 6), (2237, 2563, 7), (2937, 3088, 8), (9237, 9387, 9), (3112, 3388, 10)]

def umtsBand (uarfcn : Int) : Nat :=
  match umtsBands.find? fun (low, high, _) => low ≤ uarfcn ∧ uarfcn ≤ high with
  | some (_, _, band) => band
  | none => 0

/-! ## Reading reports -/

/-- Access technologies as the modem numbers them. -/
inductive Technology where
  | umts
  | lte
  deriving DecidableEq, Repr

/-- The kind of report of a technology, if it has one. -/
def Technology.ofCode? (code : Int) : Option Technology :=
  if code = 7 then some .lte
  else if code = 2 ∨ code = 4 ∨ code = 5 ∨ code = 6 then some .umts
  else none

/-- The technology in the answer to `AT+COPS?`, the fourth field. -/
def decodeTechnology (r : Response) : Except DecodeError Int :=
  r.decodeSingle "+COPS:" do
    .skipMany 3
    .integer

/-- A number of which only the whole part is reported. -/
def FieldReader.truncated : FieldReader Int := do
  return (← FieldReader.float).truncate

/-- `#RFSTS: <network>,<channel>,<scrambling code>,<Ec/Io>,<RSCP>,<RSSI>,...` -/
def UmtsReport.ofResponse (r : Response) : Except DecodeError UmtsReport :=
  r.decodeSingle "#RFSTS:" do
    .skip
    let uarfcn ← .integer
    .skip
    let ecio ← .float
    let rscp ← .truncated
    let rssi ← .truncated
    return { uarfcn, ecio, rscp, rssi, band := umtsBand uarfcn }

/-- `#RFSTS: <network>,<channel>,<RSRP>,<RSSI>,<RSRQ>,` ten more fields, `<band>,...` -/
def LteReport.ofResponse (r : Response) : Except DecodeError LteReport :=
  r.decodeSingle "#RFSTS:" do
    .skip
    let earfcn ← .integer
    let rsrp ← .truncated
    let rssi ← .truncated
    let rsrq ← .float
    .skipMany 10
    let band ← .uint32
    return { earfcn, rsrp, rssi, rsrq, band }

end CellModem
