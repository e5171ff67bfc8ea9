import CellModem.Decoding
import CellModem.Event

/-!
# Network selection

How the modem chooses networks and bands.
-/

namespace CellModem

/-- The bands the modem may use, a bit each. -/
structure BandMasks where
  umts : UInt32
  lte : UInt32
  deriving DecidableEq, Repr

def BandMasks.none : BandMasks := ⟨0, 0⟩

structure NetworkSettings where
  enhanced : Bool
  automatic : Bool
  bands : BandMasks
  deriving DecidableEq, Repr

def NetworkSettings.initial : NetworkSettings := ⟨false, false, .none⟩

def NetworkSettings.properties (s : NetworkSettings) : Properties :=
  [("EnhancedNetworkSelection", .bool s.enhanced), ("AutomaticBandSelection", .bool s.automatic),
    ("LTEBandSelection", .uint s.bands.lte)]

/-- `#BND: <GSM>,<UMTS>,<LTE>` -/
def BandMasks.ofResponse (r : Response) : Except DecodeError BandMasks :=
  r.decodeSingle "#BND:" do
    .skip
    let umts ← .uint32
    let lte ← .uint32
    return { umts, lte }

def enhancedCodes : List (Int × Bool) := [(0, false), (1, true)]

def automaticCodes : List (Int × Bool) := [(0, false), (2, true)]

/-- A flag whose code is the first field of the line with the lead. -/
def decodeFlag (lead : String) (codes : List (Int × Bool)) (r : Response) :
    Except DecodeError Bool := do
  lookupCode (← r.decodeSingle lead .integer) codes

end CellModem
