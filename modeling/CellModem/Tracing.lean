import CellModem.Decoding
import CellModem.Event

/-!
# Tracing inside the modem

One family of modules has its own trace commands, whose status is a listing and whose mask is not
quoted. The port layout is common to all.
-/

namespace CellModem

structure TraceSettings where
  enabled : Bool
  portConfig : UInt32
  mask : String
  deriving DecidableEq, Repr

namespace TraceSettings

def initial : TraceSettings := ⟨false, 0, ""⟩

def properties (s : TraceSettings) : Properties :=
  [("TraceStatus", .bool s.enabled), ("PortConfig", .uint s.portConfig),
    ("TraceConfig", .text s.mask)]

/-- Longest mask, in characters. A longer one that is reported is cut. -/
def maxMaskLength : Nat := 64

def cutMask (mask : String) : String := String.ofList (mask.toList.take maxMaskLength)

def statusCodes : List (Int × Bool) := [(0, false), (1, true)]

def decodeStatus (r : Response) : Except DecodeError Bool := do
  lookupCode (← r.decodeSingle "+TRACE:" .integer) statusCodes

/-- Most lines a status listing may have. -/
def maxListing : Nat := 10

/-- The first flag in a listing; one without flags reads as off. -/
def listedStatus : List String → Bool
  | [] => false
  | line :: rest =>
    if Text.mentions line "Trace flags:" then listedStatus rest
    else if Text.mentions line "tr:1" then true
    else if Text.mentions line "tr:0" then false
    else listedStatus rest

def decodeListing (r : Response) : Except DecodeError Bool :=
  if maxListing < r.lines.length then .error (.tooManyRows maxListing)
  else .ok (listedStatus r.lines)

/-- `#PORTCFG: <requested>,<active>`; the active layout counts. -/
def decodePortConfig (r : Response) : Except DecodeError UInt32 :=
  r.decodeSingle "#PORTCFG:" do
    .skip
    .uint32

def decodeMask (r : Response) : Except DecodeError String :=
  r.decodeSingle "+XTRACECONFIG:" do
    let _ ← .integer
    let _ ← .integer
    return cutMask (← .quotedString)

def decodePlainMask (r : Response) : Except DecodeError String :=
  r.decodeSingle "#RTDE:" do
    return cutMask (← .token)

/-! ## Commands of the family with a listing -/

def listingQuery : String := "AT+XSYSTRACE=1,,\"bb_sw=#\""

def listingLeads : List String := ["Trace flags:", "tr:"]

def listingOff : String := "AT+XSYSTRACE=0"

/-- Turns every trace source on. -/
def listingOn : String :=
  "AT+XSYSTRACE=0,"
    ++ "\"bb_sw=1;3g_sw=1;lte_l1_sw=1;digrfx=1;3g_dsp=1\","
    ++ "\"bb_sw=sdl:th,tr,st,pr,mo,lt,db,li,sy"
    ++ "|fts:xllt(gprs,umts),mon(gprs,umts),sdl(gprs,umts),llt(gprs,umts)"
    ++ "|egdci:0x00000001|lte_stk:0x02,0x83FFFFFF|ims:1"
    ++ "|lte_stk:0x01,0xFFFFFFFF,0xFFFFFFFF,0xFFFFFFFF,0xFFFFFFFF"
    ++ "|xllt:xllt_set_template(1,\x7bbasic\x7d);digrfx=0x0003;lte_l1_sw=(ALL,NORMAL,ALL,ALL)\","
    ++ "\"oct=4;oct_fcs=16\""

end TraceSettings

end CellModem
