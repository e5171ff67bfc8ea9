import CellModem.Decoding
import CellModem.Event
import CellModem.Vendor

/-!
# Unsolicited reporting

The modem reports changes on its own as far as it has been told to. Each kind of report has a
switch, which the host sees as a property.
-/

namespace CellModem

inductive Switch where
  | networkStatus
  | gprsStatus
  | gprsEvents
  | networkType
  | rssiControl
  | simStatus
  deriving DecidableEq, Repr

namespace Switch

/-- In reporting order. -/
def all : List Switch :=
  [.networkStatus, .gprsStatus, .gprsEvents, .networkType, .rssiControl, .simStatus]

/-- In the order in which they are queried. -/
def queryOrder : List Switch :=
  [.simStatus, .rssiControl, .networkType, .gprsEvents, .gprsStatus, .networkStatus]

def property : Switch → String
  | .networkStatus => "NetworkStatus"
  | .gprsStatus => "GPRSStatus"
  | .gprsEvents => "GPRSEvents"
  | .networkType => "NetworkType"
  | .rssiControl => "RSSIControl"
  | .simStatus => "SIMStatus"

def ofProperty? (name : String) : Option Switch := all.find? (·.property = name)

theorem ofProperty?_property (s : Switch) : ofProperty? s.property = some s := by
  cases s <;> rfl

/-- Modules behind a serial multiplexer do not report the network type. -/
def appliesTo (s : Switch) (vendor : Vendor) : Bool :=
  !(s = .networkType && vendor = .telitSerial)

def commandName : Switch → String
  | .networkStatus => "+CREG"
  | .gprsStatus => "+CGREG"
  | .gprsEvents => "+CGEREP"
  | .networkType => "#PSNT"
  | .rssiControl => "+CMER"
  | .simStatus => "#QSS"

def argument : Switch → Bool → String
  | .networkStatus, true | .gprsStatus, true => "2"
  | .gprsEvents, true | .networkType, true | .simStatus, true => "1"
  | .rssiControl, true => "3,0,0,2"
  | .rssiControl, false => "0,0,0,0"
  | _, false => "0"

/-- The levels the modem answers with: 0 is off, the others are on. -/
def levels : Switch → List (Int × Bool)
  | .rssiControl => [(0, false), (1, true), (2, true), (3, true)]
  | _ => [(0, false), (1, true), (2, true)]

def lead (s : Switch) : String := s.commandName ++ ":"

def ofResponse (s : Switch) (r : Response) : Except DecodeError Bool := do
  lookupCode (← r.decodeSingle s.lead .integer) s.levels

end Switch

def SwitchReadings : Type := Switch → Option Bool

namespace SwitchReadings

def none : SwitchReadings := fun _ => Option.none

def ofList (values : List (Switch × Bool)) : SwitchReadings := fun s => values.lookup s

def set (r : SwitchReadings) (s : Switch) (on : Bool) : SwitchReadings :=
  fun t => if t = s then some on else r t

/-- The switches that are known, in reporting order. -/
def properties (r : SwitchReadings) : Properties :=
  Switch.all.filterMap fun s => (r s).map fun on => (s.property, .bool on)

end SwitchReadings

end CellModem
