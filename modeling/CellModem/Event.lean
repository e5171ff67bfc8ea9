import CellModem.Number.Layout
import CellModem.Text.Json

/-!
# Properties and events

Facilities show their settings as named properties. The host learns of changes, and of the life of
the modem and its SIM, through events; each can be written as one line of JSON.
-/

namespace CellModem

inductive PropertyValue where
  | bool (value : Bool)
  | uint (value : UInt32)
  | int (value : Int)
  | float (value : Number.Binary32)
  | text (value : String)
  deriving DecidableEq, Repr

/-- Properties under their names, in reporting order. -/
abbrev Properties := List (String × PropertyValue)

namespace PropertyValue

/-- In messages a number has no exponent, and a whole one no point. -/
def messageLayout : Number.Layout := ⟨none, false, .up⟩

/-- In JSON a number has an exponent below `10 ^ -6` and from `10 ^ 13` on, and a whole one is
marked as fractional. -/
def jsonLayout : Number.Layout := ⟨some (-6, 12), true, .even⟩

def floatMessage (x : Number.Binary32) : String :=
  let sign := if x.isNegative then "-" else ""
  match x.magnitude with
  | .nan => "NaN"
  | .infinite => sign ++ "inf"
  | .finite m e => sign ++ messageLayout.writeFinite m e

/-- A float in JSON, which has no infinities. -/
def floatJson (x : Number.Binary32) : String :=
  match x.magnitude with
  | .finite m e => (if x.isNegative then "-" else "") ++ jsonLayout.writeFinite m e
  | _ => "null"

def message : PropertyValue → String
  | .bool value => toString value
  | .uint value => toString value
  | .int value => toString value
  | .float value => floatMessage value
  | .text value => value

def json : PropertyValue → String
  | .bool value => toString value
  | .uint value => toString value
  | .int value => toString value
  | .float value => floatJson value
  | .text value => Text.jsonString value

end PropertyValue

inductive Event where
  | modemAdded (model : String)
  | modemRemoved
  | powered (on : Bool)
  | simInserted (inserted : Bool)
  | simReady
  | propertyChanged (facility property : String) (value : PropertyValue)
  deriving DecidableEq, Repr

/-- The event's name and its other members, in order; their values are JSON already. -/
def Event.members : Event → String × List (String × String)
  | .modemAdded model => ("modem_added", [("model", Text.jsonString model)])
  | .modemRemoved => ("modem_removed", [])
  | .powered on => ("powered", [("powered", toString on)])
  | .simInserted inserted => ("sim_inserted", [("inserted", toString inserted)])
  | .simReady => ("sim_ready", [])
  | .propertyChanged facility property value =>
    ("property_changed", [("facility", Text.jsonString facility),
      ("property", Text.jsonString property), ("value", value.json)])

/-- The event as a JSON object; its name comes first. -/
def Event.json (e : Event) : String :=
  let (name, members) := e.members
  Text.jsonObject (("event", Text.jsonString name) :: members)

end CellModem
