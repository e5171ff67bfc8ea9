import CellModem.CommandSet
import CellModem.Host.Operation

/-!
# Operations on unsolicited reporting
-/

namespace CellModem.Operation

variable {υ : Type}

def readSwitches : List (Switch × Transaction Bool) → Step (Host υ) (List (Switch × Bool))
  | [] => return []
  | (s, query) :: rest => do
    let on ← Step.transaction query
    return (s, on) :: (← readSwitches rest)

/-- Reads all switches the module has. A driver that lacks a query, be it for a switch the module
does not have, lacks the operation. -/
def reportingProperties : Operation υ .reporting Properties where
  plan vendor driver := do
    let _ ← Switch.all.mapM fun s => driver.ask (.querySwitch s)
    let queries ← (Switch.queryOrder.filter (·.appliesTo vendor)).mapM fun s =>
      return (s, ← driver.ask (.querySwitch s))
    return do
      let readings := SwitchReadings.ofList (← readSwitches queries)
      return .learned (fun _ => readings) readings.properties

def setSwitch (s : Switch) (on : Bool) : Operation υ .reporting Unit :=
  .request (fun _ => .ok (.setSwitch s on)) fun () =>
    .changed (fun (r : SwitchReadings) => r.set s on) s.property (.bool on)

def setReportingProperty (name : String) (value : PropertyValue) : Operation υ .reporting Unit :=
  match Switch.ofProperty? name, value with
  | some s, .bool on => setSwitch s on
  | _, _ => .cannotSet name value

end CellModem.Operation
