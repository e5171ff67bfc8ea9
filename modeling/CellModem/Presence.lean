/-!
# Presence of the device

The device node of the multiplexer comes and goes. The host follows it in four states; while it is
attaching or detaching, a delay lets the device settle.
-/

namespace CellModem

inductive Presence where
  | detached
  | attaching
  | attached
  | detaching
  deriving DecidableEq, Repr

namespace Presence

def all : List Presence := [.detached, .attaching, .attached, .detaching]

def name : Presence → String
  | .detached => "detached"
  | .attaching => "attaching"
  | .attached => "attached"
  | .detaching => "detaching"

def ofName? (text : String) : Option Presence := all.find? (·.name = text)

theorem ofName?_name (p : Presence) : ofName? p.name = some p := by
  cases p <;> rfl

end Presence

/-- What the host is asked to do about its modem. -/
inductive PresenceAction where
  | create
  | remove
  deriving DecidableEq, Repr

def PresenceAction.name : PresenceAction → String
  | .create => "create"
  | .remove => "remove"

end CellModem
