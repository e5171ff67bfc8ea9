import CellModem.Host.Creation
import CellModem.Modem.Multitech
import CellModem.Modem.Power

/-!
# Bringing a modem up and taking it down

Once a modem is switched on, its facilities are created: those that need no SIM first, then those
that need the network. A facility that no driver accepts is left out. A modem is taken down by
removing its facilities and switching it off.
-/

namespace CellModem

namespace Model

def radioVendor : Model → Vendor
  | .telitSerial | .ge910 => .default
  | .le910v2 => .le910v2

def serialVendor : Model → Vendor
  | .telitSerial | .ge910 => .telitSerial
  | .le910v2 => .default

/-- The facilities that need no SIM, with their flavours. -/
def basicFacilities (model : Model) : List (Facility × Vendor) :=
  let further := match model with
    | .le910v2 => [(.logicalChannels, .default), (.survey, .default)]
    | .telitSerial | .ge910 => []
  [(.power, .default), (.hardware, .default)] ++ further

/-- The facilities that need the network, with their flavours. -/
def onlineFacilities (model : Model) : List (Facility × Vendor) :=
  let provider := match model with
    | .telitSerial | .le910v2 => [(.provider, model.serialVendor)]
    | .ge910 => []
  let trace := match model with
    | .le910v2 => [(.trace, .le910v2)]
    | .telitSerial | .ge910 => []
  [(.radioSettings, model.radioVendor), (.reporting, model.serialVendor)] ++ provider
    ++ [(.dataNetwork, .default)] ++ trace

end Model

variable {υ : Type}

namespace Modem

def basic : List Facility := [.power, .hardware, .logicalChannels, .survey]

def online : List Facility := [.radioSettings, .reporting, .provider, .dataNetwork, .trace]

/-- Creates instances in order; returns the numbers of those that a driver accepted. -/
def createEach : List (Facility × Vendor) → Act (Host υ) (List (Facility × Nat))
  | [] => return []
  | (f, vendor) :: rest => do
    let created ← (Host.create f vendor (some driverName)).run
    let more ← createEach rest
    match created with
    | .ok number => return (f, number) :: more
    | .error _ => return more

/-- Puts the created instances in the places of `places`; places without one become empty. -/
def install (places : List Facility) (created : List (Facility × Nat)) (m : Modem) : Modem :=
  { m with facilities := places.foldl (fun p f => p.set f (created.lookup f)) m.facilities }

/-- Creates the facilities that need no SIM. -/
def preSim (i : Nat) (model : Model) : Act (Host υ) Unit := do
  let created ← createEach model.basicFacilities
  modify (·.modifyModem i (install basic created))
  if model = .le910v2 then Act.fork (settleMultitech i)

/-- Creates the facilities that need the network, and has the modem attach on its own. -/
def postOnline (i : Nat) (model : Model) : Act (Host υ) Unit := do
  let created ← createEach model.onlineFacilities
  modify (·.modifyModem i (install online created))
  Act.fork do
    let _ ← (attempt "AT#AUTOATT=1").run

def bringUp (i : Nat) (model : Model) : Step (Host υ) Unit := do
  enable i model
  ExceptT.lift (preSim i model)
  ExceptT.lift (postOnline i model)

/-! ## Taking down -/

def removeFacilities (i : Nat) (h : Host υ) : Host υ :=
  match h.modems[i]? with
  | none => h
  | some m =>
    let emptied := h.modifyModem i fun m => { m with facilities := .ofFn fun _ => none }
    (basic ++ online).foldl
      (fun h f => match m.facilities.get f with
        | some number => h.removeInstance f number
        | none => h)
      emptied

def takeDown (i : Nat) : Step (Host υ) Unit := do
  modify (removeFacilities i)
  disable i

end Modem

end CellModem
