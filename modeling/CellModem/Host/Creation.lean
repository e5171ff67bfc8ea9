import CellModem.CommandSet
import CellModem.Host

/-!
# Creating instances

A new instance is offered to the drivers that match. Most show it to the host as they accept it. For
radio settings the modem is asked first: the instance is shown once it has answered, and removed
when it does not know the command.
-/

namespace CellModem

variable {υ : Type}

/-- The name under which the drivers of this library are registered. -/
def driverName : String := "telitmodem"

namespace Host

def accept (f : Facility) (i : Nat) (vendor : Vendor) : Act (Host υ) Unit :=
  match f with
  | .radioSettings =>
    Act.fork do
      let request := (Request.queryRadioMode vendor).transaction
      let supported : Step (Host υ) Unit :=
        .transaction ⟨request.command, request.leads, fun _ => .ok ()⟩
      match ← supported.run with
      | .ok () => modify (·.showInstance f i)
      | .error _ => modify (·.retract f i)
  | _ => modify (·.showInstance f i)

/-- Offers an instance to a driver; returns whether it accepts. -/
def probe (f : Facility) (vendor : Vendor) (d : Descriptor Driver) (i : Nat) :
    Act (Host υ) Bool :=
  match d.body with
  | .bare => return true
  | .full => do
    accept f i vendor
    return true
  | .rationed => do
    let admitted ← modifyGet fun h =>
      let (admitted, allowance) := h.allowance.spendProbe
      (admitted, { h with allowance := allowance })
    if admitted then accept f i vendor
    return admitted

/-- Creates an instance with the driver of the name, or with any; returns its number. -/
def create (f : Facility) (vendor : Vendor) (name? : Option String) : Step (Host υ) Nat :=
  ExceptT.mk do
    let registry := (← get).registries.get f
    let created ← registry.create name? (modifyGet (·.addInstance f vendor)) (probe f vendor)
      fun d i => modify (·.bindInstance f i d)
    return created.map (·.2)

/-! ## The drivers of this library -/

def registerDriver (f : Facility) (name : String) (driver : Driver) (h : Host υ) :
    Except Error (Host υ) := do
  let registry ← (h.registries.get f).register ⟨h.descriptors, name, driver⟩
  return { h with registries := h.registries.set f registry, descriptors := h.descriptors + 1 }

/-- Registers a driver for every facility, up to the first where that fails. -/
def registerDrivers (name : String) (driver : Driver) (h : Host υ) : Except Error Unit × Host υ :=
  go Facility.all h
where
  go : List Facility → Host υ → Except Error Unit × Host υ
    | [], h => (.ok (), h)
    | f :: rest, h =>
      match registerDriver f name driver h with
      | .ok h => go rest h
      | .error e => (.error e, h)

def unregisterDrivers (name : String) (h : Host υ) : Host υ :=
  { h with registries := .ofFn fun f => ((h.registries.get f).unregister name).2 }

end Host

end CellModem
