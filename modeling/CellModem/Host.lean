import CellModem.Driver
import CellModem.Facility
import CellModem.Lifecycle
import CellModem.Modem.Model
import CellModem.Registry
import CellModem.Step

/-!
# The host's state

The host knows the drivers, every instance of a facility that was ever created, every modem, and the
events it has emitted. `υ` is what an observer keeps beside these.
-/

namespace CellModem

structure Instance (f : Facility) where
  vendor : Vendor
  driverName : String
  life : Lifecycle Unit
  /-- The driver, until the instance is removed. -/
  driver : Option Driver
  busy : Bool
  cache : f.Cache

/-- A new instance, whose driver is still to be found. -/
def Instance.fresh (f : Facility) (vendor : Vendor) : Instance f :=
  ⟨vendor, "", .probing, none, false, .initial f⟩

structure Host (υ : Type) where
  registries : PerFacility fun _ => Registry Driver
  allowance : Allowance
  /-- All instances there have been; an instance's number is its place. -/
  instances : PerFacility fun f => List (Instance f)
  modems : List Modem
  listening : Bool
  events : List Event
  /-- The instances whose drivers have been let go, in that order. -/
  retired : List (Facility × Nat)
  descriptors : Nat
  observed : υ

namespace Host

variable {υ : Type}

def initial (observed : υ) : Host υ where
  registries := .ofFn fun f => .empty f.name
  allowance := .unlimited
  instances := .ofFn fun _ => []
  modems := []
  listening := true
  events := []
  retired := []
  descriptors := 0
  observed := observed

/-! ## Events -/

def emit (h : Host υ) (event : Event) : Host υ :=
  if h.listening then { h with events := h.events ++ [event] } else h

def emitAll (h : Host υ) (events : List Event) : Host υ := events.foldl emit h

/-! ## Instances -/

def instance? (h : Host υ) (f : Facility) (i : Nat) : Option (Instance f) := (h.instances.get f)[i]?

def modifyInstance (h : Host υ) (f : Facility) (i : Nat) (change : Instance f → Instance f) :
    Host υ :=
  { h with instances := h.instances.set f ((h.instances.get f).modify i change) }

/-- Adds an instance whose driver is still to be found; returns its number. -/
def addInstance (h : Host υ) (f : Facility) (vendor : Vendor) : Nat × Host υ :=
  let known := h.instances.get f
  (known.length, { h with instances := h.instances.set f (known ++ [.fresh f vendor]) })

/-- Notes that a driver has been let go, if `teardown` says so. -/
def retire (h : Host υ) (f : Facility) (i : Nat) (teardown : Option Unit) : Host υ :=
  match teardown with
  | none => h
  | some () => { h with retired := h.retired ++ [(f, i)] }

def showInstance (h : Host υ) (f : Facility) (i : Nat) : Host υ :=
  h.modifyInstance f i fun inst => { inst with life := inst.life.register }

/-- Removes an instance. Its driver stays bound, but no operation reaches it any more. -/
def retract (h : Host υ) (f : Facility) (i : Nat) : Host υ :=
  match h.instance? f i with
  | none => h
  | some inst =>
    let (teardown, life) := inst.life.remove
    (h.modifyInstance f i fun inst => { inst with life := life }).retire f i teardown

def removeInstance (h : Host υ) (f : Facility) (i : Nat) : Host υ :=
  (h.modifyInstance f i fun inst => { inst with driver := none }).retract f i

def bindInstance (h : Host υ) (f : Facility) (i : Nat) (d : Descriptor Driver) : Host υ :=
  match h.instance? f i with
  | none => h
  | some inst =>
    let (teardown, life) := inst.life.bind ()
    (h.modifyInstance f i fun inst =>
      { inst with life := life, driver := some d.body, driverName := d.name }).retire f i teardown

/-! ## Modems -/

def modifyModem (h : Host υ) (i : Nat) (change : Modem → Modem) : Host υ :=
  { h with modems := h.modems.modify i change }

def addModem (h : Host υ) (model : Model) : Nat × Host υ :=
  (h.modems.length, { h with modems := h.modems ++ [.initial model] })

end Host

end CellModem
