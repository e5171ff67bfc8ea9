import CellModem.Host

/-!
# Operations

An operation of an instance is refused when the instance is gone or has another operation under
way. Otherwise the instance is busy until the operation is answered. The operation first asks the
driver for all it needs; arguments that cannot be used and requests the driver lacks end it before
anything is sent. A success updates what the instance remembers, and announces a change if the
instance is shown to the host. Whoever asked is answered last, when the instance is free again.
-/

namespace CellModem

/-- What a successful operation comes to. -/
structure Settled (f : Facility) (ρ : Type) where
  store : f.Cache → f.Cache
  /-- The property that is announced as changed. -/
  change : Option (String × PropertyValue)
  answer : ρ

namespace Settled

variable {f : Facility} {ρ : Type}

def passing (answer : ρ) : Settled f ρ := ⟨id, none, answer⟩

def learned (store : f.Cache → f.Cache) (answer : ρ) : Settled f ρ := ⟨store, none, answer⟩

def changed (store : f.Cache → f.Cache) (property : String) (value : PropertyValue) :
    Settled f Unit :=
  ⟨store, some (property, value), ()⟩

end Settled

structure Operation (υ : Type) (f : Facility) (ρ : Type) where
  plan : Vendor → Driver → Ask (Step (Host υ) (Settled f ρ))

namespace Operation

variable {υ : Type} {f : Facility} {ρ α : Type}

/-- An operation that is one request. The request is made up from the arguments, which may be
refused. -/
def request (make : Vendor → Except Error (Request α)) (settle : α → Settled f ρ) :
    Operation υ f ρ where
  plan vendor driver := do
    let transaction ← driver.ask (← make vendor)
    return settle <$> Step.transaction transaction

def refused (e : Error) : Operation υ f ρ := ⟨fun _ _ => throw e⟩

def cannotSet (name : String) (value : PropertyValue) : Operation υ f ρ :=
  refused (.invalidArgument s!"cannot set {name} to {value.message}")

end Operation

namespace Host

variable {υ : Type} {f : Facility} {ρ α : Type}

/-- Asks for requests at the host's expense. -/
def asking (ask : Ask α) : Step (Host υ) α := ExceptT.mk <|
  modifyGet fun h =>
    let (asked, allowance) := ask.run h.allowance
    (asked, { h with allowance := allowance })

/-- Takes an instance for an operation, if it is free; returns its flavour and its driver. -/
def claim (f : Facility) (i : Nat) (h : Host υ) : Except Error (Vendor × Driver) × Host υ :=
  match h.instance? f i with
  | none => (.error .instanceGone, h)
  | some inst =>
    if inst.life.state = .removed then (.error .instanceGone, h)
    else if inst.busy then (.error .busy, h)
    else match inst.driver with
      | none => (.error .instanceGone, h)
      | some driver =>
        (.ok (inst.vendor, driver), h.modifyInstance f i fun inst => { inst with busy := true })

def release (f : Facility) (i : Nat) (h : Host υ) : Host υ :=
  h.modifyInstance f i fun inst => { inst with busy := false }

/-- Announces that a property has changed, if the instance is shown to the host. -/
def announce (f : Facility) (i : Nat) (change : String × PropertyValue) (h : Host υ) : Host υ :=
  match h.instance? f i with
  | some inst =>
    if inst.life.state = .registered then h.emit (.propertyChanged f.name change.1 change.2) else h
  | none => h

/-- Frees an instance after an operation, with all that comes of a success. -/
def settle (i : Nat) (result : Except Error (Settled f ρ)) (h : Host υ) : Host υ :=
  match result with
  | .error _ => h.release f i
  | .ok settled =>
    let h := (h.release f i).modifyInstance f i fun inst =>
      { inst with cache := settled.store inst.cache }
    match settled.change with
    | none => h
    | some change => h.announce f i change

def carryOut (op : Operation υ f ρ) (vendor : Vendor) (driver : Driver) :
    Step (Host υ) (Settled f ρ) := do
  let step ← asking (op.plan vendor driver)
  step

def perform (i : Nat) (op : Operation υ f ρ) : Step (Host υ) ρ := ExceptT.mk do
  match ← modifyGet (claim f i) with
  | .error e => return .error e
  | .ok (vendor, driver) =>
    let result ← (carryOut op vendor driver).run
    modify (settle i result)
    return result.map Settled.answer

end Host

end CellModem
