import CellModem.Error
import CellModem.Routine

/-!
# Drivers to choose from

A registry holds drivers under distinct names, in order of registration. A new instance is offered
to those that match, in that order, each with a handle of its own; the first that accepts it is
bound to it.
-/

namespace CellModem

/-- A driver on offer. Two registrations with one `id` are of the same driver. -/
structure Descriptor (β : Type) where
  id : Nat
  name : String
  body : β
  deriving DecidableEq, Repr

structure Registry (β : Type) where
  facility : String
  drivers : List (Descriptor β)
  deriving DecidableEq, Repr

namespace Registry

variable {β : Type}

def empty (facility : String) : Registry β := ⟨facility, []⟩

def names (r : Registry β) : List String := r.drivers.map Descriptor.name

/-- Adds a driver. The same one may be added again; another one needs another name. -/
def register (r : Registry β) (d : Descriptor β) : Except Error (Registry β) :=
  match r.drivers.find? (·.name = d.name) with
  | some known => if known.id = d.id then .ok r else .error (.duplicateDriver d.name)
  | none => .ok { r with drivers := r.drivers ++ [d] }

def unregister (r : Registry β) (name : String) : Bool × Registry β :=
  (r.names.contains name, { r with drivers := r.drivers.filter (·.name ≠ name) })

/-- The drivers with the name, or all of them. -/
def candidates (r : Registry β) (name? : Option String) : List (Descriptor β) :=
  match name? with
  | none => r.drivers
  | some name => r.drivers.filter (·.name = name)

variable {σ ι : Type}

/-- Offers an instance to the drivers in turn, each time under a fresh handle. -/
def offer (fresh : Act σ ι) (probe : Descriptor β → ι → Act σ Bool) :
    List (Descriptor β) → Act σ (Option (Descriptor β × ι))
  | [] => return none
  | d :: rest => do
    let handle ← fresh
    if ← probe d handle then return some (d, handle) else offer fresh probe rest

/-- Creates an instance with the first matching driver that accepts it, and binds the two. -/
def create (r : Registry β) (name? : Option String) (fresh : Act σ ι)
    (probe : Descriptor β → ι → Act σ Bool) (bind : Descriptor β → ι → Act σ Unit) :
    Act σ (Except Error (Descriptor β × ι)) := do
  match ← offer fresh probe (r.candidates name?) with
  | some (d, handle) =>
    bind d handle
    return .ok (d, handle)
  | none => return .error (.noDriver r.facility)

end Registry

end CellModem
