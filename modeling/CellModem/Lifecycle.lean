/-!
# The life of an instance

An instance is being probed, registered, or removed. Whoever accepted it leaves a teardown, which is
run once, as soon as the instance has both a teardown and been removed.
-/

namespace CellModem

inductive LifeState where
  | probing
  | registered
  | removed
  deriving DecidableEq, Repr

def LifeState.name : LifeState → String
  | .probing => "probing"
  | .registered => "registered"
  | .removed => "removed"

/-- The state of an instance and the teardown left for it, until that is run. -/
structure Lifecycle (τ : Type) where
  state : LifeState
  teardown : Option τ
  deriving DecidableEq, Repr

namespace Lifecycle

variable {τ : Type}

def probing : Lifecycle τ := ⟨.probing, none⟩

/-- Shows the instance to the host. Only one that is being probed can be. -/
def register (l : Lifecycle τ) : Lifecycle τ :=
  if l.state = .probing then { l with state := .registered } else l

/-- Removes the instance; returns the teardown to run now. -/
def remove (l : Lifecycle τ) : Option τ × Lifecycle τ :=
  if l.state = .removed then (none, l) else (l.teardown, ⟨.removed, none⟩)

/-- Leaves a teardown; returns it when the instance has been removed already. -/
def bind (l : Lifecycle τ) (teardown : τ) : Option τ × Lifecycle τ :=
  if l.state = .removed then (some teardown, l) else (none, { l with teardown := some teardown })

end Lifecycle

end CellModem
