import CellModem.Channel
import CellModem.Modem.BringUp
import CellModem.Presence

/-!
# The core

The core has at most one modem. It looks again at the device and the presence state before it acts
on what it is asked, so a request that comes late does no harm. A modem gets a channel of its own.
-/

namespace CellModem

/-- The core and what it sees of its surroundings. `υ` is what an observer keeps. -/
structure Core (C : Type → Type) (υ : Type) where
  model : Model
  present : Bool
  presence : Presence
  machine : Machine C (Host υ)
  modem : Option Nat
  /-- How many of the coming attempts to open a channel fail. -/
  failing : Nat
  opens : Nat
  fresh : C (Resume (Host υ))

namespace Core

variable {C : Type → Type} [Channel C] {υ : Type}

/-- A core without a modem; `channel` is what it opens. -/
def initial (model : Model) (host : Host υ) (channel : C (Resume (Host υ))) : Core C υ where
  model := model
  present := false
  presence := .detached
  machine := ⟨channel, host⟩
  modem := none
  failing := 0
  opens := 0
  fresh := channel

def openChannel (c : Core C υ) : Option (C (Resume (Host υ))) × Core C υ :=
  let c := { c with opens := c.opens + 1 }
  match c.failing with
  | 0 => (some c.fresh, c)
  | failing + 1 => (none, { c with failing := failing })

def emit (c : Core C υ) (event : Event) : Core C υ :=
  { c with machine := { c.machine with state := c.machine.state.emit event } }

def start (c : Core C υ) (act : Act (Host υ) Unit) : Core C υ :=
  { c with machine := c.machine.start act }

def addModem (c : Core C υ) (channel : C (Resume (Host υ))) : Core C υ :=
  let (number, host) := c.machine.state.addModem c.model
  let c := { c with machine := ⟨channel, host⟩, modem := some number }
  (c.emit (.modemAdded c.model.name)).start do
    let _ ← (Modem.bringUp number c.model).run

/-- Creates the modem, unless there is one or the device is not there and attached. When the channel
cannot be opened the state goes back, so that the next event tries again. -/
def createModem (c : Core C υ) : Core C υ :=
  if !c.present then { c with presence := .detached }
  else if c.modem.isSome ∨ c.presence ≠ .attached then c
  else match c.openChannel with
    | (some channel, c) => c.addModem channel
    | (none, c) => { c with presence := .detached }

def dropModem (c : Core C υ) : Core C υ :=
  match c.modem with
  | none => c
  | some number =>
    let c := { c with modem := none }
    let c := c.start do
      let _ ← (Modem.takeDown number).run
    c.emit .modemRemoved

/-- Removes the modem, unless the device is there or the state is not detached. -/
def removeModem (c : Core C υ) : Core C υ :=
  if c.present then { c with presence := .attached }
  else if c.presence ≠ .detached then c
  else c.dropModem

def handle (c : Core C υ) : PresenceAction → Core C υ
  | .create => c.createModem
  | .remove => c.removeModem

end Core

/-! ## The core at work -/

/-- A core that may have been stopped, and the channel on which actions come in. -/
structure CoreRuntime (C : Type → Type) (υ : Type) where
  core : Core C υ
  running : Bool
  actionsOpen : Bool

namespace CoreRuntime

variable {C : Type → Type} [Channel C] {υ : Type}

def start (core : Core C υ) : CoreRuntime C υ := ⟨core, true, true⟩

/-- Asks for an action, in line with all other requests; returns whether it was taken. -/
def request (r : CoreRuntime C υ) (action : PresenceAction) : Bool × CoreRuntime C υ :=
  if r.running then (true, { r with core := r.core.handle action }) else (false, r)

def send (r : CoreRuntime C υ) (action : PresenceAction) : Bool × CoreRuntime C υ :=
  if r.actionsOpen then r.request action else (false, r)

def closeActions (r : CoreRuntime C υ) : CoreRuntime C υ := { r with actionsOpen := false }

/-- Stops the core; the modem is taken down first. -/
def shutdown (r : CoreRuntime C υ) : CoreRuntime C υ :=
  if r.running then { r with core := r.core.dropModem, running := false } else r

end CoreRuntime

end CellModem
