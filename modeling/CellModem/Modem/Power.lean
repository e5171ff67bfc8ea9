import CellModem.Host

/-!
# Switching a modem on and off

Each model has its sequence of commands to switch the radio on; some of them matter and the others
are sent with no regard to the answer. Once the radio is on, the SIM is followed through the status
codes the modem sends on its own.
-/

namespace CellModem

variable {υ : Type}

namespace Host

def setPowered (i : Nat) (on : Bool) (h : Host υ) : Host υ :=
  match h.modems[i]? with
  | none => h
  | some m =>
    if m.powered = on then h
    else (h.modifyModem i fun m => { m with powered := on }).emit (.powered on)

def applySimStatus (i : Nat) (code : Int) (h : Host υ) : Host υ :=
  match h.modems[i]? with
  | none => h
  | some m =>
    let (sim, events) := m.sim.apply code
    (h.modifyModem i fun m => { m with sim := sim }).emitAll events

end Host

namespace Modem

/-- A command whose answer does not matter. -/
def attempt (command : String) : Step (Host υ) Unit := (Step.command command).bestEffort

/-- Switches the radio on. It goes through airplane mode, so that everything is reported anew. -/
def powerOn : Model → Step (Host υ) Unit
  | .telitSerial | .ge910 => do
    attempt "ATE0 +CMEE=1"
    attempt "AT#QSS=2"
    Step.command "AT+CFUN=4"
    attempt "AT#ATDELAY=50"
    Step.command "AT+CFUN=1"
  | .le910v2 => do
    attempt "ATE0 +CMEE=1"
    let level ← Step.queryNumber "AT+CFUN?" "+CFUN:"
    if level = 4 then Step.command "AT+CFUN=1"
    else
      Step.command "AT+CFUN=4"
      attempt "AT#ATDELAY=30"
      Step.command "AT+CFUN=1"
    attempt "AT&C0"

def followSim (i : Nat) : Act (Host υ) Unit := do
  let _ ← Act.register "#QSS:" fun line =>
    match line.decodeSingle "#QSS:" .integer with
    | .ok code => modify (·.applySimStatus i code)
    | .error _ => pure ()

/-- The query for the status code, the second field of its answer. -/
def simStatusQuery : Transaction Int := .query "AT#QSS?" "#QSS:" do
  .skip
  .integer

def readSimStatus (i : Nat) : Step (Host υ) Unit := ExceptT.mk do
  match ← (Step.transaction simStatusQuery).run with
  | .ok code => modify (·.applySimStatus i code)
  | .error _ => pure ()
  return .ok ()

/-- What follows once the radio is on. None of it can fail. -/
def afterPowerOn (i : Nat) (model : Model) : Step (Host υ) Unit := do
  ExceptT.lift (followSim i)
  attempt "AT#CSURVNLF=1"
  match model with
  | .telitSerial => pure ()
  | .ge910 => readSimStatus i
  | .le910v2 =>
    attempt "AT#QSS=2"
    readSimStatus i

/-- Switches a modem on. When that fails it counts as unpowered. -/
def enable (i : Nat) (model : Model) : Step (Host υ) Unit := ExceptT.mk do
  match ← (powerOn model).run with
  | .ok () =>
    modify fun h => (h.modifyModem i fun m => { m with sim := .absent }).setPowered i true
    (afterPowerOn i model).run
  | .error e =>
    modify (·.setPowered i false)
    return .error e

/-- Drops all commands and handlers, and switches a modem off. -/
def disable (i : Nat) : Step (Host υ) Unit := do
  ExceptT.lift Act.cancelAll
  ExceptT.lift Act.unregisterAll
  Step.command "AT+CFUN=4"
  modify (·.setPowered i false)

end Modem

end CellModem
