import CellModem.Routine
import CellModem.Transaction

/-!
# Steps

A step is an act on the modem that ends in a value or an `Error`: one transaction, or several in a
row. In a row the first failure ends the step. Nothing is sent before a step is started, so a step
can be put together and then dropped.
-/

namespace CellModem

abbrev Step (σ : Type) := ExceptT Error (Act σ)

namespace Step

variable {σ α : Type}

def ready (result : Except Error α) : Step σ α := ExceptT.mk (pure result)

/-- Sends a command and waits for the answer, whatever it is. -/
def send (command : String) (leads : List String) : Step σ Response := ExceptT.mk do
  match ← Act.send command leads with
  | some response => return .ok response
  | none => return .error .rejected

def transaction (t : Transaction α) : Step σ α := do
  ready (t.result (← send t.command t.leads))

def command (text : String) : Step σ Unit := transaction (.plain text)

def queryNumber (text lead : String) : Step σ Int := transaction (.query text lead .integer)

/-- All steps in a row, with their values in order. Each step is chained behind those before it. -/
def sequence (steps : List (Step σ α)) : Step σ (List α) :=
  steps.foldl (fun chain step => do
    let values ← chain
    let value ← step
    return values ++ [value]) (pure [])

/-- Goes on as if the step had succeeded. -/
def bestEffort (step : Step σ Unit) : Step σ Unit := ExceptT.mk do
  let _ ← step.run
  return .ok ()

/-- Takes the modem off duty, acts, and puts it back whatever came of the act. An act that failed is
reported even when the way back fails too. -/
def compensated (deregister : Step σ Unit) (act : Step σ α) (restore : Step σ Unit) : Step σ α := do
  deregister
  let acted ← ExceptT.lift act.run
  let restored ← ExceptT.lift restore.run
  match acted, restored with
  | .ok value, .ok () => return value
  | .ok _, .error e => throw e
  | .error e, _ => throw e

end Step

end CellModem
