import CellModem.Error
import CellModem.Facility
import CellModem.Sim.Status

/-!
# Modems
-/

namespace CellModem

inductive Model where
  /-- Any module behind a serial multiplexer. -/
  | telitSerial
  | le910v2
  | ge910
  deriving DecidableEq, Repr

namespace Model

def all : List Model := [.telitSerial, .le910v2, .ge910]

def name : Model → String
  | .telitSerial => "telit_serial"
  | .le910v2 => "le910v2"
  | .ge910 => "ge910"

def ofName (text : String) : Except Error Model :=
  match all.find? (·.name = text) with
  | some model => .ok model
  | none => .error (.invalidArgument ("unknown modem model " ++ Text.quoted text))

theorem ofName_name (model : Model) : ofName model.name = .ok model := by
  cases model <;> rfl

end Model

structure Modem where
  model : Model
  powered : Bool
  sim : SimStatus
  /-- Whether it is on a board of Multitech; unknown until that has been asked. -/
  multitech : Option Bool
  facilities : PerFacility fun _ => Option Nat

def Modem.initial (model : Model) : Modem := ⟨model, false, .absent, none, .ofFn fun _ => none⟩

end CellModem
