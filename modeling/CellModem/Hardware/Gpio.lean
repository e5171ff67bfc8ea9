import CellModem.Decoding

/-!
# General purpose pins

Pins are numbered from 1, in the order in which the modem lists them.
-/

namespace CellModem

structure GpioPin where
  pin : Nat
  mode : Int
  direction : Int
  deriving DecidableEq, Repr

structure GpioSetting where
  pin : UInt32
  mode : UInt32
  direction : UInt32
  /-- Whether the setting outlives a restart. -/
  save : Bool
  deriving DecidableEq, Repr

/-- Most pins one answer may list. -/
def GpioPin.maxCount : Nat := 20

/-- The setting, if there can be such a pin. -/
def GpioSetting.checked (s : GpioSetting) : Except Error GpioSetting :=
  if s.pin = 0 then .error (.invalidArgument "GPIO pins are numbered from 1") else .ok s

def GpioSetting.argument (s : GpioSetting) : String :=
  s!"{s.pin},{s.mode},{s.direction},{s.save.toNat}"

def GpioPin.ofResponse (r : Response) : Except DecodeError (List GpioPin) :=
  r.decodeTable "#GPIO:" maxCount fun index => do
    let mode ← .integer
    let direction ← .integer
    return { pin := index + 1, mode, direction }

end CellModem
