/-!
# Flavours of a command set

Modules of one maker differ in a few commands and code tables. An instance is created for one
flavour and keeps it.
-/

namespace CellModem

inductive Vendor where
  | default
  /-- Any module behind a serial multiplexer. -/
  | telitSerial
  | le910v2
  deriving DecidableEq, Repr

def Vendor.name : Vendor → String
  | .default => "default"
  | .telitSerial => "telit-serial"
  | .le910v2 => "le910v2"

def Vendor.all : List Vendor := [.default, .telitSerial, .le910v2]

end CellModem
