import CellModem.Decoding
import CellModem.Vendor

/-!
# Radio access modes

Which access technologies the modem may use. The code that sets a mode is not always the code it is
reported by.
-/

namespace CellModem

inductive RadioMode where
  | any
  | gsm
  | umts
  | lte
  | gsmUmts
  | gsmLte
  | umtsLte
  deriving DecidableEq, Repr

namespace RadioMode

def all : List RadioMode := [.any, .gsm, .umts, .lte, .gsmUmts, .gsmLte, .umtsLte]

def name : RadioMode → String
  | .any => "any"
  | .gsm => "gsm"
  | .umts => "umts"
  | .lte => "lte"
  | .gsmUmts => "gsm-umts"
  | .gsmLte => "gsm-lte"
  | .umtsLte => "umts-lte"

def ofName (text : String) : Except Error RadioMode :=
  match all.find? (·.name = text) with
  | some mode => .ok mode
  | none => .error (.invalidArgument ("unknown radio access mode " ++ Text.quoted text))

theorem ofName_name (mode : RadioMode) : ofName mode.name = .ok mode := by
  cases mode <;> rfl

def code : RadioMode → Nat
  | .any => 25
  | .gsm => 12
  | .umts => 22
  | .lte => 28
  | .gsmUmts => 29
  | .gsmLte => 30
  | .umtsLte => 31

/-- The codes by which the modem reports its mode. -/
def reported : Vendor → List (Int × RadioMode)
  | .le910v2 => [(31, .any), (12, .gsm), (22, .umts), (28, .lte)]
  | _ => [(25, .any), (12, .gsm), (22, .umts)]

def ofResponse (vendor : Vendor) (r : Response) : Except DecodeError RadioMode := do
  lookupCode (← r.decodeSingle "+WS46:" .integer) (reported vendor)

end RadioMode

end CellModem
