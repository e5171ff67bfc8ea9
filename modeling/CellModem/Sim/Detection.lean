import CellModem.Decoding

/-!
# SIM detection

How the modem finds out whether a SIM is there.
-/

namespace CellModem

inductive SimDetection where
  | notInserted
  | inserted
  | auto
  deriving DecidableEq, Repr

namespace SimDetection

def all : List SimDetection := [.notInserted, .inserted, .auto]

def code : SimDetection → Int
  | .notInserted => 0
  | .inserted => 1
  | .auto => 2

def name : SimDetection → String
  | .notInserted => "not_inserted"
  | .inserted => "inserted"
  | .auto => "auto"

def ofName (text : String) : Except Error SimDetection :=
  match all.find? (·.name = text) with
  | some mode => .ok mode
  | none => .error (.invalidArgument ("unknown SIM detection mode " ++ Text.quoted text))

theorem ofName_name (mode : SimDetection) : ofName mode.name = .ok mode := by
  cases mode <;> rfl

def ofResponse (r : Response) : Except DecodeError SimDetection := do
  lookupCode (← r.decodeSingle "#SIMDET:" .integer) (all.map fun mode => (mode.code, mode))

end SimDetection

end CellModem
