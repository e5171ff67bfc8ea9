import CellModem.Decoding

/-!
# Power states
-/

namespace CellModem

inductive PowerState where
  | full
  | airplane
  | saving
  deriving DecidableEq, Repr

namespace PowerState

def all : List PowerState := [.full, .airplane, .saving]

/-- The functionality level of `+CFUN`. -/
def code : PowerState → Int
  | .full => 1
  | .airplane => 4
  | .saving => 5

def name : PowerState → String
  | .full => "full"
  | .airplane => "airplane"
  | .saving => "saving"

def ofName (text : String) : Except Error PowerState :=
  match all.find? (·.name = text) with
  | some state => .ok state
  | none => .error (.invalidArgument ("unknown power state " ++ Text.quoted text))

theorem ofName_name (state : PowerState) : ofName state.name = .ok state := by
  cases state <;> rfl

def ofResponse (r : Response) : Except DecodeError PowerState := do
  lookupCode (← r.decodeSingle "+CFUN:" .integer) (all.map fun state => (state.code, state))

end PowerState

end CellModem
