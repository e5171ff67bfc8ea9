import CellModem.Event

/-!
# The SIM as the host sees it

The modem reports the SIM by a status code. Only changes are told to the host.
-/

namespace CellModem

structure SimStatus where
  inserted : Bool
  /-- The storage of the SIM can be used. -/
  ready : Bool
  deriving DecidableEq, Repr

namespace SimStatus

def absent : SimStatus := ⟨false, false⟩

/-- A status code: 0 is no SIM, 1 and 2 are one that is there, 3 one that is ready. Other codes mean
nothing. Returns what the host is told. -/
def apply (s : SimStatus) (code : Int) : SimStatus × List Event :=
  if code = 0 then (absent, if s.inserted then [.simInserted false] else [])
  else if code = 1 ∨ code = 2 then
    if s.inserted then (s, []) else ({ s with inserted := true }, [.simInserted true])
  else if code = 3 then
    if s.ready then (s, [])
    else (⟨true, true⟩, (if s.inserted then [] else [.simInserted true]) ++ [.simReady])
  else (s, [])

end SimStatus

end CellModem
