import CellModem.CommandSet
import CellModem.Host.Operation

/-!
# Operations on the applications of the SIM
-/

namespace CellModem.Operation

variable {υ : Type}

/-- Opens a channel to an application; the answer is its session. -/
def openChannel (application : String) : Operation υ .logicalChannels Int :=
  .request
    (fun _ => do
      checkLength "DF name" application maxApplicationName
      return .openChannel application)
    .passing

def closeChannel (session : Int) : Operation υ .logicalChannels Unit :=
  .request (fun _ => .ok (.closeChannel session)) .passing

def exchange (session : Int) (length : Nat) (command : String) :
    Operation υ .logicalChannels ChannelResponse :=
  .request (fun _ => .ok (.exchange session length command)) .passing

end CellModem.Operation
