import CellModem.Decoding

/-!
# Transactions

One command, and what its answer is worth when the modem acknowledges it.
-/

namespace CellModem

structure Transaction (α : Type) where
  command : String
  /-- What the intermediate lines of interest start with. -/
  leads : List String
  decode : Response → Except DecodeError α

namespace Transaction

variable {α : Type}

/-- A command of which only the final line matters. -/
def plain (command : String) : Transaction Unit := ⟨command, [], fun _ => .ok ()⟩

/-- A command whose answer is read from its first line with the lead. -/
def query (command lead : String) (read : FieldReader α) : Transaction α :=
  ⟨command, [lead], fun response => response.decodeSingle lead read⟩

def result (t : Transaction α) (response : Response) : Except Error α :=
  if response.ok then (t.decode response).mapError .decode else .error (.protocol response.status)

end Transaction

/-! ## Requests -/

/-- A transaction a driver may offer, under the name by which it can be withheld. -/
structure Request (α : Type) where
  method : String
  transaction : Transaction α

end CellModem
