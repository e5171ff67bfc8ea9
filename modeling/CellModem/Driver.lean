import CellModem.Error
import CellModem.Transaction

/-!
# Drivers

A driver offers requests to the facility it is bound to, or lacks them. One kind has all of them.
Another counts: how often each request may still be asked for is the allowance, which all drivers of
that kind share. The third kind has none.
-/

namespace CellModem

/-- How often requests may still be asked for, and instances accepted. -/
structure Allowance where
  counted : List (String × Nat)
  othersWithheld : Bool
  /-- How many instances may still be accepted; any number when `none`. -/
  probes : Option Nat
  deriving DecidableEq, Repr

namespace Allowance

def unlimited : Allowance := ⟨[], false, none⟩

def decrement (method : String) : List (String × Nat) → List (String × Nat)
  | [] => []
  | (name, left) :: rest =>
    if name = method then (name, left - 1) :: rest else (name, left) :: decrement method rest

def spend (a : Allowance) (method : String) : Bool × Allowance :=
  match a.counted.lookup method with
  | none => (!a.othersWithheld, a)
  | some 0 => (false, a)
  | some (_ + 1) => (true, { a with counted := decrement method a.counted })

def spendProbe (a : Allowance) : Bool × Allowance :=
  match a.probes with
  | none => (true, a)
  | some 0 => (false, a)
  | some (left + 1) => (true, { a with probes := some left })

end Allowance

/-- Asking drivers for what they offer. Nothing is sent by it. -/
abbrev Ask := ExceptT Error (StateM Allowance)

/-- Asks for two things, for the second one even when the first cannot be had. -/
def Ask.both {α β : Type} (first : Ask α) (second : Ask β) : Ask (α × β) := ExceptT.mk do
  let first ← first.run
  let second ← second.run
  return return (← first, ← second)

inductive Driver where
  | full
  | rationed
  | bare
  deriving DecidableEq, Repr

/-- The transaction behind a request, if the driver has it. -/
def Driver.ask {α : Type} : Driver → Request α → Ask (Transaction α)
  | .full, r => return r.transaction
  | .bare, _ => throw .notImplemented
  | .rationed, r => do
    if ← modifyGet (Allowance.spend · r.method) then return r.transaction
    else throw .notImplemented

end CellModem
