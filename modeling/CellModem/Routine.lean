import CellModem.Response

/-!
# Routines

Everything the host does runs on one thread, a routine at a time. A routine reads and writes the
host's state, uses the modem's channel, and waits for answers; what it does after an answer is a
function of the answer. Routines are data, so a channel can hold the rest of one until the answer
comes, and a handler is a routine for every line it may be given.

`Act` writes routines in sequence. `Act.fork` starts one without waiting for it.
-/

namespace CellModem

/-- What the host does from some point on. `σ` is its state. -/
inductive Routine (σ : Type) where
  | done
  | read (next : σ → Routine σ)
  | write (state : σ) (next : Routine σ)
  /-- Sends a command, asking for the lines that start with one of `leads`, and waits. The answer is
  `none` when the channel refuses the command. -/
  | send (command : String) (leads : List String) (next : Option Response → Routine σ)
  /-- Has lines that start with `lead` handled from now on. The answer is the registration's number,
  `none` when the channel refuses it. -/
  | register (lead : String) (handler : Response → Routine σ) (next : Option Nat → Routine σ)
  | unregisterAll (next : Routine σ)
  /-- Drops every command the channel holds; the routines that wait for them never go on. -/
  | cancelAll (next : Routine σ)
  | close (next : Routine σ)
  | traffic (next : List String → Routine σ)
  /-- Runs `child` until it ends or waits, and then goes on. -/
  | fork (child next : Routine σ)

/-- A routine with a result, which is handed on to whatever comes next. -/
def Act (σ α : Type) : Type := (α → Routine σ) → Routine σ

namespace Act

variable {σ α β : Type}

instance : Monad (Act σ) where
  pure a := fun next => next a
  bind act f := fun next => act fun a => f a next

instance : LawfulMonad (Act σ) :=
  LawfulMonad.mk' (Act σ) (fun _ => rfl) (fun _ _ => rfl) (fun _ _ _ => rfl)

instance : MonadStateOf σ (Act σ) where
  get := fun next => Routine.read next
  set state := fun next => Routine.write state (next ())
  modifyGet f := fun next => Routine.read fun state => Routine.write (f state).2 (next (f state).1)

def routine (act : Act σ Unit) : Routine σ := act fun _ => .done

/-- Starts an act and goes on as soon as it ends or waits. -/
def fork (act : Act σ Unit) : Act σ Unit := fun next => Routine.fork act.routine (next ())

def send (command : String) (leads : List String) : Act σ (Option Response) :=
  Routine.send command leads

def register (lead : String) (handler : Response → Act σ Unit) : Act σ (Option Nat) :=
  Routine.register lead fun line => (handler line).routine

def unregisterAll : Act σ Unit := fun next => Routine.unregisterAll (next ())

def cancelAll : Act σ Unit := fun next => Routine.cancelAll (next ())

def close : Act σ Unit := fun next => Routine.close (next ())

def traffic : Act σ (List String) := Routine.traffic

end Act

end CellModem
