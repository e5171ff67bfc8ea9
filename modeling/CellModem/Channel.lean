import CellModem.Routine

/-!
# Channels and the machine

A channel takes commands and either refuses a command, answers it at once, or holds it together
with the routine that waits. A machine is a channel and the host's state; it runs a routine until it
ends or waits. Several routines may wait in one channel, each for its own command.
-/

namespace CellModem

inductive Sent (C : Type) where
  | refused (channel : C)
  | answered (channel : C) (response : Response)
  | held (channel : C)

/-- A way to a modem. `κ` is what the channel keeps for whoever waits for an answer or a line. -/
class Channel (C : Type → Type) where
  send {κ : Type} (channel : C κ) (command : String) (leads : List String) (waiting : κ) :
    Sent (C κ)
  register {κ : Type} (channel : C κ) (lead : String) (handler : κ) : Option (Nat × C κ)
  unregisterAll {κ : Type} (channel : C κ) : C κ
  cancelAll {κ : Type} (channel : C κ) : C κ
  close {κ : Type} (channel : C κ) : C κ
  /-- Everything sent so far, in order. -/
  traffic {κ : Type} (channel : C κ) : List String

/-- The rest of a routine that waits for a response. -/
abbrev Resume (σ : Type) := Response → Routine σ

structure Machine (C : Type → Type) (σ : Type) where
  channel : C (Resume σ)
  state : σ

variable {C : Type → Type} [Channel C] {σ : Type}

/-- Runs a routine until it ends or waits. -/
def Routine.exec : Routine σ → Machine C σ → Machine C σ
  | .done, m => m
  | .read next, m => (next m.state).exec m
  | .write state next, m => next.exec { m with state := state }
  | .send command leads next, m =>
    match Channel.send m.channel command leads fun response => next (some response) with
    | .refused channel => (next none).exec { m with channel := channel }
    | .answered channel response => (next (some response)).exec { m with channel := channel }
    | .held channel => { m with channel := channel }
  | .register lead handler next, m =>
    match Channel.register m.channel lead handler with
    | none => (next none).exec m
    | some (id, channel) => (next (some id)).exec { m with channel := channel }
  | .unregisterAll next, m => next.exec { m with channel := Channel.unregisterAll m.channel }
  | .cancelAll next, m => next.exec { m with channel := Channel.cancelAll m.channel }
  | .close next, m => next.exec { m with channel := Channel.close m.channel }
  | .traffic next, m => (next (Channel.traffic m.channel)).exec m
  | .fork child next, m => next.exec (child.exec m)

namespace Routine

variable {m : Machine C σ} {channel : C (Resume σ)} {command : String} {leads : List String}
  {next : Option Response → Routine σ}

theorem exec_refused
    (sent : Channel.send m.channel command leads (fun r => next (some r)) = .refused channel) :
    (send command leads next).exec m = (next none).exec { m with channel := channel } := by
  rw [exec, sent]

theorem exec_answered {response : Response}
    (sent : Channel.send m.channel command leads (fun r => next (some r))
      = .answered channel response) :
    (send command leads next).exec m
      = (next (some response)).exec { m with channel := channel } := by
  rw [exec, sent]

theorem exec_held
    (sent : Channel.send m.channel command leads (fun r => next (some r)) = .held channel) :
    (send command leads next).exec m = { m with channel := channel } := by
  rw [exec, sent]

end Routine

namespace Machine

def start (m : Machine C σ) (act : Act σ Unit) : Machine C σ := act.routine.exec m

/-- Lets waiting routines go on, one after the other. -/
def resumeAll (m : Machine C σ) (waiting : List (Resume σ × Response)) : Machine C σ :=
  waiting.foldl (fun m (resume, response) => (resume response).exec m) m

end Machine

/-! ## Handlers -/

/-- Who is given the lines that start with `lead`. -/
structure Handler (κ : Type) where
  lead : String
  handler : κ

def Handler.takes {κ : Type} (h : Handler κ) (line : String) : Bool :=
  Text.startsWith line h.lead

/-- Gives a line to those of `handlers` that take it, in order. -/
def Machine.deliver (m : Machine C σ) (handlers : List (Handler (Resume σ))) (line : String) :
    Machine C σ :=
  m.resumeAll ((handlers.filter (Handler.takes · line)).map fun h =>
    (h.handler, Response.unsolicited line))

end CellModem
