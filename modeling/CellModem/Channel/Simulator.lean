import CellModem.Channel

/-!
# The scripted modem

A modem in memory answers from a script: first what was set for the next time a command comes, then
what was set for every time, then one answer for all other commands. It answers at once, or, when
deferred, keeps the answers until they are flushed.
-/

namespace CellModem

/-- The answer to commands the script does not mention. -/
inductive Unscripted where
  | ok
  | error
  deriving DecidableEq, Repr

def Unscripted.response : Unscripted → Response
  | .ok => .success []
  | .error => .failure "ERROR"

structure Simulator (κ : Type) where
  /-- Answers for every time, the latest first. -/
  sticky : List (String × Response)
  /-- Answers for one time, the oldest first. -/
  once : List (String × Response)
  unscripted : Unscripted
  accepting : Bool
  deferred : Bool
  /-- Answers kept back, with whoever waits for them. -/
  queued : List (κ × Response)
  sent : List String
  handlers : List (Handler κ)
  nextId : Nat

namespace Simulator

variable {κ : Type}

def empty : Simulator κ := ⟨[], [], .error, true, false, [], [], [], 1⟩

def respond (s : Simulator κ) (command : String) (response : Response) : Simulator κ :=
  { s with sticky := (command, response) :: s.sticky }

/-- Answers the next `command` with `response`, behind those set so before. -/
def respondOnce (s : Simulator κ) (command : String) (response : Response) : Simulator κ :=
  { s with once := s.once ++ [(command, response)] }

def takeFirst (command : String) :
    List (String × Response) → Option (Response × List (String × Response))
  | [] => none
  | (c, response) :: rest =>
    if c = command then some (response, rest)
    else (takeFirst command rest).map fun (found, rest) => (found, (c, response) :: rest)

def answer (s : Simulator κ) (command : String) : Response × Simulator κ :=
  match takeFirst command s.once with
  | some (response, once) => (response, { s with once := once })
  | none => ((s.sticky.lookup command).getD s.unscripted.response, s)

def send (s : Simulator κ) (command : String) (leads : List String) (waiting : κ) :
    Sent (Simulator κ) :=
  if s.accepting then
    let (response, s) := s.answer command
    let s := { s with sent := s.sent ++ [command] }
    let response := response.filtered leads
    if s.deferred then .held { s with queued := s.queued ++ [(waiting, response)] }
    else .answered s response
  else .refused s

/-- The simulator once it has taken a command. -/
def taken (s : Simulator κ) (command : String) : Simulator κ :=
  { (s.answer command).2 with sent := (s.answer command).2.sent ++ [command] }

/-- Looking an answer up uses up the script only. -/
theorem answer_keeps (s : Simulator κ) (command : String) :
    (s.answer command).2 = { s with once := (s.answer command).2.once } := by
  unfold answer
  cases takeFirst command s.once with
  | none => rfl
  | some found => rfl

theorem queued_taken (s : Simulator κ) (command : String) : (s.taken command).queued = s.queued := by
  unfold taken
  rw [answer_keeps]

theorem sent_taken (s : Simulator κ) (command : String) :
    (s.taken command).sent = s.sent ++ [command] := by
  unfold taken
  rw [answer_keeps]

theorem deferred_taken (s : Simulator κ) (command : String) :
    (s.taken command).deferred = s.deferred := by
  unfold taken
  rw [answer_keeps]

theorem send_refused (s : Simulator κ) (refusing : s.accepting = false) (command : String)
    (leads : List String) (waiting : κ) : s.send command leads waiting = .refused s := by
  simp [send, refusing]

theorem send_accepted (s : Simulator κ) (accepting : s.accepting = true) (command : String)
    (leads : List String) (waiting : κ) :
    s.send command leads waiting =
      let response := (s.answer command).1.filtered leads
      if s.deferred then
        .held { s.taken command with queued := s.queued ++ [(waiting, response)] }
      else .answered (s.taken command) response := by
  have hdeferred : (s.answer command).2.deferred = s.deferred := s.deferred_taken command
  have hqueued : (s.answer command).2.queued = s.queued := s.queued_taken command
  unfold send
  rw [if_pos accepting, ← hdeferred, ← hqueued]
  rfl

def register (s : Simulator κ) (lead : String) (handler : κ) : Option (Nat × Simulator κ) :=
  if s.accepting then
    some (s.nextId,
      { s with handlers := s.handlers ++ [⟨lead, handler⟩], nextId := s.nextId + 1 })
  else none

def leads (s : Simulator κ) : List String := s.handlers.map Handler.lead

end Simulator

instance : Channel Simulator where
  send := Simulator.send
  register := Simulator.register
  unregisterAll s := { s with handlers := [] }
  cancelAll s := { s with queued := [] }
  close s := { s with accepting := false, queued := [] }
  traffic s := s.sent

namespace Machine

variable {σ : Type}

/-- Lets everyone go on whose answer is kept now; returns how many there were. Answers kept because
of them stay. -/
def flush (m : Machine Simulator σ) : Nat × Machine Simulator σ :=
  let batch := m.channel.queued
  (batch.length, { m with channel := { m.channel with queued := [] } }.resumeAll batch)

/-- Flushes until no answer is kept, `rounds` times at most; returns how many went on. -/
def runUntilIdle : (rounds : Nat) → Machine Simulator σ → Nat × Machine Simulator σ
  | 0, m => (0, m)
  | rounds + 1, m =>
    match m.flush with
    | (0, m) => (0, m)
    | (count, m) =>
      let (more, m) := runUntilIdle rounds m
      (count + more, m)

/-- The modem sends a line on its own; returns how many handlers took it. The handlers there are at
the start are put back afterwards, in front of those registered meanwhile. -/
def push (m : Machine Simulator σ) (line : String) : Nat × Machine Simulator σ :=
  let handlers := m.channel.handlers
  let m := { m with channel := { m.channel with handlers := [] } }.deliver handlers line
  ((handlers.filter (Handler.takes · line)).length,
    { m with channel := { m.channel with handlers := handlers ++ m.channel.handlers } })

end Machine

end CellModem
