import Mathlib.Data.List.TakeWhile
import Mathlib.Logic.Relation
import CellModem.Channel.SerialPort

/-!
# Moments of a serial line

A moment is a port whose lock is free, together with the answers that calls still on the stack have
to hand over and with all that happened before. Commands carry a number: how many had been accepted
before them. What the clients of the port do is left open; they may send at every moment, so a
client that sends while it is being answered is one of them. Lines come in when nothing is on the
stack.
-/

namespace CellModem.SerialPort

/-- Whoever waits for a command, with the number of the command. -/
structure Ticket (κ : Type) where
  number : Nat
  waiting : κ

end SerialPort

namespace Pending

variable {κ : Type}

/-- The command with its number alone. -/
def numbered (p : Pending (SerialPort.Ticket κ)) : Pending Nat := ⟨p.command, p.leads, p.waiting.number⟩

def number (p : Pending (SerialPort.Ticket κ)) : Nat := p.waiting.number

@[simp] theorem numbered_waiting (p : Pending (SerialPort.Ticket κ)) :
    p.numbered.waiting = p.number := rfl

end Pending

/-- The attempt with the number of its command alone. -/
def Attempt.numbered {κ : Type} (a : Attempt (SerialPort.Ticket κ)) : Attempt Nat :=
  ⟨a.pending.numbered, a.fault⟩

namespace SerialPort

/-- What happens at a port. -/
inductive Occurrence where
  | accepted (pending : Pending Nat)
  | attempted (attempt : Attempt Nat)
  | line (text : String)
  | completed (number : Nat) (response : Response)
  | cancelled
  | closed
  deriving DecidableEq

/-! ## Reading a log -/

def accepted (log : List Occurrence) : List (Pending Nat) :=
  log.filterMap fun | .accepted p => some p | _ => none

def attempted (log : List Occurrence) : List (Attempt Nat) :=
  log.filterMap fun | .attempted a => some a | _ => none

def completed (log : List Occurrence) : List (Nat × Response) :=
  log.filterMap fun | .completed n r => some (n, r) | _ => none

def received (log : List Occurrence) : List String :=
  log.filterMap fun | .line text => some text | _ => none

/-- The numbers of the commands that were put on the line without a fault. -/
def written (log : List Occurrence) : List Nat :=
  ((attempted log).filter (·.fault.isNone)).map (·.pending.waiting)

/-- Whether nothing was ever dropped. -/
def Undropped (log : List Occurrence) : Prop := .cancelled ∉ log ∧ .closed ∉ log

/-- The lines that have come since a command was put on the line without a fault. -/
def since (number : Nat) : List Occurrence → List String
  | [] => []
  | .attempted a :: log =>
    if a.pending.waiting = number ∧ a.fault = none then received log else since number log
  | _ :: log => since number log

/-- The answer that some lines amount to: the first final line, and those of the lines before it
that were asked for. -/
def firstAnswer (leads lines : List String) : Option Response :=
  match lines.dropWhile (!isFinal ·) with
  | [] => none
  | final :: _ =>
    some ⟨final = "OK", final, (lines.takeWhile (!isFinal ·)).filter (Response.wanted leads)⟩

section

variable (o : Occurrence) (log more : List Occurrence) (attempts : List (Attempt Nat))

@[simp] theorem accepted_singleton :
    accepted [o] = match o with | .accepted p => [p] | _ => [] := by
  cases o <;> rfl

@[simp] theorem attempted_singleton :
    attempted [o] = match o with | .attempted a => [a] | _ => [] := by
  cases o <;> rfl

@[simp] theorem completed_singleton :
    completed [o] = match o with | .completed n r => [(n, r)] | _ => [] := by
  cases o <;> rfl

@[simp] theorem received_singleton :
    received [o] = match o with | .line text => [text] | _ => [] := by
  cases o <;> rfl

@[simp] theorem accepted_append : accepted (log ++ more) = accepted log ++ accepted more := by
  simp [accepted]

@[simp] theorem attempted_append : attempted (log ++ more) = attempted log ++ attempted more := by
  simp [attempted]

@[simp] theorem completed_append : completed (log ++ more) = completed log ++ completed more := by
  simp [completed]

@[simp] theorem received_append : received (log ++ more) = received log ++ received more := by
  simp [received]

@[simp] theorem written_append : written (log ++ more) = written log ++ written more := by
  simp [written]

theorem undropped_append : Undropped (log ++ more) ↔ Undropped log ∧ Undropped more := by
  simp only [Undropped, List.mem_append, not_or]
  exact and_and_and_comm

@[simp] theorem accepted_attempts : accepted (attempts.map .attempted) = [] := by
  rw [accepted, List.filterMap_map]
  exact List.filterMap_eq_nil_iff.mpr fun _ _ => rfl

@[simp] theorem attempted_attempts : attempted (attempts.map .attempted) = attempts := by
  rw [attempted, List.filterMap_map]
  exact List.filterMap_some

@[simp] theorem completed_attempts : completed (attempts.map .attempted) = [] := by
  rw [completed, List.filterMap_map]
  exact List.filterMap_eq_nil_iff.mpr fun _ _ => rfl

end

theorem mem_written {log : List Occurrence} {n : Nat} :
    n ∈ written log ↔ ∃ a ∈ attempted log, a.fault = none ∧ a.pending.waiting = n := by
  simp [written, and_assoc]

/-- Once a command is on the line, all lines that come are lines since then. -/
theorem since_append {n : Nat} {log : List Occurrence} (h : n ∈ written log)
    (more : List Occurrence) : since n (log ++ more) = since n log ++ received more := by
  induction log with
  | nil => simp [written, attempted] at h
  | cons o log ih =>
    cases o with
    | attempted a =>
      by_cases ha : a.pending.waiting = n ∧ a.fault = none
      · simp [since, ha]
      · have hlog : n ∈ written log := by
          obtain ⟨b, hb, hfault, hnumber⟩ := mem_written.mp h
          refine mem_written.mpr ⟨b, ?_, hfault, hnumber⟩
          rcases List.mem_cons.mp hb with rfl | hb
          · exact absurd ⟨hnumber, hfault⟩ ha
          · exact hb
        simp [since, ha, ih hlog]
    | accepted | line | completed | cancelled | closed => exact ih h

theorem since_attempted {n : Nat} {log : List Occurrence} (h : n ∉ written log) (a : Attempt Nat) :
    since n (log ++ [.attempted a]) = [] := by
  induction log with
  | nil => simp only [List.nil_append, since]; split <;> rfl
  | cons o log ih =>
    cases o with
    | attempted b =>
      have hb : ¬ (b.pending.waiting = n ∧ b.fault = none) := fun hb =>
        h (mem_written.mpr ⟨b, List.mem_cons_self, hb.2, hb.1⟩)
      have hlog : n ∉ written log := fun hlog => h (by
        obtain ⟨c, hc, hfault, hnumber⟩ := mem_written.mp hlog
        exact mem_written.mpr ⟨c, List.mem_cons_of_mem _ hc, hfault, hnumber⟩)
      simp [since, hb, ih hlog]
    | accepted | line | completed | cancelled | closed => exact ih h

theorem firstAnswer_append {leads lines : List String} {r : Response}
    (h : firstAnswer leads lines = some r) (more : List String) :
    firstAnswer leads (lines ++ more) = some r := by
  unfold firstAnswer at h ⊢
  split at h
  · cases h
  · next final rest hdrop =>
    have hshort : (lines.takeWhile (!isFinal ·)).length ≠ lines.length := by
      intro hlength
      have hlines := congrArg List.length (List.takeWhile_append_dropWhile (p := (!isFinal ·)) (l := lines))
      rw [hdrop, List.length_append] at hlines
      simp only [List.length_cons] at hlines
      omega
    rw [List.dropWhile_append, List.takeWhile_append, hdrop, if_neg hshort]
    exact h

theorem firstAnswer_ne_none {leads lines : List String} {line : String} (h : line ∈ lines)
    (final : isFinal line = true) : firstAnswer leads lines ≠ none := by
  unfold firstAnswer
  split
  · next hdrop =>
    have hopen := List.dropWhile_eq_nil_iff.mp hdrop line h
    rw [final] at hopen
    cases hopen
  · exact Option.some_ne_none _

/-! ## Moments -/

structure Moment (κ : Type) where
  port : SerialPort (Ticket κ)
  /-- The answers to be handed over, the next one first. -/
  due : List (Ticket κ × Response)
  log : List Occurrence

namespace Moment

variable {κ : Type}

/-- A line has been opened; `faults` says which attempts to write will fail. -/
def opened (faults : List (Option WriteFault)) : Moment κ :=
  ⟨{ SerialPort.opened with faults := faults }, [], []⟩

/-- The attempts of a port to get on with its queue, as they are logged. -/
def attempts (port : SerialPort (Ticket κ)) : List Occurrence :=
  (port.advance.1.map Attempt.numbered).map .attempted

def next (s : Moment κ) (command : String) (leads : List String) (waiting : κ) :
    Pending (Ticket κ) :=
  ⟨command, leads, (accepted s.log).length, waiting⟩

def enqueue (s : Moment κ) (p : Pending (Ticket κ)) : Moment κ :=
  { s with port := s.port.enqueue p, log := s.log ++ [.accepted p.numbered] }

def send (s : Moment κ) (command : String) (leads : List String) (waiting : κ) : Moment κ :=
  let p := s.next command leads waiting
  let log := (s.enqueue p).log ++ attempts (s.enqueue p).port
  match s.port.send p.command p.leads p.waiting with
  | .refused port => { s with port := port }
  | .held port => { s with port := port, log := log }
  | .answered port response => { port := port, due := (p.waiting, response) :: s.due, log := log }

def receive (s : Moment κ) (line : String) : Moment κ :=
  match s.port.receive line with
  | .final port ticket response failed =>
    { port := port
      due := (ticket, response) :: failed.map fun ticket => (ticket, writeFailed)
      log := s.log ++ .line line :: attempts { s.port with current := none } }
  | .kept port => { s with port := port, log := s.log ++ [.line line] }
  | .unsolicited => { s with log := s.log ++ [.line line] }

def complete (s : Moment κ) : Moment κ :=
  match s.due with
  | [] => s
  | (ticket, response) :: due =>
    { s with due := due, log := s.log ++ [.completed ticket.number response] }

def cancelAll (s : Moment κ) : Moment κ :=
  { s with port := s.port.cancelAll, log := s.log ++ [.cancelled] }

def close (s : Moment κ) : Moment κ :=
  { s with port := s.port.close, log := s.log ++ [.closed] }

inductive Step : Moment κ → Moment κ → Prop where
  | send (s : Moment κ) (command : String) (leads : List String) (waiting : κ) :
    Step s (s.send command leads waiting)
  | receive (s : Moment κ) (line : String) (free : s.due = []) : Step s (s.receive line)
  | complete (s : Moment κ) : Step s s.complete
  | cancelAll (s : Moment κ) : Step s s.cancelAll
  | close (s : Moment κ) : Step s s.close

abbrev Run : Moment κ → Moment κ → Prop := Relation.ReflTransGen Step

/-! ## Where a command is -/

/-- The commands that have yet to be put on the line. -/
def queued (s : Moment κ) : List (Pending Nat) := s.port.queue.map Pending.numbered

/-- The number of the command in flight. -/
def inFlight (s : Moment κ) : List Nat := s.port.current.toList.map (·.pending.number)

/-- The numbers of the commands about to be completed. -/
def owing (s : Moment κ) : List Nat := s.due.map (·.1.number)

end Moment

end CellModem.SerialPort
