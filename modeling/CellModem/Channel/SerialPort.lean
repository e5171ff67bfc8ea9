import CellModem.Channel

/-!
# The serial line

Commands leave one at a time, the next as soon as the final line of the one before has come in. A
line that comes in is the final line of the command in flight, one of its intermediate lines, or
unsolicited.
-/

namespace CellModem

/-- A command and whoever waits for its answer. -/
structure Pending (κ : Type) where
  command : String
  leads : List String
  waiting : κ
  deriving DecidableEq

/-- A command on the line, with the intermediate lines that have come for it. -/
structure InFlight (κ : Type) where
  pending : Pending κ
  lines : List String

/-- How putting a command on the line can fail: before any of it is written, or afterwards, when the
written bytes are pushed out. -/
inductive WriteFault where
  | write
  | flush
  deriving DecidableEq, Repr

structure Attempt (κ : Type) where
  pending : Pending κ
  fault : Option WriteFault
  deriving DecidableEq

structure SerialPort (κ : Type) where
  queue : List (Pending κ)
  /-- The command whose final line has yet to come in. -/
  current : Option (InFlight κ)
  closed : Bool
  /-- What happens to the coming commands as they are written, one entry each; behind the end all
  goes well. -/
  faults : List (Option WriteFault)
  /-- What has been written so far, a command with its end an entry. -/
  wire : List String
  handlers : List (Handler κ)
  /-- How often all handlers have been dropped. -/
  generation : Nat
  nextId : Nat

inductive Received (κ : Type) where
  /-- The end of the command in flight. The commands behind it in `failed` could not be written. -/
  | final (port : SerialPort κ) (waiting : κ) (response : Response) (failed : List κ)
  /-- An intermediate line of the command in flight. -/
  | kept (port : SerialPort κ)
  | unsolicited

namespace Attempt

variable {κ : Type}

def written (a : Attempt κ) : List String :=
  if a.fault = some .write then [] else [a.pending.command ++ "\r"]

/-- Those who wait for a command that could not be put on the line. -/
def failed (attempts : List (Attempt κ)) : List κ :=
  (attempts.filter (·.fault.isSome)).map (·.pending.waiting)

/-- The attempts of `tried`, and then one without a fault if there is a command for it. -/
def row (tried : List (Attempt κ)) (taken : Option (Pending κ)) : List (Attempt κ) :=
  tried ++ taken.toList.map fun p => ⟨p, none⟩

theorem failed_row (tried : List (Attempt κ)) (taken : Option (Pending κ))
    (h : ∀ a ∈ tried, a.fault.isSome) :
    failed (row tried taken) = tried.map (·.pending.waiting) := by
  have htried : tried.filter (·.fault.isSome) = tried := List.filter_eq_self.mpr h
  cases taken <;> simp [failed, row, htried]

end Attempt

namespace SerialPort

variable {κ : Type}

def opened : SerialPort κ := ⟨[], none, false, [], [], [], 0, 1⟩

/-- Whether a line ends a command. -/
def isFinal (line : String) : Bool :=
  line = "OK" || line = "ERROR" || line = "NO CARRIER"
    || Text.startsWith line "+CME ERROR:" || Text.startsWith line "+CMS ERROR:"

/-- Puts one command after the other on the line, until one of them is on it. Returns what was
attempted, in order. -/
def drain (port : SerialPort κ) : (queue : List (Pending κ)) → List (Attempt κ) × SerialPort κ
  | [] => ([], { port with queue := [] })
  | next :: queue =>
    let attempt : Attempt κ := ⟨next, port.faults.head?.join⟩
    let port := { port with faults := port.faults.tail, wire := port.wire ++ attempt.written }
    match attempt.fault with
    | none => ([attempt], { port with current := some ⟨next, []⟩, queue := queue })
    | some _ =>
      let (more, port) := port.drain queue
      (attempt :: more, port)

def advance (port : SerialPort κ) : List (Attempt κ) × SerialPort κ :=
  match port.current with
  | some _ => ([], port)
  | none => port.drain port.queue

/-- Some commands fail, the one behind them gets on the line, and the rest waits; or all fail. -/
theorem drain_cases (port : SerialPort κ) (free : port.current = none) (queue : List (Pending κ)) :
    ∃ (tried : List (Attempt κ)) (taken : Option (Pending κ)) (rest : List (Pending κ)),
      (port.drain queue).1 = Attempt.row tried taken ∧
      queue = tried.map (·.pending) ++ taken.toList ++ rest ∧ (∀ a ∈ tried, a.fault.isSome) ∧
      (port.drain queue).2.current = taken.map (⟨·, []⟩) ∧ (port.drain queue).2.queue = rest ∧
      (taken = none → rest = []) := by
  induction queue generalizing port with
  | nil => exact ⟨[], none, [], rfl, rfl, by simp, free, rfl, fun _ => rfl⟩
  | cons next queue ih =>
    rw [drain]
    dsimp only
    split
    · next hfault =>
      exact ⟨[], some next, queue, by simp [hfault, Attempt.row], rfl, by simp, rfl, rfl, by simp⟩
    · next fault hfault =>
      obtain ⟨tried, taken, rest, hattempts, hqueue, hfaults, hport⟩ := ih { port with
        faults := port.faults.tail
        wire := port.wire ++ Attempt.written ⟨next, port.faults.head?.join⟩ } free
      refine ⟨⟨next, port.faults.head?.join⟩ :: tried, taken, rest, ?_, ?_, ?_, hport⟩
      · simp [hattempts, Attempt.row]
      · simp [hqueue]
      · exact List.forall_mem_cons.mpr ⟨by simp [hfault], hfaults⟩

theorem wire_drain (port : SerialPort κ) (queue : List (Pending κ)) :
    (port.drain queue).2.wire = port.wire ++ (port.drain queue).1.flatMap Attempt.written := by
  induction queue generalizing port with
  | nil => simp [drain]
  | cons next queue ih =>
    rw [drain]
    dsimp only
    split
    · simp
    · simp [ih]

theorem advance_busy (port : SerialPort κ) {c : InFlight κ} (h : port.current = some c) :
    port.advance = ([], port) := by
  simp [advance, h]

theorem advance_free (port : SerialPort κ) (h : port.current = none) :
    port.advance = port.drain port.queue := by
  simp [advance, h]

theorem failed_advance_alone (port : SerialPort κ) (free : port.current = none) {p : Pending κ}
    (alone : port.queue = [p]) :
    Attempt.failed port.advance.1 = [] ∨ Attempt.failed port.advance.1 = [p.waiting] := by
  rw [advance_free port free, alone, drain]
  dsimp only
  split
  · next hfault => left; simp [Attempt.failed, hfault]
  · next fault hfault => right; simp [Attempt.failed, drain, hfault]

theorem wire_advance (port : SerialPort κ) :
    port.advance.2.wire = port.wire ++ port.advance.1.flatMap Attempt.written := by
  cases h : port.current with
  | none => rw [advance_free port h, wire_drain]
  | some c => simp [advance_busy port h]

def writeFailed : Response := .failure "ERROR"

def enqueue (port : SerialPort κ) (next : Pending κ) : SerialPort κ :=
  { port with queue := port.queue ++ [next] }

/-- Queues a command. A line that is free takes it at once; should that fail, it is answered. -/
def send (port : SerialPort κ) (command : String) (leads : List String) (waiting : κ) :
    Sent (SerialPort κ) :=
  if port.closed then .refused port
  else
    let (attempts, port) := (port.enqueue ⟨command, leads, waiting⟩).advance
    match Attempt.failed attempts with
    | [] => .held port
    | _ :: _ => .answered port writeFailed

theorem send_closed (port : SerialPort κ) (h : port.closed = true) (command : String)
    (leads : List String) (waiting : κ) : port.send command leads waiting = .refused port := by
  simp [send, h]

theorem send_held (port : SerialPort κ) (h : port.closed = false) (p : Pending κ)
    (fine : Attempt.failed (port.enqueue p).advance.1 = []) :
    port.send p.command p.leads p.waiting = .held (port.enqueue p).advance.2 := by
  simp [send, h, fine]

theorem send_answered (port : SerialPort κ) (h : port.closed = false) (p : Pending κ)
    (failed : Attempt.failed (port.enqueue p).advance.1 = [p.waiting]) :
    port.send p.command p.leads p.waiting = .answered (port.enqueue p).advance.2 writeFailed := by
  simp [send, h, failed]

def register (port : SerialPort κ) (lead : String) (handler : κ) : Option (Nat × SerialPort κ) :=
  if port.closed then none
  else some (port.nextId,
    { port with handlers := port.handlers ++ [⟨lead, handler⟩], nextId := port.nextId + 1 })

def unregisterAll (port : SerialPort κ) : SerialPort κ :=
  { port with handlers := [], generation := port.generation + 1 }

def cancelAll (port : SerialPort κ) : SerialPort κ :=
  { port with queue := [], current := none }

def close (port : SerialPort κ) : SerialPort κ :=
  { port with queue := [], current := none, closed := true }

/-- What a line is to the port, and the port afterwards. The next command is written before the one
that ended is answered. -/
def receive (port : SerialPort κ) (line : String) : Received κ :=
  match port.current with
  | none => .unsolicited
  | some current =>
    if isFinal line then
      let (attempts, port) := { port with current := none }.advance
      .final port current.pending.waiting ⟨line = "OK", line, current.lines⟩
        (Attempt.failed attempts)
    else if Response.wanted current.pending.leads line then
      .kept { port with current := some { current with lines := current.lines ++ [line] } }
    else .unsolicited

end SerialPort

instance : Channel SerialPort where
  send := SerialPort.send
  register := SerialPort.register
  unregisterAll := SerialPort.unregisterAll
  cancelAll := SerialPort.cancelAll
  close := SerialPort.close
  traffic port := port.wire

namespace Machine

variable {σ : Type}

/-- Gives an unsolicited line to the handlers there are. They are put back afterwards, in front of
those registered meanwhile, unless one of them had all handlers dropped. -/
def dispatch (m : Machine SerialPort σ) (line : String) : Machine SerialPort σ :=
  let handlers := m.channel.handlers
  let generation := m.channel.generation
  let m := { m with channel := { m.channel with handlers := [] } }.deliver handlers line
  if m.channel.generation = generation then
    { m with channel := { m.channel with handlers := handlers ++ m.channel.handlers } }
  else m

def receive (m : Machine SerialPort σ) (line : String) : Machine SerialPort σ :=
  match m.channel.receive line with
  | .final port waiting response failed =>
    { m with channel := port }.resumeAll
      ((waiting, response) :: failed.map fun waiting => (waiting, SerialPort.writeFailed))
  | .kept port => { m with channel := port }
  | .unsolicited => m.dispatch line

def receiveAll (m : Machine SerialPort σ) (lines : List String) : Machine SerialPort σ :=
  lines.foldl receive m

end Machine

end CellModem
