import CellModem.Channel.SerialPort
import CellModem.Proofs.Operations.World

/-!
# The course of a call

A modem may answer every command line with lines that depend on that command line only, the last of
them a final one. What a call sends on such a modem, and what it comes to, is certain before it is
made.
-/

namespace CellModem

/-- What a modem answers to a command line, which is what the port writes for one command: some lines,
and one that is final. -/
structure Responder where
  lines : String → List String
  final : String → String
  lines_not_final : ∀ text, ∀ line ∈ lines text, SerialPort.isFinal line = false
  final_isFinal : ∀ text, SerialPort.isFinal (final text) = true

namespace Responder

def answer (modem : Responder) (text : String) : List String := modem.lines text ++ [modem.final text]

def response (modem : Responder) (command : String) (leads : List String) : Response :=
  let final := modem.final (command ++ "\r")
  ⟨final = "OK", final, (modem.lines (command ++ "\r")).filter (Response.wanted leads)⟩

/-- What the modem answers to the command is wanted by the command, or handled by nobody. -/
def Quiet {κ : Type} (modem : Responder) (handlers : List (Handler κ)) (command : String)
    (leads : List String) : Prop :=
  ∀ line ∈ modem.lines (command ++ "\r"), Response.wanted leads line = false →
    ∀ h ∈ handlers, h.takes line = false

instance {κ : Type} (modem : Responder) (handlers : List (Handler κ)) (command : String)
    (leads : List String) : Decidable (modem.Quiet handlers command leads) :=
  inferInstanceAs (Decidable (∀ line ∈ modem.lines (command ++ "\r"), _))

end Responder

/-- What code sends on such a modem when it is alone, each command with the leads of the lines that it
wants. The code goes on as long as it only reads and writes the state and sends. -/
def Routine.sends {σ : Type} (modem : Responder) : Routine σ → σ → List (String × List String)
  | .read next, state => (next state).sends modem state
  | .write state next, _ => next.sends modem state
  | .send command leads next, state =>
    (command, leads) :: (next (some (modem.response command leads))).sends modem state
  | _, _ => []

/-! ## A port that works -/

namespace SerialPort

variable {κ : Type} {port : SerialPort κ}

/-- The port is open, and writing does not fail. -/
structure Clear (port : SerialPort κ) : Prop where
  closed : port.closed = false
  faults : port.faults = []

theorem advance_idle (port : SerialPort κ) (free : port.current = none) (queue : port.queue = []) :
    port.advance = ([], port) := by
  rw [advance_free port free, queue, drain, ← queue]

theorem Clear.advance_queued (clear : port.Clear) (free : port.current = none) {p : Pending κ}
    {rest : List (Pending κ)} (queue : port.queue = p :: rest) :
    port.advance = ([⟨p, none⟩], { port with
      current := some ⟨p, []⟩
      queue := rest
      wire := port.wire ++ [p.command ++ "\r"] }) := by
  rw [advance_free port free, queue, drain, clear.faults]
  simp [Attempt.written]

theorem Clear.failed_advance (clear : port.Clear) : Attempt.failed port.advance.1 = [] := by
  cases hcurrent : port.current with
  | some c =>
    rw [advance_busy port hcurrent]
    rfl
  | none =>
    cases hqueue : port.queue with
    | nil =>
      rw [advance_idle port hcurrent hqueue]
      rfl
    | cons p rest =>
      rw [clear.advance_queued hcurrent hqueue]
      rfl

theorem Clear.send (clear : port.Clear) (p : Pending κ) :
    port.send p.command p.leads p.waiting = .held (port.enqueue p).advance.2 :=
  send_held port clear.closed p (Clear.failed_advance ⟨clear.closed, clear.faults⟩)

end SerialPort

namespace Calls

variable {ι : Type} {α : ι → Type} {calls : Calls α} {modem : Responder}
  {handlers : List (Handler (Resume (Logged α)))} {i : ι}

/-- On this modem the code sends these commands, and comes to this result. The handlers are given
nothing meanwhile. -/
inductive Course (calls : Calls α) (modem : Responder) (handlers : List (Handler (Resume (Logged α))))
    (i : ι) (result : Except Error (Settled (calls.facility i) (α i))) :
    Routine (Logged α) → List String → Prop where
  | settle : Course calls modem handlers i result (calls.settling i result) []
  | pass (r : Routine (Logged α)) (commands : List String)
    (h : Course calls modem handlers i result r commands) :
    Course calls modem handlers i result (.read fun host => .write host r) commands
  | send (command : String) (leads : List String) (next : Option Response → Routine (Logged α))
    (commands : List String) (quiet : modem.Quiet handlers command leads)
    (h : Course calls modem handlers i result (next (some (modem.response command leads))) commands) :
    Course calls modem handlers i result (.send command leads next) (command :: commands)

/-- All that the code sends when it is alone leaves the handlers alone. -/
def Spares (modem : Responder) (handlers : List (Handler (Resume (Logged α))))
    (r : Routine (Logged α)) (host : Logged α) : Prop :=
  ∀ query ∈ r.sends modem host, modem.Quiet handlers query.1 query.2

theorem exists_course_of_over {step : Step (Logged α) (Settled (calls.facility i) (α i))}
    (asks : step.Over .full) (host : Logged α)
    (spares : Spares modem handlers (step.routine (calls.settling i)) host) :
    ∃ result commands,
      Course calls modem handlers i result (step.routine (calls.settling i)) commands := by
  refine asks (fun r => Spares modem handlers r host →
    ∃ result commands, Course calls modem handlers i result r commands) ?_ ?_ _ ?_ spares
  · intro command leads next h hspares
    obtain ⟨hquiet, hrest⟩ := List.forall_mem_cons.mp hspares
    obtain ⟨result, commands, hcourse⟩ := h (some (modem.response command leads)) hrest
    exact ⟨result, _, .send command leads next commands hquiet hcourse⟩
  · intro γ r next h hspares
    -- A driver that has everything answers without counting.
    obtain ⟨result, commands, hcourse⟩ := h (.ok r.transaction) hspares
    exact ⟨result, commands, .pass _ commands hcourse⟩
  · exact fun result _ => ⟨result, [], .settle⟩

/-- A call that is given its instance has a course. -/
theorem exists_course (asks : (calls.operation i).OverDriver) (vendor : Vendor) (host : Logged α)
    (spares : Spares modem handlers (calls.working i (vendor, .full)) host) :
    ∃ result commands,
      Course calls modem handlers i result (calls.working i (vendor, .full)) commands := by
  obtain ⟨planned, hsteady⟩ := (asks vendor .full).steady rfl
  rw [working_eq] at spares ⊢
  unfold Routine.asking at spares ⊢
  simp only [hsteady] at spares ⊢
  cases planned with
  | error e => exact ⟨.error e, [], .pass _ [] .settle⟩
  | ok step =>
    have hstep := (asks vendor .full).yields .unlimited step (congrArg Prod.fst (hsteady _))
    obtain ⟨result, commands, hcourse⟩ := exists_course_of_over hstep host spares
    exact ⟨result, commands, .pass _ commands hcourse⟩

/-- Code with a course puts its next command on the line or in the queue; when there is none left, it
settles and answers. -/
theorem Course.exec {result : Except Error (Settled (calls.facility i) (α i))}
    {r : Routine (Logged α)} {commands : List String}
    (course : Course calls modem handlers i result r commands) (m : Machine SerialPort (Logged α))
    (clear : m.channel.Clear) :
    (commands = [] ∧ r.exec m = { m with state :=
      (m.state.settle (calls.number i) result).note ⟨i, result.map Settled.answer⟩ }) ∨
    ∃ p rest, commands = p.command :: rest ∧ modem.Quiet handlers p.command p.leads ∧
      Course calls modem handlers i result (p.waiting (modem.response p.command p.leads)) rest ∧
      r.exec m = { m with channel := (m.channel.enqueue p).advance.2 } := by
  induction course with
  | settle => exact .inl ⟨rfl, rfl⟩
  | pass r commands h ih => exact ih
  | send command leads next commands quiet h ih =>
    refine .inr ⟨⟨command, leads, fun response => next (some response)⟩, commands, rfl, quiet, h, ?_⟩
    have hsent := clear.send ⟨command, leads, fun response => next (some response)⟩
    unfold Routine.exec
    rw [show Channel.send m.channel command leads _ = _ from hsent]

end Calls

end CellModem
