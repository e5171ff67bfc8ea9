import CellModem.Channel.SerialPort
import CellModem.Channel.Simulator
import CellModem.Proofs.SerialLine.Framing

/-!
# The serial line answers as the scripted modem does

An answer that can be sent as lines comes in whole, however its bytes are cut into pieces: the command
gets the lines it asked for and the final line, the handlers are given the rest. A handler can give
the command up before its answer is complete; then nobody gets it.
-/

namespace CellModem

variable {σ : Type}

/-- An answer that its lines and its final line tell in full. -/
structure Response.Sendable (r : Response) : Prop where
  ok_iff : r.ok = true ↔ r.status = "OK"
  final : SerialPort.isFinal r.status = true
  intermediate : ∀ line ∈ r.lines, SerialPort.isFinal line = false
  plain : ∀ line ∈ r.lines ++ [r.status], LineFramer.Plain line

instance (r : Response) : Decidable r.Sendable :=
  decidable_of_iff ((r.ok = true ↔ r.status = "OK") ∧ SerialPort.isFinal r.status = true ∧
      (∀ line ∈ r.lines, SerialPort.isFinal line = false) ∧
      ∀ line ∈ r.lines ++ [r.status], LineFramer.Plain line)
    ⟨fun ⟨ok_iff, final, intermediate, plain⟩ => ⟨ok_iff, final, intermediate, plain⟩,
      fun h => ⟨h.ok_iff, h.final, h.intermediate, h.plain⟩⟩

theorem Response.Sendable.ok_eq {r : Response} (h : r.Sendable) : r.ok = decide (r.status = "OK") := by
  rw [Bool.eq_iff_iff, decide_eq_true_iff]
  exact h.ok_iff

/-- The lines that are not for a command that asks for those that start with one of `leads`. -/
def Response.unwanted (leads lines : List String) : List String :=
  lines.filter fun line => !wanted leads line

theorem Response.unwanted_cons_of_wanted {leads : List String} {line : String} (lines : List String)
    (h : wanted leads line = true) : unwanted leads (line :: lines) = unwanted leads lines := by
  unfold unwanted
  rw [List.filter_cons_of_neg]
  simp [h]

theorem Response.unwanted_cons_of_not {leads : List String} {line : String} (lines : List String)
    (h : wanted leads line = false) :
    unwanted leads (line :: lines) = line :: unwanted leads lines := by
  unfold unwanted
  rw [List.filter_cons_of_pos]
  simp [h]

/-! ## Sparing the commands -/

/-- From here to its end, or to where it waits, the code neither drops the commands of the channel
nor closes it. -/
def Routine.Spares : Routine σ → Machine SerialPort σ → Prop
  | .done, _ => True
  | .read next, m => (next m.state).Spares m
  | .write state next, m => next.Spares { m with state := state }
  | .send command leads next, m =>
    match Channel.send m.channel command leads fun response => next (some response) with
    | .refused channel => (next none).Spares { m with channel := channel }
    | .answered channel response => (next (some response)).Spares { m with channel := channel }
    | .held _ => True
  | .register lead handler next, m =>
    match Channel.register m.channel lead handler with
    | none => (next none).Spares m
    | some (id, channel) => (next (some id)).Spares { m with channel := channel }
  | .unregisterAll next, m => next.Spares { m with channel := Channel.unregisterAll m.channel }
  | .cancelAll _, _ => False
  | .close _, _ => False
  | .traffic next, m => (next (Channel.traffic m.channel)).Spares m
  | .fork child next, m => child.Spares m ∧ next.Spares (child.exec m)

namespace Machine

variable {m : Machine SerialPort σ} {c c₀ : InFlight (Resume σ)}

/-- The machine with another command in flight. -/
def serving (m : Machine SerialPort σ) (c : InFlight (Resume σ)) : Machine SerialPort σ :=
  { m with channel := { m.channel with current := some c } }

/-- The machine while a line is with the handlers. -/
def handling (m : Machine SerialPort σ) : Machine SerialPort σ :=
  { m with channel := { m.channel with handlers := [] } }

/-- The handlers there were before a line are put back, unless all have been dropped meanwhile. -/
def putBack (m : Machine SerialPort σ) (before : SerialPort (Resume σ)) : Machine SerialPort σ :=
  if m.channel.generation = before.generation then
    { m with channel := { m.channel with handlers := before.handlers ++ m.channel.handlers } }
  else m

/-- Those who are given a line that came on its own. -/
def takers (m : Machine SerialPort σ) (line : String) : List (Resume σ × Response) :=
  (m.channel.handlers.filter (Handler.takes · line)).map fun h =>
    (h.handler, Response.unsolicited line)

/-- None of those who go on drops the commands of the channel. -/
def ResumingSpares : Machine SerialPort σ → List (Resume σ × Response) → Prop
  | _, [] => True
  | m, (resume, response) :: waiting =>
    (resume response).Spares m ∧ ResumingSpares ((resume response).exec m) waiting

/-- No handler drops the commands of the channel while it is given one of the lines. -/
def DispatchingSpares : Machine SerialPort σ → List String → Prop
  | _, [] => True
  | m, line :: lines =>
    m.handling.ResumingSpares (m.takers line) ∧ (m.dispatch line).DispatchingSpares lines

end Machine

namespace SerialPort

variable {κ : Type}

theorem send_busy (port : SerialPort κ) {c : InFlight κ} (busy : port.current = some c)
    (isOpen : port.closed = false) (p : Pending κ) :
    port.send p.command p.leads p.waiting = .held (port.enqueue p) := by
  have hbusy : (port.enqueue p).advance = ([], port.enqueue p) := advance_busy _ busy
  rw [send_held port isOpen p (by rw [hbusy]; rfl), hbusy]

end SerialPort

/-! ## Handlers while a command is in flight -/

/-- Code that spares the commands does not look at the one in flight, and leaves it there. -/
theorem Routine.exec_serving (r : Routine σ) {m : Machine SerialPort σ} {c₀ : InFlight (Resume σ)}
    (c : InFlight (Resume σ)) (spares : r.Spares m) (busy : m.channel.current = some c₀) :
    r.exec (m.serving c) = (r.exec m).serving c ∧ (r.exec m).channel.current = some c₀ := by
  induction r generalizing m with
  | done => exact ⟨rfl, busy⟩
  | read next ih => exact ih _ spares busy
  | write state next ih => exact ih spares busy
  | send command leads next ih =>
    cases hclosed : m.channel.closed with
    | true =>
      have hrefused : ∀ m : Machine SerialPort σ, m.channel.closed = true →
          (send command leads next).exec m = (next none).exec m :=
        fun m hclosed => exec_refused (m.channel.send_closed hclosed command leads _)
      unfold Spares at spares
      simp only [Channel.send, m.channel.send_closed hclosed command leads] at spares
      rw [hrefused m hclosed, hrefused (m.serving c) hclosed]
      exact ih none spares busy
    | false =>
      let p : Pending (Resume σ) := ⟨command, leads, fun r => next (some r)⟩
      have hheld : ∀ (m : Machine SerialPort σ) (c), m.channel.current = some c →
          m.channel.closed = false →
          (send command leads next).exec m = { m with channel := m.channel.enqueue p } :=
        fun m _ hbusy hclosed => exec_held (m.channel.send_busy hbusy hclosed p)
      rw [hheld m c₀ busy hclosed, hheld (m.serving c) c rfl hclosed]
      exact ⟨rfl, busy⟩
  | register lead handler next _ ih =>
    cases hclosed : m.channel.closed with
    | true =>
      have hnone : ∀ m : Machine SerialPort σ, m.channel.closed = true →
          Channel.register m.channel lead handler = none := fun _ hclosed => if_pos hclosed
      unfold Spares at spares
      rw [hnone m hclosed] at spares
      unfold exec
      rw [hnone m hclosed, hnone (m.serving c) hclosed]
      exact ih none spares busy
    | false =>
      have hsome : ∀ m : Machine SerialPort σ, m.channel.closed = false →
          Channel.register m.channel lead handler = some (m.channel.nextId, { m.channel with
            handlers := m.channel.handlers ++ [⟨lead, handler⟩], nextId := m.channel.nextId + 1 }) :=
        fun _ hclosed => if_neg (by rw [hclosed]; exact Bool.false_ne_true)
      unfold Spares at spares
      rw [hsome m hclosed] at spares
      unfold exec
      rw [hsome m hclosed, hsome (m.serving c) hclosed]
      exact ih _ spares busy
  | unregisterAll next ih => exact ih spares busy
  | cancelAll next ih => exact spares.elim
  | close next ih => exact spares.elim
  | traffic next ih => exact ih _ spares busy
  | fork child next ihc ihn =>
    obtain ⟨hchild, hbusy⟩ := ihc spares.1 busy
    unfold exec
    rw [hchild]
    exact ihn spares.2 hbusy

namespace Machine

variable {m : Machine SerialPort σ} {c₀ : InFlight (Resume σ)}

theorem resumeAll_serving (c : InFlight (Resume σ)) (waiting : List (Resume σ × Response))
    (spares : m.ResumingSpares waiting) (busy : m.channel.current = some c₀) :
    (m.serving c).resumeAll waiting = (m.resumeAll waiting).serving c ∧
      (m.resumeAll waiting).channel.current = some c₀ := by
  induction waiting generalizing m with
  | nil => exact ⟨rfl, busy⟩
  | cons next waiting ih =>
    obtain ⟨resume, response⟩ := next
    obtain ⟨hexec, hbusy⟩ := (resume response).exec_serving c spares.1 busy
    have hcons : ∀ m : Machine SerialPort σ, m.resumeAll ((resume, response) :: waiting)
        = ((resume response).exec m).resumeAll waiting := fun _ => rfl
    rw [hcons, hcons, hexec]
    exact ih spares.2 hbusy

theorem dispatch_eq (m : Machine SerialPort σ) (line : String) :
    m.dispatch line = (m.handling.resumeAll (m.takers line)).putBack m.channel := rfl

theorem putBack_serving (m : Machine SerialPort σ) (c : InFlight (Resume σ))
    (before : SerialPort (Resume σ)) :
    (m.serving c).putBack before = (m.putBack before).serving c := by
  unfold putBack serving
  dsimp only
  by_cases hkept : m.channel.generation = before.generation
  · rw [if_pos hkept, if_pos hkept]
  · rw [if_neg hkept, if_neg hkept]

theorem current_putBack (m : Machine SerialPort σ) (before : SerialPort (Resume σ)) :
    (m.putBack before).channel.current = m.channel.current := by
  unfold putBack
  split <;> rfl

theorem dispatch_serving (c : InFlight (Resume σ)) (line : String)
    (spares : m.handling.ResumingSpares (m.takers line)) (busy : m.channel.current = some c₀) :
    (m.serving c).dispatch line = (m.dispatch line).serving c ∧
      (m.dispatch line).channel.current = some c₀ := by
  obtain ⟨hhandled, hbusy⟩ := resumeAll_serving c (m.takers line) spares busy
  rw [dispatch_eq m, current_putBack, ← putBack_serving, ← hhandled]
  exact ⟨rfl, hbusy⟩

/-! ## The lines of an answer -/

theorem receive_kept (m : Machine SerialPort σ) (p : Pending (Resume σ)) (heard : List String)
    {line : String} (intermediate : SerialPort.isFinal line = false)
    (wanted : Response.wanted p.leads line = true) :
    (m.serving ⟨p, heard⟩).receive line = m.serving ⟨p, heard ++ [line]⟩ := by
  unfold receive SerialPort.receive
  simp only [serving, intermediate, Bool.false_eq_true, if_false, wanted, if_true]

theorem receive_unwanted (m : Machine SerialPort σ) (p : Pending (Resume σ)) (heard : List String)
    {line : String} (intermediate : SerialPort.isFinal line = false)
    (unwanted : Response.wanted p.leads line = false) :
    (m.serving ⟨p, heard⟩).receive line = (m.serving ⟨p, heard⟩).dispatch line := by
  unfold receive SerialPort.receive
  simp only [serving, intermediate, Bool.false_eq_true, if_false, unwanted]

/-- Takes the command in flight off the line and puts the next one on it; then whoever waited gets the
answer, and those whose commands could not be written theirs. -/
def finish (m : Machine SerialPort σ) (waiting : Resume σ) (response : Response) :
    Machine SerialPort σ :=
  let (attempts, port) := { m.channel with current := none }.advance
  { m with channel := port }.resumeAll
    ((waiting, response) :: (Attempt.failed attempts).map fun waiting =>
      (waiting, SerialPort.writeFailed))

theorem receive_final (m : Machine SerialPort σ) (p : Pending (Resume σ)) (heard : List String)
    {line : String} (final : SerialPort.isFinal line = true) :
    (m.serving ⟨p, heard⟩).receive line = m.finish p.waiting ⟨line = "OK", line, heard⟩ := by
  unfold receive SerialPort.receive
  simp only [serving, final, if_true]
  rfl

theorem receiveAll_flatten (m : Machine SerialPort σ) (lines : List (List String)) :
    lines.foldl receiveAll m = m.receiveAll lines.flatten := List.foldl_flatten.symm

/-- The wanted lines are kept for the command, the others go to the handlers. -/
theorem receiveAll_serving (p : Pending (Resume σ)) (heard lines : List String)
    (intermediate : ∀ line ∈ lines, SerialPort.isFinal line = false)
    (spares : m.DispatchingSpares (Response.unwanted p.leads lines))
    (busy : m.channel.current = some c₀) :
    let handled := (Response.unwanted p.leads lines).foldl dispatch m
    (m.serving ⟨p, heard⟩).receiveAll lines
        = handled.serving ⟨p, heard ++ lines.filter (Response.wanted p.leads)⟩ ∧
      handled.channel.current = some c₀ := by
  induction lines generalizing m heard with
  | nil =>
    rw [List.filter_nil, List.append_nil]
    exact ⟨rfl, busy⟩
  | cons line lines ih =>
    obtain ⟨hline, hlines⟩ := List.forall_mem_cons.mp intermediate
    unfold receiveAll at ih ⊢
    rw [List.foldl_cons]
    cases hwanted : Response.wanted p.leads line with
    | true =>
      rw [Response.unwanted_cons_of_wanted lines hwanted] at spares ⊢
      rw [List.filter_cons_of_pos hwanted, receive_kept m p heard hline hwanted,
        List.append_cons heard line (lines.filter _)]
      exact ih (heard ++ [line]) hlines spares busy
    | false =>
      rw [Response.unwanted_cons_of_not lines hwanted] at spares ⊢
      obtain ⟨hdispatch, hbusy⟩ := dispatch_serving ⟨p, heard⟩ line spares.1 busy
      rw [List.filter_cons_of_neg (by rw [hwanted]; exact Bool.false_ne_true),
        receive_unwanted m p heard hline hwanted, hdispatch]
      exact ih heard hlines spares.2 hbusy

/-- A command is in flight and its answer comes in as lines, cut into pieces anyhow. Unless a handler
that is given one of them drops the commands of the channel or closes it, the handlers are given the
lines the command did not ask for, in order, with the command in flight all the while; then it is
completed, once, with the answer as the scripted modem gives it. -/
theorem answer_delivered (m : Machine SerialPort σ) (p : Pending (Resume σ)) (r : Response)
    (pieces : List (List UInt8)) (inFlight : m.channel.current = some ⟨p, []⟩)
    (sendable : r.Sendable) (written : LineFramer.Written (r.lines ++ [r.status]) pieces.flatten)
    (spares : m.DispatchingSpares (Response.unwanted p.leads r.lines)) :
    let handled := (Response.unwanted p.leads r.lines).foldl dispatch m
    handled.channel.current = some ⟨p, []⟩ ∧
    (LineFramer.empty.pushAll pieces).1.foldl receiveAll m
      = handled.finish p.waiting (r.filtered p.leads) ∧
    ∀ s : Simulator (Resume σ), s.accepting = true → (s.answer p.command).1 = r →
      s.send p.command p.leads p.waiting =
        if s.deferred then
          .held { s.taken p.command with
            queued := s.queued ++ [(p.waiting, r.filtered p.leads)] }
        else .answered (s.taken p.command) (r.filtered p.leads) := by
  intro handled
  have hserving : m.serving ⟨p, []⟩ = m := by
    unfold serving
    rw [← inFlight]
  obtain ⟨hlines, hbusy⟩ :=
    receiveAll_serving p [] r.lines sendable.intermediate spares inFlight
  refine ⟨hbusy, ?_, fun s haccepting hanswer => ?_⟩
  · have hresponse : (⟨r.status = "OK", r.status, r.lines.filter (Response.wanted p.leads)⟩ : Response)
        = r.filtered p.leads := by
      rw [Response.filtered, sendable.ok_eq]
    have hlast : m.receiveAll (r.lines ++ [r.status]) = (m.receiveAll r.lines).receive r.status := by
      unfold receiveAll
      rw [List.foldl_append]
      rfl
    rw [hserving] at hlines
    rw [receiveAll_flatten, written.pushAll sendable.plain, hlast, hlines,
      receive_final _ _ _ sendable.final, List.nil_append, hresponse]
  · rw [s.send_accepted haccepting, hanswer]

/-- Notes what it is given. -/
def noting (response : Response) : Act (List Response) Unit := modify (· ++ [response])

/-- Whoever asked for the state of the radio. -/
def asked : Pending (Resume (List Response)) :=
  ⟨"AT+CFUN?", ["+CFUN:"], fun response => (noting response).routine⟩

/-- The state of the radio has been asked for; lines on the presence of the SIM are handled. -/
def asking (handler : Response → Act (List Response) Unit) : Machine SerialPort (List Response) :=
  (⟨SerialPort.opened, []⟩ : Machine SerialPort (List Response)).start do
    discard (Act.register "#QSS:" handler)
    match ← Act.send asked.command asked.leads with
    | some response => noting response
    | none => pure ()

/-- An answer that a line on the presence of the SIM comes into. -/
def interrupted : Response := ⟨true, "OK", ["#QSS: 1", "+CFUN: 1"]⟩

def interruptedPieces : List (List UInt8) :=
  ["#QSS: 1\r\n+CF", "UN: 1\r", "\n\nO", "K\n"].map (·.toUTF8.data.toList)

theorem written_interrupted :
    LineFramer.Written (interrupted.lines ++ [interrupted.status]) interruptedPieces.flatten := by
  have hok := LineFramer.Written.cons "OK" [10] (by simp) (by simp [LineFramer.isLineEnd]) .nil
  have hstate := LineFramer.Written.cons "+CFUN: 1" [13, 10, 10] (by simp)
    (by simp [LineFramer.isLineEnd]) hok
  exact .cons "#QSS: 1" [13, 10] (by simp) (by simp [LineFramer.isLineEnd]) hstate

/-- A handler that asks for more. -/
def following (line : Response) : Act (List Response) Unit := do
  noting line
  discard (Act.send "AT#QSS?" [])

theorem answer_delivered_interrupted :
    (asking following).channel.current = some ⟨asked, []⟩ ∧ interrupted.Sendable ∧
    LineFramer.Written (interrupted.lines ++ [interrupted.status]) interruptedPieces.flatten ∧
    (asking following).DispatchingSpares (Response.unwanted asked.leads interrupted.lines) ∧
    let answered := (LineFramer.empty.pushAll interruptedPieces).1.foldl receiveAll (asking following)
    answered.state = [.unsolicited "#QSS: 1", ⟨true, "OK", ["+CFUN: 1"]⟩] ∧
      answered.channel.wire = ["AT+CFUN?\r", "AT#QSS?\r"] := by
  have hflight : (asking following).channel.current = some ⟨asked, []⟩ := rfl
  have hsendable : interrupted.Sendable := by decide +kernel
  have hspares :
      (asking following).DispatchingSpares (Response.unwanted asked.leads interrupted.lines) :=
    ⟨⟨trivial, trivial⟩, trivial⟩
  obtain ⟨-, hanswered, -⟩ := answer_delivered (asking following) asked interrupted
    interruptedPieces hflight hsendable written_interrupted hspares
  refine ⟨hflight, hsendable, written_interrupted, hspares, ?_⟩
  dsimp only
  rw [hanswered]
  exact ⟨rfl, rfl⟩

/-- A handler that drops the commands of the channel loses the answer that the line came into. -/
theorem answer_lost :
    let m := asking fun line => noting line *> Act.cancelAll
    m.channel.current = some ⟨asked, []⟩ ∧ interrupted.Sendable ∧
    LineFramer.Written (interrupted.lines ++ [interrupted.status]) interruptedPieces.flatten ∧
    let answered := (LineFramer.empty.pushAll interruptedPieces).1.foldl receiveAll m
    answered.state = [.unsolicited "#QSS: 1"] ∧ answered.channel.current.isNone ∧
      answered.channel.queue.isEmpty := by
  have hlines : (LineFramer.empty.pushAll interruptedPieces).1.flatten = interrupted.lines ++ ["OK"] :=
    written_interrupted.pushAll (by decide +kernel)
  refine ⟨rfl, by decide +kernel, written_interrupted, ?_⟩
  dsimp only
  rw [receiveAll_flatten, hlines]
  exact ⟨rfl, rfl, rfl⟩

end Machine

end CellModem
