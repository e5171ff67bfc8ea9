import CellModem.Proofs.SerialLine.Kept

/-!
# Machines on a serial line

A machine is at every input in a moment of its line. The routines of a host are its clients: what
they do to the line, also while they are resumed or given a line, is a run of moments.
-/

namespace CellModem

variable {κ : Type}

/-! ## Without numbers -/

def Pending.unnumbered (p : Pending (SerialPort.Ticket κ)) : Pending κ :=
  ⟨p.command, p.leads, p.waiting.waiting⟩

def InFlight.unnumbered (c : InFlight (SerialPort.Ticket κ)) : InFlight κ :=
  ⟨c.pending.unnumbered, c.lines⟩

def Attempt.unnumbered (a : Attempt (SerialPort.Ticket κ)) : Attempt κ :=
  ⟨a.pending.unnumbered, a.fault⟩

theorem Attempt.failed_unnumbered (attempts : List (Attempt (SerialPort.Ticket κ))) :
    failed (attempts.map unnumbered) = (failed attempts).map (·.waiting) := by
  unfold failed
  rw [List.filter_map, List.map_map, List.map_map]
  rfl

namespace SerialPort

/-- The ports are the same but for numbers and handlers. -/
structure Mirrors (numbered : SerialPort (Ticket κ)) (port : SerialPort κ) : Prop where
  queue : port.queue = numbered.queue.map Pending.unnumbered
  current : port.current = numbered.current.map InFlight.unnumbered
  closed : port.closed = numbered.closed
  faults : port.faults = numbered.faults
  wire : port.wire = numbered.wire

namespace Mirrors

variable {numbered : SerialPort (Ticket κ)} {port : SerialPort κ}

theorem drain (h : Mirrors numbered port) (queue : List (Pending (Ticket κ))) :
    (port.drain (queue.map Pending.unnumbered)).1
        = (numbered.drain queue).1.map Attempt.unnumbered ∧
      Mirrors (numbered.drain queue).2 (port.drain (queue.map Pending.unnumbered)).2 := by
  induction queue generalizing numbered port with
  | nil => exact ⟨rfl, ⟨rfl, h.current, h.closed, h.faults, h.wire⟩⟩
  | cons next queue ih =>
    rw [List.map_cons, SerialPort.drain, SerialPort.drain]
    dsimp only
    rw [h.faults, h.wire]
    cases hfault : numbered.faults.head?.join with
    | none =>
      exact ⟨rfl, ⟨rfl, rfl, h.closed, rfl, rfl⟩⟩
    | some fault =>
      dsimp only
      have htail : Mirrors
          { numbered with
            faults := numbered.faults.tail
            wire := numbered.wire ++ Attempt.written ⟨next, some fault⟩ }
          { port with
            faults := numbered.faults.tail
            wire := numbered.wire ++ Attempt.written ⟨next.unnumbered, some fault⟩ } :=
        ⟨h.queue, h.current, h.closed, rfl, rfl⟩
      obtain ⟨hattempts, hport⟩ := ih htail
      refine ⟨?_, hport⟩
      rw [hattempts]
      rfl

theorem advance (h : Mirrors numbered port) :
    port.advance.1 = numbered.advance.1.map Attempt.unnumbered ∧
      Mirrors numbered.advance.2 port.advance.2 := by
  have hcurrent := h.current
  cases hnumbered : numbered.current with
  | none =>
    rw [hnumbered] at hcurrent
    rw [advance_free _ hnumbered, advance_free _ hcurrent, h.queue]
    exact h.drain _
  | some c =>
    rw [hnumbered] at hcurrent
    rw [advance_busy _ hnumbered, advance_busy _ hcurrent]
    exact ⟨rfl, h⟩

theorem enqueue (h : Mirrors numbered port) (p : Pending (Ticket κ)) :
    Mirrors (numbered.enqueue p) (port.enqueue p.unnumbered) := by
  refine ⟨?_, h.current, h.closed, h.faults, h.wire⟩
  simp [SerialPort.enqueue, h.queue]

theorem register (h : Mirrors numbered port) {lead : String} {handler : κ} {id : Nat}
    {port' : SerialPort κ} (registered : port.register lead handler = some (id, port')) :
    Mirrors numbered port' := by
  unfold SerialPort.register at registered
  split at registered
  · cases registered
  · cases registered
    exact ⟨h.queue, h.current, h.closed, h.faults, h.wire⟩

end Mirrors

namespace Moment

/-! ## Clients -/

theorem mirrors_send {s : Moment κ} {port : SerialPort κ} (h : Mirrors s.port port)
    (command : String) (leads : List String) (waiting : κ) :
    match port.send command leads waiting with
    | .refused port' | .held port' =>
      Mirrors (s.send command leads waiting).port port' ∧
        (s.send command leads waiting).due = s.due
    | .answered port' response =>
      Mirrors (s.send command leads waiting).port port' ∧
        ∃ number, (s.send command leads waiting).due = (⟨number, waiting⟩, response) :: s.due := by
  have hnext : (s.next command leads waiting).unnumbered = ⟨command, leads, waiting⟩ := rfl
  have hclosed := h.closed
  unfold send
  dsimp only
  generalize s.next command leads waiting = p at hnext
  obtain ⟨hattempts, hport⟩ := (h.enqueue p).advance
  have hfailed := Attempt.failed_unnumbered (s.port.enqueue p).advance.1
  rw [← hattempts, hnext] at hfailed
  rw [hnext] at hport
  unfold SerialPort.send
  dsimp only
  rw [hclosed, hfailed]
  by_cases hopen : s.port.closed
  · simp only [hopen, if_true]
    exact ⟨h, trivial⟩
  · simp only [hopen, if_false, Bool.false_eq_true]
    cases Attempt.failed (s.port.enqueue p).advance.1 with
    | nil => exact ⟨hport, rfl⟩
    | cons _ _ =>
      have hwaiting : p.waiting.waiting = waiting := congrArg Pending.waiting hnext
      exact ⟨hport, p.number, by rw [← hwaiting]; rfl⟩

theorem mirrors_receive {s : Moment κ} {port : SerialPort κ} (h : Mirrors s.port port)
    (line : String) :
    match port.receive line with
    | .final port' waiting response failed =>
      Mirrors (s.receive line).port port' ∧
        (s.receive line).due.map (fun (ticket, r) => (ticket.waiting, r))
          = (waiting, response) :: failed.map fun waiting => (waiting, writeFailed)
    | .kept port' => Mirrors (s.receive line).port port' ∧ (s.receive line).due = s.due
    | .unsolicited => Mirrors (s.receive line).port port ∧ (s.receive line).due = s.due := by
  have hcurrent := h.current
  unfold receive SerialPort.receive
  rw [hcurrent]
  cases hnumbered : s.port.current with
  | none => exact ⟨h, rfl⟩
  | some c =>
    have hfree : Mirrors { s.port with current := none } { port with current := none } :=
      ⟨h.queue, rfl, h.closed, h.faults, h.wire⟩
    obtain ⟨hattempts, hport⟩ := hfree.advance
    have hfailed := Attempt.failed_unnumbered
      ({ s.port with current := none } : SerialPort (Ticket κ)).advance.1
    rw [← hattempts] at hfailed
    dsimp only [Option.map_some]
    rw [hfailed]
    have hleads : c.unnumbered.pending.leads = c.pending.leads := rfl
    rw [hleads]
    by_cases hfinal : isFinal line
    · simp only [hfinal, if_true]
      refine ⟨hport, ?_⟩
      simp [InFlight.unnumbered, Pending.unnumbered]
    · simp only [hfinal, if_false, Bool.false_eq_true]
      by_cases hwanted : Response.wanted c.pending.leads line
      · simp only [hwanted, if_true]
        exact ⟨⟨h.queue, rfl, h.closed, h.faults, h.wire⟩, trivial⟩
      · simp only [hwanted, if_false, Bool.false_eq_true]
        exact ⟨h, trivial⟩

variable {σ : Type}

theorem exec_run (routine : Routine σ) (m : Machine SerialPort σ) (s : Moment (Resume σ))
    (h : Mirrors s.port m.channel) :
    ∃ t, Run s t ∧ Mirrors t.port (routine.exec m).channel ∧ t.due = s.due := by
  induction routine generalizing m s with
  | done => exact ⟨s, .refl, h, rfl⟩
  | read next ih => exact ih m.state m s h
  | write state next ih => exact ih { m with state := state } s h
  | send command leads next ih =>
    have hsend := mirrors_send h command leads fun response => next (some response)
    have hstep := Step.send s command leads fun response => next (some response)
    generalize s.send command leads (fun response => next (some response)) = u at hsend hstep
    unfold Routine.exec
    cases hsent : Channel.send m.channel command leads fun response => next (some response) with
    | refused port =>
      rw [show m.channel.send command leads _ = _ from hsent] at hsend
      obtain ⟨t, hrun, hport, hdue⟩ := ih none { m with channel := port } u hsend.1
      exact ⟨t, .head hstep hrun, hport, hdue.trans hsend.2⟩
    | held port =>
      rw [show m.channel.send command leads _ = _ from hsent] at hsend
      exact ⟨u, .single hstep, hsend⟩
    | answered port response =>
      rw [show m.channel.send command leads _ = _ from hsent] at hsend
      obtain ⟨hmirrors, number, hdue⟩ := hsend
      -- The answer is due for a moment, and handed over before the routine goes on.
      have hcomplete : u.complete.port = u.port ∧ u.complete.due = s.due := by
        simp [complete, hdue]
      obtain ⟨t, hrun, hport, hlast⟩ :=
        ih (some response) { m with channel := port } u.complete (hcomplete.1 ▸ hmirrors)
      exact ⟨t, .head hstep (.head (.complete u) hrun), hport, hlast.trans hcomplete.2⟩
  | register lead handler next ihandler ih =>
    unfold Routine.exec
    cases hregistered : Channel.register m.channel lead handler with
    | none => exact ih none m s h
    | some registered =>
      obtain ⟨id, port⟩ := registered
      have hport : Mirrors s.port port := h.register hregistered
      exact ih (some id) { m with channel := port } s hport
  | unregisterAll next ih =>
    exact ih _ s ⟨h.queue, h.current, h.closed, h.faults, h.wire⟩
  | cancelAll next ih =>
    obtain ⟨t, hrun, ht⟩ := ih { m with channel := m.channel.cancelAll } s.cancelAll
      ⟨rfl, rfl, h.closed, h.faults, h.wire⟩
    exact ⟨t, .head (.cancelAll s) hrun, ht⟩
  | close next ih =>
    obtain ⟨t, hrun, ht⟩ := ih { m with channel := m.channel.close } s.close
      ⟨rfl, rfl, rfl, h.faults, h.wire⟩
    exact ⟨t, .head (.close s) hrun, ht⟩
  | traffic next ih => exact ih _ m s h
  | fork child next ihchild ih =>
    obtain ⟨t, hrun, hport, hdue⟩ := ihchild m s h
    obtain ⟨u, hrest, hlast, hdue'⟩ := ih (child.exec m) t hport
    exact ⟨u, hrun.trans hrest, hlast, hdue'.trans hdue⟩

/-- Routines that wait for the answers that are due run through moments, one after the other. -/
theorem resumeAll_run (m : Machine SerialPort σ) (s : Moment (Resume σ))
    (h : Mirrors s.port m.channel) :
    ∃ t, Run s t ∧ t.due = [] ∧
      Mirrors t.port (m.resumeAll (s.due.map fun (ticket, r) => (ticket.waiting, r))).channel := by
  generalize hdue : s.due = due
  induction due generalizing m s with
  | nil => exact ⟨s, .refl, hdue, h⟩
  | cons next due ih =>
    obtain ⟨ticket, response⟩ := next
    have hcomplete : s.complete.port = s.port ∧ s.complete.due = due := by
      simp [complete, hdue]
    obtain ⟨t, hrun, hport, hkept⟩ :=
      exec_run (ticket.waiting response) m s.complete (hcomplete.1 ▸ h)
    obtain ⟨u, hrest, hempty, hlast⟩ :=
      ih ((ticket.waiting response).exec m) t hport (hkept.trans hcomplete.2)
    exact ⟨u, .head (.complete s) (hrun.trans hrest), hempty, hlast⟩

theorem handled_run (m : Machine SerialPort σ) (s : Moment (Resume σ))
    (h : Mirrors s.port m.channel) (waiting : List (Resume σ × Response)) :
    ∃ t, Run s t ∧ t.due = s.due ∧ Mirrors t.port (m.resumeAll waiting).channel := by
  induction waiting generalizing m s with
  | nil => exact ⟨s, .refl, rfl, h⟩
  | cons next waiting ih =>
    obtain ⟨t, hrun, hport, hdue⟩ := exec_run (next.1 next.2) m s h
    obtain ⟨u, hrest, hdue', hlast⟩ := ih ((next.1 next.2).exec m) t hport
    exact ⟨u, hrun.trans hrest, hdue'.trans hdue, hlast⟩

theorem dispatch_run (m : Machine SerialPort σ) (s : Moment (Resume σ))
    (h : Mirrors s.port m.channel) (line : String) :
    ∃ t, Run s t ∧ t.due = s.due ∧ Mirrors t.port (m.dispatch line).channel := by
  -- The handlers of a port are no part of what a moment mirrors.
  have htaken : Mirrors s.port { m.channel with handlers := [] } :=
    ⟨h.queue, h.current, h.closed, h.faults, h.wire⟩
  unfold Machine.dispatch Machine.deliver
  obtain ⟨t, hrun, hdue, hport⟩ :=
    handled_run { m with channel := { m.channel with handlers := [] } } s htaken _
  refine ⟨t, hrun, hdue, ?_⟩
  dsimp only
  split
  · exact ⟨hport.queue, hport.current, hport.closed, hport.faults, hport.wire⟩
  · exact hport

theorem receive_run (m : Machine SerialPort σ) (s : Moment (Resume σ))
    (h : Mirrors s.port m.channel) (free : s.due = []) (line : String) :
    ∃ t, Run s t ∧ t.due = [] ∧ Mirrors t.port (m.receive line).channel := by
  have hreceive := mirrors_receive h line
  have hstep := Step.receive s line free
  unfold Machine.receive
  cases hreceived : m.channel.receive line with
  | final port waiting response failed =>
    rw [hreceived] at hreceive
    obtain ⟨t, hrun, hdue, hport⟩ := resumeAll_run { m with channel := port } _ hreceive.1
    rw [hreceive.2] at hport
    exact ⟨t, .head hstep hrun, hdue, hport⟩
  | kept port =>
    rw [hreceived] at hreceive
    exact ⟨_, .single hstep, hreceive.2.trans free, hreceive.1⟩
  | unsolicited =>
    rw [hreceived] at hreceive
    obtain ⟨t, hrun, hdue, hport⟩ := dispatch_run m _ hreceive.1 line
    exact ⟨t, .head hstep hrun, hdue.trans (hreceive.2.trans free), hport⟩

end Moment

end SerialPort

/-! ## Machines -/

namespace Machine

variable {σ : Type}

inductive Input : Machine SerialPort σ → Machine SerialPort σ → Prop where
  | start (m : Machine SerialPort σ) (act : Act σ Unit) : Input m (m.start act)
  | receive (m : Machine SerialPort σ) (line : String) : Input m (m.receive line)

/-- After every input a machine is in a moment of its line in which nothing is on the stack. -/
theorem inputs_run {faults : List (Option WriteFault)} {m m' : Machine SerialPort σ}
    (fresh : m.channel = { SerialPort.opened with faults := faults })
    (inputs : Relation.ReflTransGen Input m m') :
    ∃ s, SerialPort.Moment.Run (.opened faults) s ∧ s.due = [] ∧
      SerialPort.Mirrors s.port m'.channel := by
  induction inputs with
  | refl =>
    refine ⟨.opened faults, .refl, rfl, ?_⟩
    rw [fresh]
    exact ⟨rfl, rfl, rfl, rfl, rfl⟩
  | tail _ input ih =>
    obtain ⟨s, hrun, hdue, hport⟩ := ih
    cases input with
    | start act =>
      obtain ⟨t, hmore, hport', hdue'⟩ := SerialPort.Moment.exec_run act.routine _ s hport
      exact ⟨t, hrun.trans hmore, hdue'.trans hdue, hport'⟩
    | receive line =>
      obtain ⟨t, hmore, hdue', hport'⟩ := SerialPort.Moment.receive_run _ s hport hdue line
      exact ⟨t, hrun.trans hmore, hdue', hport'⟩

/-- Whatever the host does, also when it drops commands: nothing waits while the line is free. -/
theorem inputs_settled {faults : List (Option WriteFault)} {m m' : Machine SerialPort σ}
    (fresh : m.channel = { SerialPort.opened with faults := faults })
    (inputs : Relation.ReflTransGen Input m m') (free : m'.channel.current = none) :
    m'.channel.queue = [] := by
  obtain ⟨s, hrun, -, hport⟩ := inputs_run fresh inputs
  have hcurrent := hport.current
  rw [free] at hcurrent
  have hsettled := (SerialPort.Moment.kept_run hrun).1 (Option.map_eq_none_iff.mp hcurrent.symm)
  rw [hport.queue, hsettled]
  rfl

end Machine

end CellModem
