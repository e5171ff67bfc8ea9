import CellModem.Proofs.SerialLine.Moment

/-!
# What a step of a serial line is made of

Each step is a few moves: a command is queued, the port gets on with its queue, a line is taken, an
answer is handed over, or everything is dropped. Between two steps a command is queued only behind
one in flight.
-/

namespace CellModem.SerialPort.Moment

variable {κ : Type}

/-- What a line is while nothing is dropped, apart from the end of a command. -/
inductive Hears (port : SerialPort (Ticket κ)) (line : String) : SerialPort (Ticket κ) → Prop where
  | kept (c : InFlight (Ticket κ)) (busy : port.current = some c) (open_ : isFinal line = false)
    (wanted : Response.wanted c.pending.leads line = true) :
    Hears port line { port with current := some { c with lines := c.lines ++ [line] } }
  | passed (unwanted : ∀ c, port.current = some c →
      isFinal line = false ∧ Response.wanted c.pending.leads line = false) :
    Hears port line port

/-- Whoever waits for one of some commands that failed is answered before or behind the others. -/
def Joins (due : List (Ticket κ × Response)) (failed : List (Ticket κ))
    (due' : List (Ticket κ × Response)) : Prop :=
  due' = due ++ failed.map (·, writeFailed) ∨ due' = failed.map (·, writeFailed) ++ due

inductive Move : Moment κ → Moment κ → Prop where
  | accept (s : Moment κ) (p : Pending (Ticket κ)) (next : p.number = (accepted s.log).length) :
    Move s (s.enqueue p)
  /-- The commands of `tried` fail and `taken` gets on the line. -/
  | advance (s : Moment κ) (port : SerialPort (Ticket κ)) (due : List (Ticket κ × Response))
    (tried : List (Attempt (Ticket κ))) (taken : Option (Pending (Ticket κ)))
    (free : s.port.current = none)
    (queue : s.port.queue = tried.map (·.pending) ++ taken.toList ++ port.queue)
    (faults : ∀ a ∈ tried, a.fault.isSome)
    (current : port.current = taken.map (⟨·, []⟩))
    (wire : port.wire = s.port.wire ++ (Attempt.row tried taken).flatMap Attempt.written)
    (dues : Joins s.due (tried.map (·.pending.waiting)) due) :
    Move s ⟨port, due, s.log ++ ((Attempt.row tried taken).map Attempt.numbered).map .attempted⟩
  | finish (s : Moment κ) (c : InFlight (Ticket κ)) (line : String)
    (busy : s.port.current = some c) (final : isFinal line = true) (free : s.due = []) :
    Move s ⟨{ s.port with current := none }, [(c.pending.waiting, ⟨line = "OK", line, c.lines⟩)],
      s.log ++ [.line line]⟩
  | hear (s : Moment κ) (line : String) (port : SerialPort (Ticket κ))
    (hears : Hears s.port line port) :
    Move s { s with port := port, log := s.log ++ [.line line] }
  | complete (s : Moment κ) (ticket : Ticket κ) (response : Response)
    (due : List (Ticket κ × Response)) (next : s.due = (ticket, response) :: due) :
    Move s { s with due := due, log := s.log ++ [.completed ticket.number response] }
  | cancelAll (s : Moment κ) : Move s s.cancelAll
  | close (s : Moment κ) : Move s s.close

theorem move_log {s t : Moment κ} (move : Move s t) : ∃ more, t.log = s.log ++ more := by
  cases move with
  | accept | advance | finish | hear | complete | cancelAll | close => exact ⟨_, rfl⟩

/-- Nothing waits while the line is free. -/
def Settled (s : Moment κ) : Prop := s.port.current = none → s.port.queue = []

theorem move_advance (s : Moment κ) (free : s.port.current = none) (due : List (Ticket κ × Response))
    (dues : Joins s.due (Attempt.failed s.port.advance.1) due) :
    Move s ⟨s.port.advance.2, due, s.log ++ attempts s.port⟩ ∧
      (s.port.advance.2.current = none → s.port.advance.2.queue = []) := by
  have hwire := wire_advance s.port
  unfold attempts
  rw [advance_free _ free] at hwire dues ⊢
  obtain ⟨tried, taken, rest, hattempts, hqueue, hfaults, hcurrent, hrest, hsettled⟩ :=
    drain_cases s.port free s.port.queue
  rw [hattempts] at hwire dues ⊢
  rw [Attempt.failed_row tried taken hfaults] at dues
  constructor
  · exact .advance s _ due tried taken free (hrest ▸ hqueue) hfaults hcurrent hwire dues
  · intro h
    rw [hrest]
    apply hsettled
    rw [hcurrent] at h
    exact Option.map_eq_none_iff.mp h

theorem send_moves (s : Moment κ) (settled : s.Settled) (command : String) (leads : List String)
    (waiting : κ) :
    Relation.ReflTransGen Move s (s.send command leads waiting) ∧
      (s.send command leads waiting).Settled := by
  unfold send
  dsimp only
  have haccept : Move s (s.enqueue (s.next command leads waiting)) := .accept s _ rfl
  generalize s.next command leads waiting = p at haccept ⊢
  by_cases hclosed : s.port.closed
  · rw [send_closed _ hclosed]
    exact ⟨.refl, settled⟩
  have hopen : s.port.closed = false := by simpa using hclosed
  cases hcurrent : s.port.current with
  | some c =>
    -- The command waits behind the one in flight.
    have hbusy : (s.port.enqueue p).advance = ([], s.port.enqueue p) := advance_busy _ hcurrent
    rw [send_held _ hopen p (by simp [hbusy, Attempt.failed])]
    have hlog : (s.enqueue p).log ++ attempts (s.enqueue p).port = (s.enqueue p).log := by
      simp [attempts, enqueue, hbusy]
    rw [hlog, hbusy]
    refine ⟨.single haccept, fun h => ?_⟩
    rw [SerialPort.enqueue, hcurrent] at h
    cases h
  | none =>
    have halone : (s.enqueue p).port.queue = [p] := by
      simp [enqueue, SerialPort.enqueue, settled hcurrent]
    have hadvance := move_advance (s.enqueue p) hcurrent
    rcases failed_advance_alone (s.enqueue p).port hcurrent halone with hfailed | hfailed
    · rw [send_held _ hopen p hfailed]
      have hmove := hadvance s.due (.inl (by rw [hfailed]; simp [enqueue]))
      exact ⟨.tail (.single haccept) hmove.1, hmove.2⟩
    · rw [send_answered _ hopen p hfailed]
      have hmove := hadvance ((p.waiting, writeFailed) :: s.due) (.inr (by rw [hfailed]; rfl))
      exact ⟨.tail (.single haccept) hmove.1, hmove.2⟩

theorem receive_moves (s : Moment κ) (settled : s.Settled) (free : s.due = []) (line : String) :
    Relation.ReflTransGen Move s (s.receive line) ∧ (s.receive line).Settled := by
  unfold receive SerialPort.receive
  cases hcurrent : s.port.current with
  | none =>
    have hpassed : Move s { s with log := s.log ++ [.line line] } :=
      .hear s line s.port (.passed (by simp [hcurrent]))
    exact ⟨.single hpassed, settled⟩
  | some c =>
    dsimp only
    by_cases hfinal : isFinal line
    · simp only [hfinal, if_true]
      have hfinish := Move.finish s c line hcurrent hfinal free
      have hadvance := move_advance (⟨{ s.port with current := none },
        [(c.pending.waiting, ⟨line = "OK", line, c.lines⟩)], s.log ++ [.line line]⟩ : Moment κ)
        rfl _ (.inl rfl)
      rw [List.append_assoc, List.singleton_append] at hadvance
      exact ⟨.tail (.single hfinish) hadvance.1, hadvance.2⟩
    · simp only [hfinal, if_false, Bool.false_eq_true]
      by_cases hwanted : Response.wanted c.pending.leads line
      · simp only [hwanted, if_true]
        have hkept := Move.hear s line _ (.kept c hcurrent (by simpa using hfinal) hwanted)
        exact ⟨.single hkept, fun h => by simp at h⟩
      · simp only [hwanted, if_false, Bool.false_eq_true]
        have hpassed : Move s { s with log := s.log ++ [.line line] } := by
          apply Move.hear s line s.port (.passed _)
          intro c' hc'
          rw [hcurrent] at hc'
          obtain rfl := Option.some.inj hc'
          exact ⟨by simpa using hfinal, by simpa using hwanted⟩
        exact ⟨.single hpassed, settled⟩

theorem step_moves {s t : Moment κ} (step : Step s t) (settled : s.Settled) :
    Relation.ReflTransGen Move s t ∧ t.Settled := by
  cases step with
  | send command leads waiting => exact send_moves s settled command leads waiting
  | receive line free => exact receive_moves s settled free line
  | complete =>
    unfold complete
    split
    · exact ⟨.refl, settled⟩
    · next ticket response due hdue => exact ⟨.single (.complete s ticket response due hdue), settled⟩
  | cancelAll => exact ⟨.single (.cancelAll s), fun _ => rfl⟩
  | close => exact ⟨.single (.close s), fun _ => rfl⟩

/-- What every move keeps holds in every later moment. -/
theorem run_keeps {P : Moment κ → Prop} (keeps : ∀ s t, Move s t → P s → P t) {s t : Moment κ}
    (run : Run s t) (settled : s.Settled) (h : P s) : t.Settled ∧ P t := by
  induction run with
  | refl => exact ⟨settled, h⟩
  | tail _ step ih =>
    obtain ⟨hmoves, hsettled⟩ := step_moves step ih.1
    refine ⟨hsettled, ?_⟩
    clear hsettled step
    induction hmoves with
    | refl => exact ih.2
    | tail _ move ih' => exact keeps _ _ move ih'

end CellModem.SerialPort.Moment
