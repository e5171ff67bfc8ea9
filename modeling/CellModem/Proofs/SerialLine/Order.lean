import CellModem.Proofs.SerialLine.Kept

/-!
# Order and conservation on a serial line

As long as nothing is dropped, every accepted command is in one place, and the commands that get on
the line are answered one after the other.
-/

namespace CellModem.SerialPort.Moment

variable {κ : Type}

structure InTurn (s : Moment κ) : Prop where
  /-- What is queued is what was accepted behind what was attempted. -/
  pending : (attempted s.log).map (·.pending) ++ s.queued = accepted s.log
  /-- What was attempted is answered, or in flight. -/
  placed : (s.answers.map (·.1) ++ s.inFlight).Perm ((attempted s.log).map (·.pending.waiting))
  /-- What got on the line is answered in the order it did. -/
  served : (s.answers.map (·.1)).filter (· ∈ written s.log) ++ s.inFlight = written s.log

theorem inTurn_opened (faults : List (Option WriteFault)) : (opened faults : Moment κ).InTurn where
  pending := rfl
  placed := .nil
  served := rfl

theorem answers_numbers (s : Moment κ) :
    s.answers.map (·.1) = (completed s.log).map (·.1) ++ s.owing := by
  simp [answers, owing, Function.comp_def]

/-! ## Getting on with the queue -/

section

variable {s : Moment κ} {port : SerialPort (Ticket κ)} {due : List (Ticket κ × Response)}
  {tried : List (Attempt (Ticket κ))} {taken : Option (Pending (Ticket κ))}

theorem written_row (log : List Occurrence) (faults : ∀ a ∈ tried, a.fault.isSome) :
    written (log ++ ((Attempt.row tried taken).map Attempt.numbered).map .attempted)
      = written log ++ taken.toList.map (·.number) := by
  have htried : tried.filter (·.fault.isNone) = [] := by
    rw [List.filter_eq_nil_iff]
    intro a ha
    simpa using Option.isSome_iff_ne_none.mp (faults a ha)
  rw [written_append]
  congr 1
  unfold written Attempt.row
  rw [attempted_attempts, List.map_append, List.filter_append, List.filter_map]
  have hnumbered : (fun a : Attempt Nat => a.fault.isNone) ∘ Attempt.numbered (κ := κ)
      = fun a => a.fault.isNone := rfl
  rw [hnumbered, htried]
  cases taken <;> rfl

theorem written_attempted {log : List Occurrence} {n : Nat} (h : n ∈ written log) :
    n ∈ (attempted log).map (·.pending.waiting) := by
  obtain ⟨a, ha, -, rfl⟩ := mem_written.mp h
  exact List.mem_map_of_mem ha

theorem answers_joined (t : Moment κ) (dues : Joins s.due (tried.map (·.pending.waiting)) t.due)
    (log : completed t.log = completed s.log) :
    ∃ before after, s.answers.map (·.1) = before ++ after ∧
      t.answers.map (·.1) = before ++ tried.map (·.pending.number) ++ after := by
  have htried : ((tried.map (·.pending.waiting)).map (·, writeFailed)).map (·.1.number)
      = tried.map (·.pending.number) := by
    simp [Function.comp_def, Pending.number]
  rw [answers_numbers, answers_numbers, log]
  unfold owing
  rcases dues with h | h
  · refine ⟨_, [], (List.append_nil _).symm, ?_⟩
    rw [h, List.map_append, htried, List.append_nil, List.append_assoc]
  · refine ⟨_, _, rfl, ?_⟩
    rw [h, List.map_append, htried, List.append_assoc]

/-- Of the numbers that are answered when the queue is got on with, those on the line are the same
as before. -/
theorem filter_taken {old written before tried after taken : List Nat}
    (nodup : (old ++ tried ++ taken).Nodup) (hwritten : ∀ n ∈ written, n ∈ old)
    (hold : ∀ n ∈ before ++ after, n ∈ old) :
    (before ++ tried ++ after).filter (· ∈ written ++ taken)
      = (before ++ after).filter (· ∈ written) := by
  obtain ⟨hnodup, -, htaken⟩ := List.nodup_append.mp nodup
  have htried := (List.nodup_append.mp hnodup).2.2
  have hnotried : tried.filter (· ∈ written ++ taken) = [] := by
    rw [List.filter_eq_nil_iff]
    intro n hn hmem
    rcases List.mem_append.mp (of_decide_eq_true hmem) with hmem | hmem
    · exact htried n (hwritten n hmem) n hn rfl
    · exact htaken n (List.mem_append_right _ hn) n hmem rfl
  have hsame : (before ++ after).filter (· ∈ written ++ taken)
      = (before ++ after).filter (· ∈ written) := by
    refine List.filter_congr fun n hn => ?_
    have hnew : n ∉ taken := fun hmem =>
      htaken n (List.mem_append_left _ (hold n hn)) n hmem rfl
    simp [hnew]
  rw [List.filter_append, List.filter_append, hnotried, List.append_nil, ← List.filter_append, hsame]

theorem InTurn.advance (h : s.InTurn) (kept : s.Kept) (free : s.port.current = none)
    (queue : s.port.queue = tried.map (·.pending) ++ taken.toList ++ port.queue)
    (faults : ∀ a ∈ tried, a.fault.isSome) (current : port.current = taken.map (⟨·, []⟩))
    (dues : Joins s.due (tried.map (·.pending.waiting)) due) :
    InTurn ⟨port, due, s.log ++ ((Attempt.row tried taken).map Attempt.numbered).map .attempted⟩ := by
  have hplaced := h.placed
  have hserved := h.served
  have hnone : s.inFlight = [] := by simp [inFlight, free]
  have hsome : port.current.toList.map (·.pending.number) = taken.toList.map (·.number) := by
    rw [current]
    cases taken <;> rfl
  obtain ⟨before, after, hbefore, hafter⟩ := answers_joined
    ⟨port, due, s.log ++ ((Attempt.row tried taken).map Attempt.numbered).map .attempted⟩ dues
    (by rw [completed_append, completed_attempts, List.append_nil])
  rw [hnone, List.append_nil, hbefore] at hplaced hserved
  refine ⟨?_, ?_, ?_⟩
  · have hpending := h.pending
    rw [← attempts_ordered queue] at hpending
    simpa only [queued, attempted_append, attempted_attempts, accepted_append, accepted_attempts,
      List.map_append, List.append_assoc, List.append_nil] using hpending
  · have hattempted : (attempted
        (s.log ++ ((Attempt.row tried taken).map Attempt.numbered).map .attempted)).map
          (·.pending.waiting) = (attempted s.log).map (·.pending.waiting)
            ++ tried.map (·.pending.number) ++ taken.toList.map (·.number) := by
      rw [attempted_append, attempted_attempts]
      cases taken <;> simp [Attempt.row, Attempt.numbered, Function.comp_def]
    unfold inFlight
    rw [hafter, hsome, hattempted, List.append_assoc before]
    refine List.Perm.append_right _ ((List.perm_append_comm.append_left before).trans ?_)
    rw [← List.append_assoc]
    exact hplaced.append_right _
  · unfold inFlight
    rw [hafter, hsome, written_row _ faults,
      filter_taken (kept.fresh queue) (fun n => written_attempted) fun n => hplaced.mem_iff.mp,
      hserved]

end

/-! ## Every move keeps the order -/

theorem written_quiet {log : List Occurrence} {o : Occurrence} (quiet : attempted [o] = []) :
    written (log ++ [o]) = written log := by
  rw [written_append]
  unfold written
  rw [quiet]
  exact List.append_nil _

theorem InTurn.accept {s : Moment κ} (h : s.InTurn) (p : Pending (Ticket κ)) :
    (s.enqueue p).InTurn := by
  have hanswers : (s.enqueue p).answers = s.answers := by simp [answers, Moment.enqueue]
  have hwritten : written (s.enqueue p).log = written s.log := written_quiet rfl
  refine ⟨?_, ?_, ?_⟩
  · have hpending := h.pending
    simp only [queued] at hpending
    simp [queued, Moment.enqueue, SerialPort.enqueue, ← hpending]
  · rw [hanswers]
    simpa [inFlight, Moment.enqueue, SerialPort.enqueue] using h.placed
  · rw [hanswers, hwritten]
    exact h.served

/-- An occurrence that moves no command. -/
theorem InTurn.stay {s : Moment κ} (h : s.InTurn) {t : Moment κ} {o : Occurrence}
    (log : t.log = s.log ++ [o]) (unaccepted : accepted [o] = []) (quiet : attempted [o] = [])
    (queue : t.queued = s.queued) (current : t.inFlight = s.inFlight)
    (answers : t.answers = s.answers) : t.InTurn := by
  have hattempted : attempted t.log = attempted s.log := by
    rw [log, attempted_append, quiet, List.append_nil]
  refine ⟨?_, ?_, ?_⟩
  · rw [hattempted, queue, log, accepted_append, unaccepted, List.append_nil]
    exact h.pending
  · rw [hattempted, current, answers]
    exact h.placed
  · rw [current, answers, log, written_quiet quiet]
    exact h.served

theorem InTurn.hear {s : Moment κ} (h : s.InTurn) {line : String} {port : SerialPort (Ticket κ)}
    (hears : Hears s.port line port) :
    InTurn { s with port := port, log := s.log ++ [.line line] } := by
  refine h.stay rfl rfl rfl ?_ ?_ (by simp [answers])
  · cases hears <;> rfl
  · cases hears with
    | kept c busy _ _ => simp [inFlight, busy]
    | passed => rfl

theorem InTurn.complete {s : Moment κ} (h : s.InTurn) {ticket : Ticket κ} {response : Response}
    {due : List (Ticket κ × Response)} (next : s.due = (ticket, response) :: due) :
    InTurn { s with due := due, log := s.log ++ [.completed ticket.number response] } :=
  h.stay rfl rfl rfl rfl rfl (by simp [answers, next])

theorem InTurn.finish {s : Moment κ} (h : s.InTurn) (kept : s.Kept) {c : InFlight (Ticket κ)}
    {line : String} (busy : s.port.current = some c) (free : s.due = []) :
    InTurn ⟨{ s.port with current := none }, [(c.pending.waiting, ⟨line = "OK", line, c.lines⟩)],
      s.log ++ [.line line]⟩ := by
  have hflight : s.inFlight = [c.pending.number] := by simp [inFlight, busy]
  have hanswers : (answers ⟨{ s.port with current := none },
      [(c.pending.waiting, ⟨line = "OK", line, c.lines⟩)], s.log ++ [.line line]⟩).map (·.1)
        = s.answers.map (·.1) ++ [c.pending.number] := by
    simp [answers, free, Pending.number]
  have hplaced := h.placed
  have hserved := h.served
  rw [hflight] at hplaced hserved
  refine ⟨?_, ?_, ?_⟩
  · simpa [queued] using h.pending
  · rw [hanswers]
    simpa [inFlight] using hplaced
  · have hwritten : [c.pending.number].filter (· ∈ written s.log) = [c.pending.number] := by
      simp [(kept.flying c busy).written]
    rw [hanswers, written_quiet rfl, List.filter_append, hwritten, hserved]
    exact List.append_nil _

theorem inTurn_move {s t : Moment κ} (move : Move s t) (kept : s.Kept) (h : s.InTurn)
    (undropped : Undropped t.log) : t.InTurn := by
  cases move with
  | accept p next => exact h.accept p
  | advance port due tried taken free queue faults current wire dues =>
    exact h.advance kept free queue faults current dues
  | finish c line busy final free => exact h.finish kept busy free
  | hear line port hears => exact h.hear hears
  | complete ticket response due next => exact h.complete next
  | cancelAll => exact absurd (List.mem_append_right _ (List.mem_singleton_self _)) undropped.1
  | close => exact absurd (List.mem_append_right _ (List.mem_singleton_self _)) undropped.2

theorem inTurn_run {faults : List (Option WriteFault)} {s : Moment κ} (run : Run (opened faults) s)
    (undropped : Undropped s.log) : s.InTurn := by
  have hkeeps : ∀ s t : Moment κ, Move s t → s.Kept ∧ (Undropped s.log → s.InTurn) →
      t.Kept ∧ (Undropped t.log → t.InTurn) := by
    rintro s t move ⟨hkept, hturn⟩
    refine ⟨kept_move move hkept, fun hundropped => ?_⟩
    obtain ⟨more, hlog⟩ := move_log move
    have hbefore := hundropped
    rw [hlog, undropped_append] at hbefore
    exact inTurn_move move hkept (hturn hbefore.1) hundropped
  have hopened : (opened faults : Moment κ).Settled := fun _ => rfl
  exact (run_keeps hkeeps run hopened ⟨kept_opened faults, fun _ => inTurn_opened faults⟩).2.2
    undropped

/-! ## The line as a whole -/

structure Orderly (s : Moment κ) : Prop where
  /-- Commands are attempted in the order they were accepted; behind them is the queue. -/
  attempts : (attempted s.log).map (·.pending) ++ s.queued = accepted s.log
  numbers : (accepted s.log).map (·.waiting) = List.range (accepted s.log).length
  wire : s.port.wire = (attempted s.log).flatMap Attempt.written
  /-- Every accepted command is in one place, and there once. -/
  places : (s.queued.map (·.waiting) ++ s.inFlight ++ s.owing ++ (completed s.log).map (·.1)).Perm
    (List.range (accepted s.log).length)
  /-- The commands that got on the line are completed in that order. -/
  completions : ((completed s.log).map (·.1) ++ s.owing).filter (· ∈ written s.log) ++ s.inFlight
    = written s.log
  /-- Each gets the first final line since it was put on the line, or the failure of that. -/
  answers : ∀ n r, (n, r) ∈ completed s.log →
    ∃ a ∈ attempted s.log, a.pending.waiting = n ∧ Fits s.log a r
  /-- Nothing waits while the line is free. -/
  settled : s.port.current = none → s.port.queue = []

/-- The second command of three cannot be pushed out, and its failure is about to be told while the
client of the first one sends the third. -/
def crowded : Moment Unit :=
  (((((opened [none, some .flush]).send "AT+COPS?" ["+COPS:"] ()).send "ATI" [] ()).receive
    "+COPS: 0").receive "OK").complete.send "AT+CSQ" ["+CSQ:"] ()

end CellModem.SerialPort.Moment
