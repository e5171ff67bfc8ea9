import Mathlib.Data.List.Nodup
import CellModem.Proofs.SerialLine.Move

/-!
# What a serial line keeps

Whatever clients do, also when they drop commands: commands are attempted in the order they were
accepted, the wire holds what was attempted, and whoever is answered gets the first final line since
the command was written, or the failure of the attempt.
-/

namespace CellModem.SerialPort

/-! ## Fitting answers -/

/-- What an attempted command may be answered with. -/
def Fits (log : List Occurrence) (a : Attempt Nat) (r : Response) : Prop :=
  match a.fault with
  | none => firstAnswer a.pending.leads (since a.pending.waiting log) = some r
  | some _ => r = writeFailed

theorem Fits.append {log : List Occurrence} {a : Attempt Nat} {r : Response} (h : Fits log a r)
    (ha : a ∈ attempted log) (more : List Occurrence) : Fits (log ++ more) a r := by
  unfold Fits at h ⊢
  split at h
  · next hfault =>
    rw [since_append (mem_written.mpr ⟨a, ha, hfault, rfl⟩)]
    exact firstAnswer_append h _
  · exact h

theorem firstAnswer_final {leads lines : List String} {line : String}
    (hlines : ∀ l ∈ lines, isFinal l = false) (hline : isFinal line = true) :
    firstAnswer leads (lines ++ [line]) =
      some ⟨line = "OK", line, lines.filter (Response.wanted leads)⟩ := by
  unfold firstAnswer
  have hall : ∀ l ∈ lines, (!isFinal l) = true := fun l hl => by rw [hlines l hl]; rfl
  rw [List.dropWhile_append_of_pos hall, List.takeWhile_append_of_pos hall]
  simp [hline]

namespace Moment

variable {κ : Type}

/-- The answers that were handed over, and those that are about to be. -/
def answers (s : Moment κ) : List (Nat × Response) :=
  completed s.log ++ s.due.map fun (ticket, response) => (ticket.number, response)

/-! ## The command in flight -/

/-- The command is on the line, no final line has come since, and it holds the lines it asked for. -/
def Listening (log : List Occurrence) (c : InFlight (Ticket κ)) : Prop :=
  (⟨c.pending.numbered, none⟩ : Attempt Nat) ∈ attempted log ∧
  (∀ line ∈ since c.pending.number log, isFinal line = false) ∧
  c.lines = (since c.pending.number log).filter (Response.wanted c.pending.leads)

theorem Listening.written {log : List Occurrence} {c : InFlight (Ticket κ)} (h : Listening log c) :
    c.pending.number ∈ written log :=
  mem_written.mpr ⟨_, h.1, rfl, rfl⟩

theorem Listening.quiet {log : List Occurrence} {c : InFlight (Ticket κ)} (h : Listening log c)
    (more : List Occurrence) (quiet : received more = []) : Listening (log ++ more) c := by
  have hsince := since_append h.written more
  rw [quiet, List.append_nil] at hsince
  obtain ⟨ha, hopen, hlines⟩ := h
  refine ⟨?_, ?_, ?_⟩
  · rw [attempted_append]
    exact List.mem_append_left _ ha
  · rwa [hsince]
  · rwa [hsince]

theorem Listening.hear {log : List Occurrence} {c : InFlight (Ticket κ)} (h : Listening log c)
    {line : String} (hline : isFinal line = false) :
    Listening (log ++ [.line line])
      { c with lines := c.lines ++ [line].filter (Response.wanted c.pending.leads) } := by
  have hsince := since_append h.written [.line line]
  obtain ⟨ha, hopen, hlines⟩ := h
  refine ⟨by simpa using ha, ?_, ?_⟩
  · rw [hsince]
    intro l hl
    rcases List.mem_append.mp hl with hl | hl
    · exact hopen l hl
    · simp only [received_singleton, List.mem_singleton] at hl
      rw [hl, hline]
  · rw [hsince, List.filter_append, ← hlines, received_singleton]

theorem Listening.finish {log : List Occurrence} {c : InFlight (Ticket κ)} (h : Listening log c)
    {line : String} (hline : isFinal line = true) :
    Fits (log ++ [.line line]) ⟨c.pending.numbered, none⟩ ⟨line = "OK", line, c.lines⟩ := by
  have hsince := since_append h.written [.line line]
  obtain ⟨ha, hopen, hlines⟩ := h
  change firstAnswer c.pending.leads (since c.pending.number _) = _
  rw [hsince, received_singleton, firstAnswer_final hopen hline, hlines]

/-! ## The invariant -/

structure Kept (s : Moment κ) : Prop where
  numbered : (accepted s.log).map (·.waiting) = List.range (accepted s.log).length
  ordered : ((attempted s.log).map (·.pending) ++ s.queued).Sublist (accepted s.log)
  wired : s.port.wire = (attempted s.log).flatMap Attempt.written
  flying : ∀ c, s.port.current = some c → Listening s.log c
  answered : ∀ n r, (n, r) ∈ s.answers →
    ∃ a ∈ attempted s.log, a.pending.waiting = n ∧ Fits s.log a r

theorem kept_opened (faults : List (Option WriteFault)) : (opened faults : Moment κ).Kept where
  numbered := rfl
  ordered := .slnil
  wired := rfl
  flying := by rintro c ⟨⟩
  answered := by rintro n r ⟨⟩

/-- No two commands have the same number, wherever they are. -/
theorem Kept.nodup {s : Moment κ} (h : s.Kept) :
    ((attempted s.log).map (·.pending.waiting) ++ s.queued.map (·.waiting)).Nodup := by
  have hsub := h.ordered.map (·.waiting)
  rw [h.numbered, List.map_append, List.map_map] at hsub
  exact hsub.nodup List.nodup_range

theorem Kept.attempt_unique {s : Moment κ} (h : s.Kept) {a b : Attempt Nat}
    (ha : a ∈ attempted s.log) (hb : b ∈ attempted s.log)
    (heq : a.pending.waiting = b.pending.waiting) : a = b :=
  List.inj_on_of_nodup_map (List.nodup_append.mp h.nodup).1 ha hb heq

theorem Kept.answered_append {s : Moment κ} (h : s.Kept) (more : List Occurrence) {n : Nat}
    {r : Response} (hr : (n, r) ∈ s.answers) :
    ∃ a ∈ attempted (s.log ++ more), a.pending.waiting = n ∧ Fits (s.log ++ more) a r := by
  obtain ⟨a, ha, hn, hfits⟩ := h.answered n r hr
  refine ⟨a, ?_, hn, hfits.append ha more⟩
  rw [attempted_append]
  exact List.mem_append_left _ ha

/-! ## Each move keeps it -/

theorem Kept.accept {s : Moment κ} (h : s.Kept) (p : Pending (Ticket κ))
    (next : p.number = (accepted s.log).length) : (s.enqueue p).Kept where
  numbered := by
    simp only [Moment.enqueue, accepted_append, accepted_singleton, List.map_append, h.numbered,
      List.map_cons, List.map_nil, List.length_append, List.length_singleton, List.range_succ]
    rw [Pending.numbered_waiting, next]
  ordered := by
    have hqueued : (s.enqueue p).queued = s.queued ++ [p.numbered] := by
      simp [Moment.queued, Moment.enqueue, SerialPort.enqueue]
    rw [hqueued]
    simpa [Moment.enqueue] using h.ordered.append (List.Sublist.refl [p.numbered])
  wired := by simpa [Moment.enqueue, SerialPort.enqueue] using h.wired
  flying := fun c hc => (h.flying c hc).quiet _ (by simp)
  answered := by
    intro n r hr
    exact h.answered_append _ (by simpa [answers, Moment.enqueue] using hr)

theorem Kept.hear {s : Moment κ} (h : s.Kept) {line : String} {port : SerialPort (Ticket κ)}
    (hears : Hears s.port line port) :
    Kept { s with port := port, log := s.log ++ [.line line] } where
  numbered := by simpa using h.numbered
  ordered := by cases hears <;> simpa [queued] using h.ordered
  wired := by cases hears <;> simpa using h.wired
  flying := by
    intro c hc
    cases hears with
    | kept c' busy hline hwanted =>
      obtain rfl := Option.some.inj hc
      simpa [hwanted] using (h.flying c' busy).hear hline
    | passed unwanted =>
      obtain ⟨hline, hunwanted⟩ := unwanted c hc
      simpa [hunwanted] using (h.flying c hc).hear hline
  answered := by
    intro n r hr
    exact h.answered_append _ (by simpa [answers] using hr)

theorem Kept.finish {s : Moment κ} (h : s.Kept) {c : InFlight (Ticket κ)} {line : String}
    (busy : s.port.current = some c) (final : isFinal line = true) (free : s.due = []) :
    Kept ⟨{ s.port with current := none }, [(c.pending.waiting, ⟨line = "OK", line, c.lines⟩)],
      s.log ++ [.line line]⟩ where
  numbered := by simpa using h.numbered
  ordered := by simpa [queued] using h.ordered
  wired := by simpa using h.wired
  flying := by rintro c ⟨⟩
  answered := by
    intro n r hr
    rcases List.mem_append.mp hr with hr | hr
    · exact h.answered_append _ (by simpa [answers, free] using hr)
    · obtain ⟨rfl, rfl⟩ := Prod.mk.inj (List.mem_singleton.mp hr)
      have hflying := h.flying c busy
      exact ⟨_, by simpa using hflying.1, rfl, hflying.finish final⟩

theorem Kept.complete {s : Moment κ} (h : s.Kept) {ticket : Ticket κ} {response : Response}
    {due : List (Ticket κ × Response)} (next : s.due = (ticket, response) :: due) :
    Kept { s with due := due, log := s.log ++ [.completed ticket.number response] } where
  numbered := by simpa using h.numbered
  ordered := by simpa [queued] using h.ordered
  wired := by simpa using h.wired
  flying := fun c hc => (h.flying c hc).quiet _ (by simp)
  answered := by
    intro n r hr
    exact h.answered_append _ (by simpa [answers, next] using hr)

theorem attempts_ordered {s : Moment κ} {port : SerialPort (Ticket κ)}
    {tried : List (Attempt (Ticket κ))} {taken : Option (Pending (Ticket κ))}
    (queue : s.port.queue = tried.map (·.pending) ++ taken.toList ++ port.queue) :
    ((Attempt.row tried taken).map Attempt.numbered).map (·.pending)
      ++ port.queue.map Pending.numbered = s.queued := by
  have hrow : ((Attempt.row tried taken).map Attempt.numbered).map (·.pending)
      = (tried.map (·.pending) ++ taken.toList).map Pending.numbered := by
    cases taken <;> simp [Attempt.row, Attempt.numbered, Function.comp_def]
  rw [hrow, ← List.map_append, queued, queue]

theorem Joins.mem {due due' : List (Ticket κ × Response)} {failed : List (Ticket κ)}
    (h : Joins due failed due') {ticket : Ticket κ} {r : Response} (hr : (ticket, r) ∈ due') :
    (ticket, r) ∈ due ∨ ticket ∈ failed ∧ r = writeFailed := by
  have hmem : (ticket, r) ∈ due ∨ (ticket, r) ∈ failed.map (·, writeFailed) := by
    rcases h with rfl | rfl
    · exact List.mem_append.mp hr
    · exact (List.mem_append.mp hr).symm
  rcases hmem with hmem | hmem
  · exact .inl hmem
  · obtain ⟨_, hticket, hpair⟩ := List.mem_map.mp hmem
    obtain ⟨rfl, rfl⟩ := Prod.mk.inj hpair
    exact .inr ⟨hticket, rfl⟩

/-- What has been attempted is not attempted again, neither is what fails before another command
is taken. -/
theorem Kept.fresh {s : Moment κ} (h : s.Kept) {tried : List (Attempt (Ticket κ))}
    {taken : Option (Pending (Ticket κ))} {rest : List (Pending (Ticket κ))}
    (queue : s.port.queue = tried.map (·.pending) ++ taken.toList ++ rest) :
    ((attempted s.log).map (·.pending.waiting) ++ tried.map (·.pending.number)
      ++ taken.toList.map (·.number)).Nodup := by
  have hnodup := h.nodup
  rw [queued, queue] at hnodup
  refine hnodup.sublist ?_
  simp only [List.map_append, List.map_map, ← List.append_assoc]
  exact List.sublist_append_left _ _

theorem Kept.advance {s : Moment κ} (h : s.Kept) {port : SerialPort (Ticket κ)}
    {due : List (Ticket κ × Response)} {tried : List (Attempt (Ticket κ))}
    {taken : Option (Pending (Ticket κ))}
    (queue : s.port.queue = tried.map (·.pending) ++ taken.toList ++ port.queue)
    (faults : ∀ a ∈ tried, a.fault.isSome) (current : port.current = taken.map (⟨·, []⟩))
    (wire : port.wire = s.port.wire ++ (Attempt.row tried taken).flatMap Attempt.written)
    (dues : Joins s.due (tried.map (·.pending.waiting)) due) :
    Kept ⟨port, due, s.log ++ ((Attempt.row tried taken).map Attempt.numbered).map .attempted⟩ where
  numbered := by
    simpa only [accepted_append, accepted_attempts, List.append_nil] using h.numbered
  ordered := by
    have hordered := h.ordered
    rw [← attempts_ordered queue] at hordered
    simpa only [queued, attempted_append, attempted_attempts, accepted_append, accepted_attempts,
      List.map_append, List.append_assoc, List.append_nil] using hordered
  wired := by
    have hwritten : ∀ a : Attempt (Ticket κ), a.numbered.written = a.written := fun _ => rfl
    rw [wire, h.wired, attempted_append, attempted_attempts, List.flatMap_append,
      List.flatMap_map]
    simp only [hwritten]
  flying := by
    intro c hc
    rw [current] at hc
    obtain ⟨p, rfl, rfl⟩ := Option.map_eq_some_iff.mp hc
    -- The command was not on the line before: its number is still in the queue.
    have hfresh : p.number ∉
        written (s.log ++ (tried.map Attempt.numbered).map .attempted) := by
      intro hmem
      obtain ⟨a, ha, -, hn⟩ := mem_written.mp hmem
      have hnot := (List.nodup_append.mp (h.fresh queue)).2.2
      refine hnot p.number ?_ p.number (by simp) rfl
      rw [attempted_append, attempted_attempts, List.mem_append] at ha
      rw [← hn, List.mem_append]
      rcases ha with ha | ha
      · exact .inl (List.mem_map_of_mem ha)
      · obtain ⟨b, hb, rfl⟩ := List.mem_map.mp ha
        exact .inr (List.mem_map.mpr ⟨b, hb, rfl⟩)
    have hlog : s.log ++ ((Attempt.row tried (some p)).map Attempt.numbered).map .attempted
        = s.log ++ (tried.map Attempt.numbered).map .attempted
          ++ [.attempted ⟨p.numbered, none⟩] := by
      simp [Attempt.row, Attempt.numbered]
    rw [hlog]
    have hsince := since_attempted hfresh ⟨p.numbered, none⟩
    refine ⟨by simp, ?_, ?_⟩
    · rw [hsince]
      simp
    · rw [hsince]
      rfl
  answered := by
    intro n r hr
    have hcases : (n, r) ∈ s.answers ∨ ∃ a ∈ tried, a.pending.number = n ∧ r = writeFailed := by
      unfold answers at hr ⊢
      rw [completed_append, completed_attempts, List.append_nil] at hr
      rcases List.mem_append.mp hr with hr | hr
      · exact .inl (List.mem_append_left _ hr)
      · obtain ⟨⟨ticket, r⟩, hmem, hpair⟩ := List.mem_map.mp hr
        obtain ⟨rfl, rfl⟩ := Prod.mk.inj hpair
        rcases dues.mem hmem with hdue | ⟨hfailed, rfl⟩
        · exact .inl (List.mem_append_right _ (List.mem_map.mpr ⟨_, hdue, rfl⟩))
        · obtain ⟨a, ha, rfl⟩ := List.mem_map.mp hfailed
          exact .inr ⟨a, ha, rfl, rfl⟩
    rcases hcases with hr | ⟨a, ha, rfl, rfl⟩
    · exact h.answered_append _ hr
    · refine ⟨a.numbered, ?_, rfl, ?_⟩
      · simp only [attempted_append, attempted_attempts, Attempt.row, List.map_append,
          List.mem_append]
        exact .inr (.inl (List.mem_map_of_mem ha))
      · obtain ⟨fault, hfault⟩ := Option.isSome_iff_exists.mp (faults a ha)
        simp [Fits, Attempt.numbered, hfault]

/-- Dropping what is queued and in flight, `mark` in the log. -/
theorem Kept.drop {s : Moment κ} (h : s.Kept) (port : SerialPort (Ticket κ)) (mark : Occurrence)
    (queue : port.queue = []) (current : port.current = none) (wire : port.wire = s.port.wire)
    (hmark : mark = .cancelled ∨ mark = .closed) : Kept ⟨port, s.due, s.log ++ [mark]⟩ where
  numbered := by rcases hmark with rfl | rfl <;> simpa using h.numbered
  ordered := by
    have hsub := (List.sublist_append_left _ _).trans h.ordered
    rcases hmark with rfl | rfl <;> simpa [queued, queue] using hsub
  wired := by
    rw [wire, h.wired]
    rcases hmark with rfl | rfl <;> simp
  flying := fun c hc => by rw [current] at hc; cases hc
  answered := by
    intro n r hr
    refine h.answered_append _ ?_
    rcases hmark with rfl | rfl <;> simpa [answers] using hr

theorem kept_move {s t : Moment κ} (move : Move s t) (h : s.Kept) : t.Kept := by
  cases move with
  | accept p next => exact h.accept p next
  | advance port due tried taken _ queue faults current wire dues =>
    exact h.advance queue faults current wire dues
  | finish c line busy final free => exact h.finish busy final free
  | hear line port hears => exact h.hear hears
  | complete ticket response due next => exact h.complete next
  | cancelAll => exact h.drop _ _ rfl rfl rfl (.inl rfl)
  | close => exact h.drop _ _ rfl rfl rfl (.inr rfl)

theorem kept_run {faults : List (Option WriteFault)} {s : Moment κ} (run : Run (opened faults) s) :
    s.Settled ∧ s.Kept :=
  run_keeps (fun _ _ => kept_move) run (fun _ => rfl) (kept_opened faults)

end Moment

end CellModem.SerialPort
