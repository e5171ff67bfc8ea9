import CellModem.Proofs.Conduct.Impartial
import CellModem.Proofs.SerialLine.Delivery
import CellModem.Proofs.Unsolicited.Routing
import Mathlib.Logic.ExistsUnique

/-!
# What becomes of a line

A line ends the command in flight, is kept for it, or is handed round. The port takes its handlers out
while a line is handed round and puts them back afterwards; this cannot be told from leaving them where
they are, whatever the handlers do. So a line is given to those who take it of the handlers there were
when it came, to each once and in order, and the table is at any time what has been booked: everyone
who was entered since all were dropped last.
-/

namespace CellModem

variable {κ σ : Type}

/-! ## A port whose handlers are out -/

namespace SerialPort

theorem restored_eq (before port : SerialPort κ) :
    before.restored port = { port with
      handlers := (if port.generation = before.generation then before.handlers else [])
        ++ port.handlers } := by
  unfold restored
  split <;> rfl

theorem generation_drain (port : SerialPort κ) (queue : List (Pending κ)) :
    (port.drain queue).2.generation = port.generation := by
  induction queue generalizing port with
  | nil => rfl
  | cons next queue ih =>
    rw [drain]
    dsimp only
    split
    · rfl
    · exact ih _

theorem generation_advance (port : SerialPort κ) : port.advance.2.generation = port.generation := by
  unfold advance
  split
  · rfl
  · exact port.generation_drain port.queue

/-- Commands get on the line whatever the table is. -/
theorem drain_handlers (port : SerialPort κ) (handlers : List (Handler κ))
    (queue : List (Pending κ)) : { port with handlers := handlers }.drain queue
      = ((port.drain queue).1, { (port.drain queue).2 with handlers := handlers }) := by
  induction queue generalizing port with
  | nil => rfl
  | cons next queue ih =>
    rw [drain, drain]
    dsimp only
    split
    · rfl
    · rw [ih { port with
        faults := port.faults.tail
        wire := port.wire ++ Attempt.written ⟨next, port.faults.head?.join⟩ }]

theorem advance_handlers (port : SerialPort κ) (handlers : List (Handler κ)) :
    { port with handlers := handlers }.advance
      = (port.advance.1, { port.advance.2 with handlers := handlers }) := by
  unfold advance
  dsimp only
  split
  · rfl
  · exact port.drain_handlers handlers port.queue

/-- What sending leaves alone. -/
theorem send_keeps (port : SerialPort κ) (command : String) (leads : List String) (waiting : κ) :
    (port.send command leads waiting).channel.handlers = port.handlers ∧
      (port.send command leads waiting).channel.generation = port.generation := by
  have hhandlers := (port.enqueue ⟨command, leads, waiting⟩).handlers_advance
  have hgeneration := (port.enqueue ⟨command, leads, waiting⟩).generation_advance
  unfold send
  split
  · exact ⟨rfl, rfl⟩
  · dsimp only
    split
    · exact ⟨hhandlers, hgeneration⟩
    · exact ⟨hhandlers, hgeneration⟩

theorem register_keeps {port : SerialPort κ} {lead : String} {handler : κ}
    {taken : Nat × SerialPort κ} (h : port.register lead handler = some taken) :
    taken.2.handlers = port.handlers ++ [⟨lead, handler⟩] ∧
      taken.2.generation = port.generation := by
  unfold register at h
  split at h
  · cases h
  · obtain rfl := Option.some.inj h
    exact ⟨rfl, rfl⟩

theorem advance_restored (before port : SerialPort κ) :
    (before.restored port).advance = (port.advance.1, before.restored port.advance.2) := by
  rw [restored_eq, advance_handlers, restored_eq, handlers_advance]
  dsimp only
  rw [generation_advance]

theorem send_restored (before port : SerialPort κ) (command : String) (leads : List String)
    (waiting : κ) : (before.restored port).send command leads waiting
      = (port.send command leads waiting).map before.restored := by
  have hclosed : (before.restored port).closed = port.closed := by rw [restored_eq]
  have henqueue (p : Pending κ) :
      (before.restored port).enqueue p = before.restored (port.enqueue p) := by
    rw [restored_eq, restored_eq]
    rfl
  unfold send
  rw [hclosed, henqueue, advance_restored]
  split
  · rfl
  · dsimp only
    split <;> rfl

theorem register_restored (before port : SerialPort κ) (lead : String) (handler : κ) :
    (before.restored port).register lead handler
      = (port.register lead handler).map fun (id, port) => (id, before.restored port) := by
  simp only [restored_eq]
  unfold register
  dsimp only
  split
  · rfl
  · simp

/-- Those who are out are not put back once all have been dropped. -/
theorem unregisterAll_restored (before port : SerialPort κ)
    (since : before.generation ≤ port.generation) :
    (before.restored port).unregisterAll = before.restored port.unregisterAll := by
  have hdropped : port.generation + 1 ≠ before.generation := Nat.ne_of_gt (Nat.lt_succ_of_le since)
  rw [restored_eq, restored_eq]
  unfold unregisterAll
  dsimp only
  rw [if_neg hdropped]
  rfl

theorem cancelAll_restored (before port : SerialPort κ) :
    (before.restored port).cancelAll = before.restored port.cancelAll := by
  rw [restored_eq, restored_eq]
  rfl

theorem close_restored (before port : SerialPort κ) :
    (before.restored port).close = before.restored port.close := by
  rw [restored_eq, restored_eq]
  rfl

end SerialPort

/-! ## Bookings -/

/-- Something done to the table of handlers. -/
inductive Booking (κ : Type) where
  | entered (h : Handler κ)
  | dropped

namespace Booking

def entries (bookings : List (Booking κ)) : List (Handler κ) :=
  bookings.filterMap fun
    | entered h => some h
    | dropped => none

/-- The table after a booking. -/
def book (table : List (Handler κ)) : Booking κ → List (Handler κ)
  | entered h => table ++ [h]
  | dropped => []

def bookAll (table : List (Handler κ)) (bookings : List (Booking κ)) : List (Handler κ) :=
  bookings.foldl book table

theorem bookAll_undropped (table : List (Handler κ)) {bookings : List (Booking κ)}
    (undropped : dropped ∉ bookings) : bookAll table bookings = table ++ entries bookings := by
  induction bookings generalizing table with
  | nil => exact (List.append_nil table).symm
  | cons b rest ih =>
    rw [List.mem_cons, not_or] at undropped
    cases b with
    | entered h => exact (ih (table ++ [h]) undropped.2).trans (List.append_assoc table [h] _)
    | dropped => exact absurd rfl undropped.1

/-- Those before the last drop are gone. -/
theorem bookAll_dropped (table : List (Handler κ)) (before : List (Booking κ))
    {later : List (Booking κ)} (undropped : dropped ∉ later) :
    bookAll table (before ++ dropped :: later) = entries later := by
  unfold bookAll
  rw [List.foldl_append]
  exact bookAll_undropped [] undropped

theorem bookAll_append (table : List (Handler κ)) (before after : List (Booking κ)) :
    bookAll table (before ++ after) = bookAll (bookAll table before) after :=
  List.foldl_append

end Booking

section

variable {C : Type → Type} [Channel C]

/-- What a routine does to the table before it ends or waits. -/
def Routine.bookings : Routine σ → Machine C σ → List (Booking (Resume σ))
  | .done, _ => []
  | .read next, m => (next m.state).bookings m
  | .write state next, m => next.bookings { m with state := state }
  | .send command leads next, m =>
    match Channel.send m.channel command leads fun response => next (some response) with
    | .refused channel => (next none).bookings { m with channel := channel }
    | .answered channel response => (next (some response)).bookings { m with channel := channel }
    | .held _ => []
  | .register lead handler next, m =>
    match Channel.register m.channel lead handler with
    | none => (next none).bookings m
    | some (id, channel) =>
      .entered ⟨lead, handler⟩ :: (next (some id)).bookings { m with channel := channel }
  | .unregisterAll next, m =>
    .dropped :: next.bookings { m with channel := Channel.unregisterAll m.channel }
  | .cancelAll next, m => next.bookings { m with channel := Channel.cancelAll m.channel }
  | .close next, m => next.bookings { m with channel := Channel.close m.channel }
  | .traffic next, m => (next (Channel.traffic m.channel)).bookings m
  | .fork child next, m => child.bookings m ++ next.bookings (child.exec m)

def Machine.resumeAllBookings (m : Machine C σ) :
    List (Resume σ × Response) → List (Booking (Resume σ))
  | [] => []
  | (resume, response) :: rest =>
    (resume response).bookings m ++ ((resume response).exec m).resumeAllBookings rest

end

/-! ## Handing a line round -/

/-- The machine whose port has these handlers put back. -/
abbrev Machine.restored (before : SerialPort (Resume σ)) (m : Machine SerialPort σ) :
    Machine SerialPort σ :=
  { m with channel := before.restored m.channel }

/-- Code does the same whether the handlers are out or not. -/
theorem Routine.exec_restored (r : Routine σ) {before : SerialPort (Resume σ)}
    {m : Machine SerialPort σ} (since : before.generation ≤ m.channel.generation) :
    r.exec (m.restored before) = (r.exec m).restored before ∧
      r.bookings (m.restored before) = r.bookings m ∧
      before.generation ≤ (r.exec m).channel.generation := by
  -- The generation only grows, so a drop is never taken back: this is why it goes along.
  induction r generalizing m with
  | done => exact ⟨rfl, rfl, since⟩
  | read next ih => exact ih m.state since
  | write s next ih => exact ih (m := { m with state := s }) since
  | send command leads next ih =>
    have hrestored := before.send_restored m.channel command leads fun r => next (some r)
    obtain ⟨-, hgeneration⟩ := m.channel.send_keeps command leads fun r => next (some r)
    unfold exec bookings
    dsimp only [Channel.send]
    rw [hrestored]
    cases hsent : m.channel.send command leads fun r => next (some r) with
    | refused channel =>
      rw [hsent] at hgeneration
      exact ih none (m := { m with channel := channel }) (hgeneration ▸ since)
    | answered channel response =>
      rw [hsent] at hgeneration
      exact ih (some response) (m := { m with channel := channel }) (hgeneration ▸ since)
    | held channel =>
      rw [hsent] at hgeneration
      exact ⟨rfl, rfl, hgeneration ▸ since⟩
  | register lead handler next _ ih =>
    have hrestored := before.register_restored m.channel lead handler
    unfold exec bookings
    dsimp only [Channel.register]
    rw [hrestored]
    cases hregister : m.channel.register lead handler with
    | none => exact ih none since
    | some taken =>
      obtain ⟨-, hgeneration⟩ := SerialPort.register_keeps hregister
      obtain ⟨hexec, hbookings, hsince⟩ :=
        ih (some taken.1) (m := { m with channel := taken.2 }) (hgeneration ▸ since)
      exact ⟨hexec, congrArg _ hbookings, hsince⟩
  | unregisterAll next ih =>
    have hrestored := before.unregisterAll_restored m.channel since
    obtain ⟨hexec, hbookings, hsince⟩ :=
      ih (m := { m with channel := m.channel.unregisterAll }) (Nat.le_succ_of_le since)
    unfold exec bookings
    dsimp only [Channel.unregisterAll]
    rw [hrestored]
    exact ⟨hexec, congrArg _ hbookings, hsince⟩
  | cancelAll next ih =>
    have hrestored := before.cancelAll_restored m.channel
    unfold exec bookings
    dsimp only [Channel.cancelAll]
    rw [hrestored]
    exact ih (m := { m with channel := m.channel.cancelAll }) since
  | close next ih =>
    have hrestored := before.close_restored m.channel
    unfold exec bookings
    dsimp only [Channel.close]
    rw [hrestored]
    exact ih (m := { m with channel := m.channel.close }) since
  | traffic next ih =>
    have hwire : (before.restored m.channel).wire = m.channel.wire := by
      rw [SerialPort.restored_eq]
    unfold exec bookings
    dsimp only [Channel.traffic]
    rw [hwire]
    exact ih _ since
  | fork child next ihc ih =>
    obtain ⟨hchild, hchildBookings, hsince⟩ := ihc since
    obtain ⟨hexec, hbookings, hsince⟩ := ih hsince
    unfold exec bookings
    rw [hchild, hchildBookings, hexec, hbookings]
    exact ⟨rfl, rfl, hsince⟩

namespace Machine

theorem resumeAll_restored (m : Machine SerialPort σ) (before : SerialPort (Resume σ))
    (waiting : List (Resume σ × Response)) (since : before.generation ≤ m.channel.generation) :
    (m.restored before).resumeAll waiting = (m.resumeAll waiting).restored before := by
  induction waiting generalizing m with
  | nil => rfl
  | cons w rest ih =>
    obtain ⟨hexec, -, hsince⟩ := (w.1 w.2).exec_restored since
    have hfirst : (m.restored before).resumeAll (w :: rest)
        = ((w.1 w.2).exec (m.restored before)).resumeAll rest := rfl
    rw [hfirst, hexec]
    exact ih _ hsince

theorem resumeAllBookings_restored (m : Machine SerialPort σ) (before : SerialPort (Resume σ))
    (waiting : List (Resume σ × Response)) (since : before.generation ≤ m.channel.generation) :
    (m.restored before).resumeAllBookings waiting = m.resumeAllBookings waiting := by
  induction waiting generalizing m with
  | nil => rfl
  | cons w rest ih =>
    obtain ⟨hexec, hbookings, hsince⟩ := (w.1 w.2).exec_restored since
    unfold resumeAllBookings
    rw [hbookings, hexec]
    exact congrArg _ (ih _ hsince)

/-- Taking the handlers out and putting them back changes nothing. -/
theorem restored_handling (m : Machine SerialPort σ) : m.handling.restored m.channel = m := by
  have hchannel : m.channel.restored m.handling.channel = m.channel := by
    rw [SerialPort.restored_eq]
    unfold handling
    dsimp only
    rw [if_pos rfl, List.append_nil]
  unfold restored
  rw [hchannel]
  rfl

/-- A line is handed round as if the handlers had stayed where they are. -/
theorem dispatch_in_place (m : Machine SerialPort σ) (line : String) :
    m.dispatch line = m.resumeAll (m.takers line) := by
  have hout : m.dispatch line = (m.handling.resumeAll (m.takers line)).restored m.channel := by
    rw [dispatch_eq]
    unfold putBack restored SerialPort.restored
    split <;> rfl
  have hback := m.handling.resumeAll_restored m.channel (m.takers line) (Nat.le_refl _)
  rw [hout, ← hback, restored_handling]

end Machine

/-! ## The table -/

theorem Routine.handlers_exec (r : Routine σ) (m : Machine SerialPort σ) :
    (r.exec m).channel.handlers = Booking.bookAll m.channel.handlers (r.bookings m) := by
  induction r generalizing m with
  | done => rfl
  | read next ih => exact ih m.state m
  | write s next ih => exact ih { m with state := s }
  | send command leads next ih =>
    obtain ⟨hhandlers, -⟩ := m.channel.send_keeps command leads fun r => next (some r)
    unfold exec bookings
    dsimp only [Channel.send]
    cases hsent : m.channel.send command leads fun r => next (some r) with
    | refused channel =>
      rw [hsent] at hhandlers
      rw [← hhandlers]
      exact ih none { m with channel := channel }
    | answered channel response =>
      rw [hsent] at hhandlers
      rw [← hhandlers]
      exact ih (some response) { m with channel := channel }
    | held channel =>
      rw [hsent] at hhandlers
      exact hhandlers
  | register lead handler next _ ih =>
    unfold exec bookings
    dsimp only [Channel.register]
    cases hregister : m.channel.register lead handler with
    | none => exact ih none m
    | some taken =>
      obtain ⟨hhandlers, -⟩ := SerialPort.register_keeps hregister
      have hrest := ih (some taken.1) { m with channel := taken.2 }
      rw [hhandlers] at hrest
      exact hrest
  | unregisterAll next ih => exact ih { m with channel := m.channel.unregisterAll }
  | cancelAll next ih => exact ih { m with channel := m.channel.cancelAll }
  | close next ih => exact ih { m with channel := m.channel.close }
  | traffic next ih => exact ih _ m
  | fork child next ihc ih =>
    unfold exec bookings
    rw [ih, ihc, ← Booking.bookAll_append]

namespace Machine

theorem handlers_resumeAll (m : Machine SerialPort σ) (waiting : List (Resume σ × Response)) :
    (m.resumeAll waiting).channel.handlers
      = Booking.bookAll m.channel.handlers (m.resumeAllBookings waiting) := by
  induction waiting generalizing m with
  | nil => rfl
  | cons w rest ih =>
    have hfirst : m.resumeAll (w :: rest) = ((w.1 w.2).exec m).resumeAll rest := rfl
    unfold resumeAllBookings
    rw [hfirst, ih, Routine.handlers_exec, ← Booking.bookAll_append]

/-- What is done to the table while a line is dealt with. -/
def lineBookings (m : Machine SerialPort σ) (line : String) : List (Booking (Resume σ)) :=
  match m.channel.receive line with
  | .final port waiting response failed =>
    { m with channel := port }.resumeAllBookings
      ((waiting, response) :: failed.map fun waiting => (waiting, SerialPort.writeFailed))
  | .kept _ => []
  | .unsolicited => m.handling.resumeAllBookings (m.takers line)

theorem handlers_receive (m : Machine SerialPort σ) (line : String) :
    (m.receive line).channel.handlers
      = Booking.bookAll m.channel.handlers (m.lineBookings line) := by
  unfold receive lineBookings
  cases hreceived : m.channel.receive line with
  | final port waiting response failed =>
    obtain ⟨-, hhandlers, -⟩ := SerialPort.receive_final_facts hreceived
    rw [← hhandlers]
    exact handlers_resumeAll { m with channel := port } _
  | kept port =>
    obtain ⟨-, hhandlers, -⟩ := SerialPort.receive_kept_facts hreceived
    exact hhandlers
  | unsolicited =>
    have hbookings := m.handling.resumeAllBookings_restored m.channel (m.takers line)
      (Nat.le_refl _)
    rw [restored_handling] at hbookings
    dsimp only
    rw [dispatch_in_place, ← hbookings]
    exact handlers_resumeAll m (m.takers line)

def occasionBookings (m : Machine SerialPort σ) : Occasion σ → List (Booking (Resume σ))
  | .code r => r.bookings m
  | .line text => m.lineBookings text

/-- What is done to the table in a history. -/
def historyBookings (m : Machine SerialPort σ) : List (Occasion σ) → List (Booking (Resume σ))
  | [] => []
  | o :: rest => m.occasionBookings o ++ (m.meet o).historyBookings rest

theorem handlers_meetAll (m : Machine SerialPort σ) (history : List (Occasion σ)) :
    (m.meetAll history).channel.handlers
      = Booking.bookAll m.channel.handlers (m.historyBookings history) := by
  induction history generalizing m with
  | nil => rfl
  | cons o rest ih =>
    have hfirst : (m.meet o).channel.handlers
        = Booking.bookAll m.channel.handlers (m.occasionBookings o) := by
      cases o with
      | code r => exact r.handlers_exec m
      | line text => exact m.handlers_receive text
    have hrest : m.meetAll (o :: rest) = (m.meet o).meetAll rest := rfl
    unfold historyBookings
    rw [hrest, ih, hfirst, ← Booking.bookAll_append]

/-! ## Every line is used in one way -/

end Machine

inductive LineUse where
  | final
  | intermediate
  | unsolicited

namespace Machine

/-- The line is used so: who goes on because of it, and with what. -/
def Uses (m : Machine SerialPort σ) (line : String) : LineUse → Prop
  | .final => ∃ c, m.channel.current = some c ∧ SerialPort.isFinal line = true ∧
      m.receive line = m.finish c.pending.waiting ⟨line = "OK", line, c.lines⟩
  | .intermediate => ∃ c, m.channel.current = some c ∧ SerialPort.isFinal line = false ∧
      Response.wanted c.pending.leads line = true ∧
      m.receive line = m.serving { c with lines := c.lines ++ [line] }
  | .unsolicited => (∀ c, m.channel.current = some c →
      SerialPort.isFinal line = false ∧ Response.wanted c.pending.leads line = false) ∧
      m.receive line = m.resumeAll (m.takers line)

def useOf (m : Machine SerialPort σ) (line : String) : LineUse :=
  match m.channel.current with
  | none => .unsolicited
  | some c =>
    if SerialPort.isFinal line then .final
    else if Response.wanted c.pending.leads line then .intermediate
    else .unsolicited

theorem uses_useOf (m : Machine SerialPort σ) (line : String) : m.Uses line (m.useOf line) := by
  unfold useOf
  cases hcurrent : m.channel.current with
  | none =>
    have hdispatch : m.receive line = m.dispatch line := by
      unfold receive SerialPort.receive
      rw [hcurrent]
    refine ⟨fun c hc => ?_, hdispatch.trans (m.dispatch_in_place line)⟩
    rw [hcurrent] at hc
    cases hc
  | some c =>
    have hserving : m.serving c = m := by
      unfold serving
      rw [← hcurrent]
    dsimp only
    cases hfinal : SerialPort.isFinal line with
    | true =>
      refine ⟨c, hcurrent, hfinal, ?_⟩
      rw [← m.receive_final c.pending c.lines hfinal, hserving]
    | false =>
      rw [if_neg Bool.false_ne_true]
      cases hwanted : Response.wanted c.pending.leads line with
      | true =>
        refine ⟨c, hcurrent, hfinal, hwanted, ?_⟩
        rw [← m.receive_kept c.pending c.lines hfinal hwanted, hserving]
      | false =>
        have hdispatch := m.receive_unwanted c.pending c.lines hfinal hwanted
        rw [hserving] at hdispatch
        refine ⟨fun d hd => ?_, hdispatch.trans (m.dispatch_in_place line)⟩
        rw [hcurrent] at hd
        obtain rfl := Option.some.inj hd
        exact ⟨hfinal, hwanted⟩

theorem Uses.eq_useOf {m : Machine SerialPort σ} {line : String} {way : LineUse}
    (h : m.Uses line way) : way = m.useOf line := by
  unfold useOf
  cases way with
  | final =>
    obtain ⟨c, hcurrent, hfinal, -⟩ := h
    simp [hcurrent, hfinal]
  | intermediate =>
    obtain ⟨c, hcurrent, hfinal, hwanted, -⟩ := h
    simp [hcurrent, hfinal, hwanted]
  | unsolicited =>
    obtain ⟨hunwanted, -⟩ := h
    cases hcurrent : m.channel.current with
    | none => rfl
    | some c =>
      obtain ⟨hfinal, hwanted⟩ := hunwanted c hcurrent
      simp [hfinal, hwanted]

/-- In every run each line is used in exactly one way: it ends the command in flight, is kept for it,
or is given to those who take it of the handlers there are when it comes, to each once, in order. When
those who go on because of it drop no handlers, the handlers there were stay, and those they entered
are behind them; otherwise those are left who were entered since the last drop. -/
theorem lines_used_once (start : Machine SerialPort σ) (history : List (Occasion σ))
    (line : String) :
    let m := start.meetAll history
    let bookings := m.lineBookings line
    m.channel.handlers = Booking.bookAll start.channel.handlers (start.historyBookings history) ∧
      (∃! way, m.Uses line way) ∧
      (.dropped ∉ bookings → (m.receive line).channel.handlers
        = m.channel.handlers ++ Booking.entries bookings) ∧
      ∀ before later, bookings = before ++ .dropped :: later → .dropped ∉ later →
        (m.receive line).channel.handlers = Booking.entries later := by
  intro m bookings
  have htable : (m.receive line).channel.handlers = Booking.bookAll m.channel.handlers bookings :=
    m.handlers_receive line
  refine ⟨start.handlers_meetAll history, ⟨m.useOf line, m.uses_useOf line, fun _ h => h.eq_useOf⟩,
    fun undropped => ?_, fun before later hbookings undropped => ?_⟩
  · rw [htable, Booking.bookAll_undropped _ undropped]
  · rw [htable, hbookings, Booking.bookAll_dropped _ before undropped]

def noted (who : String) (line : Response) : Act (List (String × List String)) Unit :=
  modify (· ++ [(who, line.lines)])

/-- Three handlers, two of them for lines on the presence of the SIM: the first of these has another
handler entered, the second drops them all and then has one entered. A command is in flight. -/
def reshuffling : Occasion (List (String × List String)) :=
  .code (Act.routine do
    discard (Act.register "#QSS:" fun line => do
      noted "first" line
      discard (Act.register "#QSS:" (noted "third")))
    discard (Act.register "+CREG:" (noted "other"))
    discard (Act.register "#QSS:" fun line => do
      noted "second" line
      Act.unregisterAll
      discard (Act.register "#QSS:" (noted "fourth")))
    discard (Act.send "AT+CFUN?" ["+CFUN:"]))

theorem lines_used_once_reshuffling :
    let m := (⟨SerialPort.opened, []⟩ : Machine SerialPort _).meetAll [reshuffling]
    m.Uses "#QSS: 1" .unsolicited ∧ (m.receive "#QSS: 1").state
        = [("first", ["#QSS: 1"]), ("second", ["#QSS: 1"])] ∧
      (m.receive "#QSS: 1").channel.handlers
        = [⟨"#QSS:", fun line => (noted "fourth" line).routine⟩] := by
  intro m
  obtain ⟨-, ⟨way, hway, -⟩, -, hdropped⟩ :=
    lines_used_once ⟨SerialPort.opened, []⟩ [reshuffling] "#QSS: 1"
  refine ⟨?_, rfl, ?_⟩
  · have hunsolicited : way = .unsolicited := hway.eq_useOf
    exact hunsolicited ▸ hway
  · exact hdropped [.entered ⟨"#QSS:", fun line => (noted "third" line).routine⟩]
      [.entered ⟨"#QSS:", fun line => (noted "fourth" line).routine⟩] rfl (by simp)

end Machine

end CellModem
