import CellModem.Proofs.Interference.Course

/-!
# Calls on a serial line

Calls are made, and the lines come in that the modem answers to what is written. What is written for
which call is told by counting: what the port accepts while the code of a call runs is of that call,
the code that runs on a final line is that of the command in flight, and commands are written in the
order in which they were accepted.
-/

namespace CellModem

namespace SerialPort

variable {ι κ : Type}

/-- How many commands the port has been given. -/
def given (port : SerialPort κ) : Nat := port.wire.length + port.queue.length

def entry (command : ι × Pending κ) : ι × String := (command.1, command.2.command ++ "\r")

/-- Since it had written what is in `written`, the port has dealt with the commands of `earlier`, and
it holds those of `pending`, the first of them in flight. The modem has yet to say the lines of
`coming`. The handlers stay the same, and what answers the commands of `pending` is not for them. -/
structure Serves (modem : Responder) (handlers : List (Handler κ)) (written : List String)
    (port : SerialPort κ) (earlier : List (ι × String)) (pending : List (ι × Pending κ))
    (coming : List String) : Prop where
  clear : port.Clear
  same : port.handlers = handlers
  quiet : ∀ command ∈ pending, modem.Quiet handlers command.2.command command.2.leads
  wire : port.wire = written ++ (earlier ++ (pending.take 1).map entry).map (·.2)
  queue : port.queue = pending.tail.map (·.2)
  free : pending = [] → port.current = none ∧ coming = []
  flight : ∀ i p rest, pending = (i, p) :: rest → ∃ heard more,
    modem.lines (p.command ++ "\r") = heard ++ more ∧
    port.current = some ⟨p, heard.filter (Response.wanted p.leads)⟩ ∧
    coming = more ++ [modem.final (p.command ++ "\r")]

variable {modem : Responder} {handlers : List (Handler κ)} {written : List String}
  {port : SerialPort κ} {earlier : List (ι × String)} {pending : List (ι × Pending κ)}
  {coming : List String}

theorem Serves.given (h : Serves modem handlers written port earlier pending coming) :
    port.given = written.length + (earlier.length + pending.length) := by
  unfold SerialPort.given
  rw [h.wire, h.queue]
  cases pending with
  | nil => simp
  | cons first rest => simp [Nat.add_assoc, Nat.add_comm 1]

/-- A command is accepted; a free line takes it at once. -/
theorem Serves.enqueue (h : Serves modem handlers written port earlier pending coming) (i : ι)
    (p : Pending κ) (quiet : modem.Quiet handlers p.command p.leads) :
    ∃ news, (port.enqueue p).advance.2.wire = port.wire ++ news ∧
      Serves modem handlers written (port.enqueue p).advance.2 earlier (pending ++ [(i, p)])
        (coming ++ news.flatMap modem.answer) := by
  have hclear : (port.enqueue p).Clear := ⟨h.clear.closed, h.clear.faults⟩
  have hquiet : ∀ command ∈ pending ++ [(i, p)],
      modem.Quiet handlers command.2.command command.2.leads := by
    intro command hcommand
    rcases List.mem_append.mp hcommand with hheld | hnew
    · exact h.quiet command hheld
    · rwa [List.mem_singleton.mp hnew]
  cases pending with
  | nil =>
    obtain ⟨hfree, rfl⟩ := h.free rfl
    have hqueue : (port.enqueue p).queue = [p] := by
      rw [SerialPort.enqueue, h.queue]
      rfl
    rw [hclear.advance_queued hfree hqueue]
    refine ⟨[p.command ++ "\r"], rfl, ⟨h.clear.closed, h.clear.faults⟩, h.same, hquiet, ?_, rfl,
      nofun, ?_⟩
    · simp [SerialPort.enqueue, h.wire, entry]
    · intro j q rest hpending
      obtain ⟨hfirst, -⟩ := List.cons.inj hpending
      obtain ⟨rfl, rfl⟩ := Prod.mk.inj hfirst
      exact ⟨[], _, rfl, rfl, by simp [Responder.answer]⟩
  | cons first rest =>
    obtain ⟨heard, more, hlines, hcurrent, hcoming⟩ := h.flight first.1 first.2 rest rfl
    rw [advance_busy (port.enqueue p) hcurrent]
    refine ⟨[], (List.append_nil _).symm, hclear, h.same, hquiet, h.wire, ?_, nofun, ?_⟩
    · simp [SerialPort.enqueue, h.queue]
    · intro j q rest' hpending
      obtain ⟨rfl, -⟩ := List.cons.inj hpending
      exact ⟨heard, more, hlines, hcurrent, by rw [hcoming]; simp⟩

/-- The final line of a command comes in, and the next command is written. -/
theorem Serves.finish (h : Serves modem handlers written port earlier pending coming) {i : ι}
    {p : Pending κ} {rest : List (ι × Pending κ)} (first : pending = (i, p) :: rest) {line : String}
    {lines : List String} (next : coming = line :: lines) (final : isFinal line = true) :
    ∃ port' news, port.receive line
        = .final port' p.waiting (modem.response p.command p.leads) [] ∧
      port'.wire = port.wire ++ news ∧
      Serves modem handlers written port' (earlier ++ [entry (i, p)]) rest
        (lines ++ news.flatMap modem.answer) := by
  obtain ⟨heard, more, hlines, hcurrent, hcoming⟩ := h.flight i p rest first
  -- The lines before the final one are not final.
  obtain ⟨rfl, rfl, rfl⟩ : more = [] ∧ line = modem.final (p.command ++ "\r") ∧ lines = [] := by
    cases more with
    | nil =>
      obtain ⟨rfl, rfl⟩ := List.cons.inj (next.symm.trans hcoming)
      exact ⟨rfl, rfl, rfl⟩
    | cons x more =>
      obtain ⟨rfl, -⟩ := List.cons.inj (next.symm.trans hcoming)
      have hnot := modem.lines_not_final (p.command ++ "\r") line (by rw [hlines]; simp)
      rw [hnot] at final
      cases final
  rw [List.append_nil] at hlines
  have hqueue : port.queue = rest.map (·.2) := by rw [h.queue, first]; rfl
  have hclear : ({ port with current := none } : SerialPort κ).Clear :=
    ⟨h.clear.closed, h.clear.faults⟩
  have hwire : port.wire = written ++ (earlier ++ [entry (i, p)]).map (·.2) := by
    rw [h.wire, first]
    rfl
  have hquiet : ∀ command ∈ rest, modem.Quiet handlers command.2.command command.2.leads :=
    fun command hcommand => h.quiet command (first ▸ List.mem_cons_of_mem _ hcommand)
  unfold receive
  rw [hcurrent]
  dsimp only
  rw [if_pos final, hclear.failed_advance, ← hlines]
  cases rest with
  | nil =>
    rw [advance_idle { port with current := none } rfl hqueue]
    refine ⟨_, [], rfl, (List.append_nil _).symm, hclear, h.same, hquiet, ?_, hqueue,
      fun _ => ?_, nofun⟩
    · simpa using hwire
    · exact ⟨rfl, rfl⟩
  | cons q rest =>
    rw [hclear.advance_queued rfl hqueue]
    refine ⟨_, [q.2.command ++ "\r"], rfl, rfl, ⟨h.clear.closed, h.clear.faults⟩, h.same, hquiet,
      ?_, rfl, nofun, ?_⟩
    · simp [hwire, entry]
    · intro j q' rest' hpending
      obtain ⟨rfl, -⟩ := List.cons.inj hpending
      exact ⟨[], _, rfl, rfl, by simp [Responder.answer]⟩

theorem dispatch_untaken {σ : Type} (m : Machine SerialPort σ) (line : String)
    (untaken : ∀ h ∈ m.channel.handlers, h.takes line = false) : m.dispatch line = m := by
  have hnobody : m.channel.handlers.filter (Handler.takes · line) = [] := by
    refine List.filter_eq_nil_iff.mpr fun h hh => ?_
    rw [untaken h hh]
    nofun
  simp [Machine.dispatch, Machine.deliver, hnobody, Machine.resumeAll]

/-- A line comes in that does not end the command in flight. -/
theorem Serves.hear {σ : Type} {m : Machine SerialPort σ}
    {handlers : List (Handler (Resume σ))} {pending : List (ι × Pending (Resume σ))}
    (h : Serves modem handlers written m.channel earlier pending coming) {line : String}
    {lines : List String} (next : coming = line :: lines) (intermediate : isFinal line = false) :
    (m.receive line).state = m.state ∧ (m.receive line).channel.wire = m.channel.wire ∧
      Serves modem handlers written (m.receive line).channel earlier pending lines := by
  cases pending with
  | nil =>
    obtain ⟨-, hnone⟩ := h.free rfl
    cases next.symm.trans hnone
  | cons first rest =>
    obtain ⟨heard, more, hlines, hcurrent, hcoming⟩ := h.flight first.1 first.2 rest rfl
    cases more with
    | nil =>
      obtain ⟨rfl, -⟩ := List.cons.inj (next.symm.trans hcoming)
      rw [modem.final_isFinal] at intermediate
      cases intermediate
    | cons x more =>
      obtain ⟨rfl, rfl⟩ := List.cons.inj (next.symm.trans hcoming)
      have hmore : modem.lines (first.2.command ++ "\r") = (heard ++ [line]) ++ more := by
        rw [hlines, List.append_assoc]
        rfl
      unfold Machine.receive receive
      rw [hcurrent]
      dsimp only
      rw [if_neg (by rw [intermediate]; nofun)]
      by_cases hwanted : Response.wanted first.2.leads line = true
      · rw [if_pos hwanted]
        dsimp only
        refine ⟨rfl, rfl, ⟨h.clear.closed, h.clear.faults⟩, h.same, h.quiet, h.wire, h.queue,
          nofun, ?_⟩
        intro j q rest' hpending
        obtain ⟨rfl, -⟩ := List.cons.inj hpending
        exact ⟨heard ++ [line], more, hmore, by simp [hwanted], rfl⟩
      · rw [if_neg hwanted]
        dsimp only
        have hunwanted : Response.wanted first.2.leads line = false := by simpa using hwanted
        have huntaken := h.quiet first List.mem_cons_self line (by rw [hlines]; simp) hunwanted
        rw [dispatch_untaken m line (h.same ▸ huntaken)]
        refine ⟨rfl, rfl, h.clear, h.same, h.quiet, h.wire, h.queue, nofun, ?_⟩
        intro j q rest' hpending
        obtain ⟨rfl, -⟩ := List.cons.inj hpending
        exact ⟨heard ++ [line], more, hmore, by simp [hwanted, hcurrent], rfl⟩

end SerialPort

namespace Calls

open SerialPort

variable {ι : Type} {α : ι → Type}

/-- Code with a course goes on to its next command, or to the answer. -/
theorem Course.serves {calls : Calls α} {modem : Responder}
    {handlers : List (Handler (Resume (Logged α)))} {i : ι}
    {result : Except Error (Settled (calls.facility i) (α i))} {r : Routine (Logged α)}
    {commands : List String} (course : Course calls modem handlers i result r commands)
    {m : Machine SerialPort (Logged α)} {written : List String} {earlier : List (ι × String)}
    {pending : List (ι × Pending (Resume (Logged α)))} {coming : List String}
    (serves : Serves modem handlers written m.channel earlier pending coming) :
    ∃ news pending', (r.exec m).channel.wire = m.channel.wire ++ news ∧
      Serves modem handlers written (r.exec m).channel earlier pending'
        (coming ++ news.flatMap modem.answer) ∧
      ((commands = [] ∧ pending' = pending ∧ (r.exec m).state =
          (m.state.settle (calls.number i) result).note ⟨i, result.map Settled.answer⟩) ∨
        ∃ p rest, commands = p.command :: rest ∧ pending' = pending ++ [(i, p)] ∧
          Course calls modem handlers i result (p.waiting (modem.response p.command p.leads)) rest ∧
          (r.exec m).state = m.state) := by
  rcases course.exec m serves.clear with
    ⟨hnone, hexec⟩ | ⟨p, rest, hcommands, hquiet, hcourse, hexec⟩
  · rw [hexec]
    refine ⟨[], pending, (List.append_nil _).symm, ?_, .inl ⟨hnone, rfl, rfl⟩⟩
    simpa using serves
  · obtain ⟨news, hwire, hserves⟩ := serves.enqueue i p hquiet
    rw [hexec]
    exact ⟨news, _, hwire, hserves, .inr ⟨p, rest, hcommands, rfl, hcourse, rfl⟩⟩

/-- All calls on a serial line, at some point. -/
structure Session (α : ι → Type) where
  machine : Machine SerialPort (Logged α)
  /-- What the port had written before. -/
  written : List String
  /-- The lines that have not come in yet. -/
  coming : List String
  /-- Whose commands the port was given since, in order. -/
  issuers : List ι
  started : List ι

namespace Session

def opening (m : Machine SerialPort (Logged α)) : Session α := ⟨m, m.channel.wire, [], [], []⟩

/-- What the port has written since. -/
def wire (s : Session α) : List String := s.machine.channel.wire.drop s.written.length

/-- The code of a call has run: what the port was given meanwhile is of the call, and the modem
answers what was written. -/
def after (s : Session α) (modem : Responder) (i : ι) (coming : List String)
    (machine : Machine SerialPort (Logged α)) : Session α :=
  let news := machine.channel.wire.drop s.machine.channel.wire.length
  { s with
    machine := machine
    coming := coming ++ news.flatMap modem.answer
    issuers := s.issuers ++ .replicate (machine.channel.given - s.machine.channel.given) i }

inductive Step (calls : Calls α) (modem : Responder) : Session α → Session α → Prop where
  /-- Nothing is left to do for a call when its caller is answered, so a call that is made by this
  caller then is one that is made right after. -/
  | start (s : Session α) (i : ι) (fresh : i ∉ s.started) :
    Step calls modem s
      { s.after modem i s.coming (s.machine.start (calls.act i)) with started := i :: s.started }
  | hear (s : Session α) (line : String) (lines : List String) (next : s.coming = line :: lines)
    (intermediate : isFinal line = false) :
    Step calls modem s { s with machine := s.machine.receive line, coming := lines }
  /-- The code that runs on a final line is of the command in flight, the last one written. -/
  | finish (s : Session α) (line : String) (lines : List String) (i : ι)
    (next : s.coming = line :: lines) (final : isFinal line = true)
    (flight : s.issuers[s.wire.length - 1]? = some i) :
    Step calls modem s (s.after modem i lines (s.machine.receive line))

abbrev Run (calls : Calls α) (modem : Responder) : Session α → Session α → Prop :=
  Relation.ReflTransGen (Step calls modem)

variable [DecidableEq ι]

/-- What was written for a call, in order. -/
def linesOf (s : Session α) (i : ι) : List String :=
  ((s.issuers.zip s.wire).filter (·.1 = i)).map (·.2)

def repliesTo (s : Session α) (i : ι) : List (Reply α) :=
  s.machine.state.observed.filter (·.1 = i)

end Session

end Calls

end CellModem
