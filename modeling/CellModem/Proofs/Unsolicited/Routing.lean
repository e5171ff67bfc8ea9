import CellModem.Channel.Simulator
import CellModem.Proofs.SerialLine.Delivery

/-!
# Who is given a line that comes on its own

Both channels take their handlers out while a line is being handed round, and put them back
afterwards. A switchboard does without that: it keeps one table, and whatever a handler does to the
table is done at once. The serial line does as the switchboard in every history of registrations,
drops and lines, also when they are made by handlers. The scripted modem does so exactly as long as
no handler drops the handlers; those it had before are back after the line.
-/

namespace CellModem

variable {κ σ : Type}

/-! ## The switchboard -/

/-- A channel that only keeps handlers. -/
structure Switchboard (κ : Type) where
  handlers : List (Handler κ)
  nextId : Nat
  /-- How often all handlers have been dropped. -/
  drops : Nat

namespace Switchboard

def register (b : Switchboard κ) (lead : String) (handler : κ) : Switchboard κ :=
  { b with handlers := b.handlers ++ [⟨lead, handler⟩], nextId := b.nextId + 1 }

def unregisterAll (b : Switchboard κ) : Switchboard κ :=
  { b with handlers := [], drops := b.drops + 1 }

end Switchboard

instance : Channel Switchboard where
  send b _ _ _ := .refused b
  register b lead handler := some (b.nextId, b.register lead handler)
  unregisterAll := Switchboard.unregisterAll
  cancelAll b := b
  close b := b
  traffic _ := []

/-! ## Histories -/

/-- Code that does nothing to the channel but register handlers and drop them all, nor do the
handlers it registers. -/
inductive Routine.Bookkeeping : Routine σ → Prop where
  | done : Bookkeeping .done
  | read (next : σ → Routine σ) (h : ∀ s, Bookkeeping (next s)) : Bookkeeping (.read next)
  | write (state : σ) (next : Routine σ) (h : Bookkeeping next) : Bookkeeping (.write state next)
  | register (lead : String) (handler : Response → Routine σ) (next : Option Nat → Routine σ)
    (handles : ∀ line, Bookkeeping (handler line)) (h : ∀ id, Bookkeeping (next id)) :
    Bookkeeping (.register lead handler next)
  | unregisterAll (next : Routine σ) (h : Bookkeeping next) : Bookkeeping (.unregisterAll next)
  | fork (child next : Routine σ) (forked : Bookkeeping child) (h : Bookkeeping next) :
    Bookkeeping (.fork child next)

def Handler.Bookkeeping (h : Handler (Resume σ)) : Prop := ∀ line, (h.handler line).Bookkeeping

/-- Something that happens while no command is in flight: code runs, or a line comes in. -/
inductive Occasion (σ : Type) where
  | code (r : Routine σ)
  | line (text : String)

/-- A channel that hands lines round. -/
class Listening (C : Type → Type) [Channel C] where
  handlers {κ : Type} (channel : C κ) : List (Handler κ)
  hear {σ : Type} (m : Machine C σ) (line : String) : Machine C σ

instance : Listening Switchboard where
  handlers := Switchboard.handlers
  hear m line := m.deliver m.channel.handlers line

instance : Listening SerialPort where
  handlers := SerialPort.handlers
  hear := Machine.receive

instance : Listening Simulator where
  handlers := Simulator.handlers
  hear m line := (m.push line).2

/-- The code of a history only keeps the books. -/
def Occasion.Bookkeeping : Occasion σ → Prop
  | .code r => r.Bookkeeping
  | .line _ => True

theorem bookkeeping_line {history : List (Occasion σ)} (code : ∀ o ∈ history, o.Bookkeeping)
    (text : String) : ∀ o ∈ history ++ [.line text], o.Bookkeeping := by
  intro o ho
  rcases List.mem_append.mp ho with ho | ho
  · exact code o ho
  · rw [List.mem_singleton.mp ho]
    exact trivial

namespace Machine

variable {C : Type → Type} [Channel C] [Listening C]

def meet (m : Machine C σ) : Occasion σ → Machine C σ
  | .code r => r.exec m
  | .line text => Listening.hear m text

def meetAll (m : Machine C σ) (history : List (Occasion σ)) : Machine C σ := history.foldl meet m

/-- The handlers that are given a line, in order, each with the line. -/
def calledBy (m : Machine C σ) : Occasion σ → List (String × Handler (Resume σ))
  | .code _ => []
  | .line text => ((Listening.handlers m.channel).filter (Handler.takes · text)).map (text, ·)

/-- The handlers that are given the lines of a history. -/
def called (m : Machine C σ) : List (Occasion σ) → List (String × Handler (Resume σ))
  | [] => []
  | o :: rest => m.calledBy o ++ (m.meet o).called rest

theorem meetAll_append (m : Machine C σ) (before after : List (Occasion σ)) :
    m.meetAll (before ++ after) = (m.meetAll before).meetAll after :=
  List.foldl_append

theorem called_single (m : Machine C σ) (o : Occasion σ) : m.called [o] = m.calledBy o :=
  List.append_nil _

theorem called_append (m : Machine C σ) (before after : List (Occasion σ)) :
    m.called (before ++ after) = m.called before ++ (m.meetAll before).called after := by
  induction before generalizing m with
  | nil => rfl
  | cons o before ih =>
    rw [List.cons_append, called, ih, called, List.append_assoc]
    rfl

/-- The machine hands the lines of a history round as another, and is where that is after it. -/
def RoutesAs {D : Type → Type} [Channel D] [Listening D] (m : Machine C σ) (other : Machine D σ)
    (history : List (Occasion σ)) : Prop :=
  m.called history = other.called history ∧
    (m.meetAll history).state = (other.meetAll history).state ∧
    Listening.handlers (m.meetAll history).channel
      = Listening.handlers (other.meetAll history).channel

/-- No handler drops the handlers while it is given the line. -/
def Calm (b : Machine Switchboard σ) : Occasion σ → Prop
  | .code _ => True
  | .line text => (b.meet (.line text)).channel.drops = b.channel.drops

def Throughout (calm : Machine Switchboard σ → Occasion σ → Prop) :
    Machine Switchboard σ → List (Occasion σ) → Prop
  | _, [] => True
  | b, o :: rest => calm b o ∧ Throughout calm (b.meet o) rest

/-- No handler drops the handlers while it is given one of the lines. -/
abbrev Undisturbed (b : Machine Switchboard σ) (history : List (Occasion σ)) : Prop :=
  b.Throughout Calm history

end Machine

/-! ## Keeping up with the switchboard -/

/-- Handlers that were taken out when there had been `since` drops are still to be put back in front
of the others, unless there was another drop. -/
structure Switchboard.Behind (taken : List (Handler (Resume σ))) (since : Nat)
    (b : Switchboard (Resume σ)) (handlers : List (Handler (Resume σ))) (nextId : Nat) : Prop where
  number : nextId = b.nextId
  since_le : since ≤ b.drops
  table : b.handlers = (if b.drops = since then taken else []) ++ handlers
  bookkeeping : ∀ h ∈ b.handlers, h.Bookkeeping

namespace Switchboard.Behind

variable {taken handlers : List (Handler (Resume σ))} {since nextId : Nat}
  {b : Switchboard (Resume σ)}

theorem register (h : b.Behind taken since handlers nextId) (lead : String) {handler : Resume σ}
    (handles : ∀ line, (handler line).Bookkeeping) :
    (b.register lead handler).Behind taken since (handlers ++ [⟨lead, handler⟩]) (nextId + 1) where
  number := congrArg (· + 1) h.number
  since_le := h.since_le
  table := by
    unfold Switchboard.register
    dsimp only
    rw [h.table, List.append_assoc]
  bookkeeping := by
    intro g hg
    rcases List.mem_append.mp hg with hg | hg
    · exact h.bookkeeping g hg
    · rw [List.mem_singleton.mp hg]
      exact handles

theorem unregisterAll (h : b.Behind taken since handlers nextId) :
    b.unregisterAll.Behind taken since [] nextId where
  number := h.number
  since_le := Nat.le_succ_of_le h.since_le
  table := by
    have hdropped : b.drops + 1 ≠ since := Nat.ne_of_gt (Nat.lt_succ_of_le h.since_le)
    unfold Switchboard.unregisterAll
    rw [if_neg hdropped]
    rfl
  bookkeeping := nofun

/-- The handlers are taken out. -/
theorem out (h : b.Behind [] since handlers nextId) : b.Behind b.handlers b.drops [] nextId where
  number := h.number
  since_le := Nat.le_refl _
  table := by rw [if_pos rfl, List.append_nil]
  bookkeeping := h.bookkeeping

/-- They are put back, there having been no drop, or left out. -/
theorem back (h : b.Behind taken since handlers nextId) :
    b.Behind [] since ((if b.drops = since then taken else []) ++ handlers) nextId where
  number := h.number
  since_le := h.since_le
  table := by rw [ite_self, List.nil_append, ← h.table]
  bookkeeping := h.bookkeeping

theorem handlers_eq (h : b.Behind [] since handlers nextId) : handlers = b.handlers := by
  rw [h.table, ite_self, List.nil_append]

end Switchboard.Behind

/-- A channel keeps up with a switchboard when handlers are registered and dropped. -/
structure Follows {C : Type → Type} [Channel C]
    (rel : Switchboard (Resume σ) → C (Resume σ) → Prop) : Prop where
  register : ∀ b c, rel b c → ∀ lead handler, (∀ line, (handler line : Routine σ).Bookkeeping) →
    ∃ c', Channel.register c lead handler = some (b.nextId, c') ∧ rel (b.register lead handler) c'
  unregisterAll : ∀ b c, rel b c → rel b.unregisterAll (Channel.unregisterAll c)

section

variable {C : Type → Type} [Channel C] {rel : Switchboard (Resume σ) → C (Resume σ) → Prop}

theorem Routine.Bookkeeping.exec_follows (follows : Follows rel) {r : Routine σ}
    (h : r.Bookkeeping) {m : Machine Switchboard σ} {m' : Machine C σ} (state : m'.state = m.state)
    (related : rel m.channel m'.channel) :
    (r.exec m').state = (r.exec m).state ∧ rel (r.exec m).channel (r.exec m').channel := by
  induction h generalizing m m' with
  | done => exact ⟨state, related⟩
  | read next h ih =>
    unfold exec
    rw [state]
    exact ih m.state state related
  | write s next h ih => exact @ih { m with state := s } { m' with state := s } rfl related
  | register lead handler next handles h ihh ih =>
    obtain ⟨c', hregister, hrelated⟩ := follows.register _ _ related lead handler handles
    have hboard : Channel.register m.channel lead handler
        = some (m.channel.nextId, m.channel.register lead handler) := rfl
    unfold exec
    rw [hregister, hboard]
    exact ih _ state hrelated
  | unregisterAll next h ih => exact ih state (follows.unregisterAll _ _ related)
  | fork child next hc hn ihc ihn =>
    obtain ⟨hstate, hrelated⟩ := ihc state related
    exact ihn hstate hrelated

theorem Machine.resumeAll_follows (follows : Follows rel) (waiting : List (Resume σ × Response))
    (code : ∀ w ∈ waiting, (w.1 w.2).Bookkeeping) {m : Machine Switchboard σ} (m' : Machine C σ)
    (state : m'.state = m.state) (related : rel m.channel m'.channel) :
    (m'.resumeAll waiting).state = (m.resumeAll waiting).state ∧
      rel (m.resumeAll waiting).channel (m'.resumeAll waiting).channel := by
  induction waiting generalizing m m' with
  | nil => exact ⟨state, related⟩
  | cons w rest ih =>
    obtain ⟨hw, hrest⟩ := List.forall_mem_cons.mp code
    obtain ⟨hstate, hrelated⟩ := hw.exec_follows follows state related
    exact ih hrest _ hstate hrelated

end

/-- Lines are handed to handlers that only keep the books. -/
theorem bookkeeping_takers {handlers : List (Handler (Resume σ))}
    (h : ∀ g ∈ handlers, g.Bookkeeping) (line : String) :
    ∀ w ∈ (handlers.filter (Handler.takes · line)).map fun g =>
      (g.handler, Response.unsolicited line), (w.1 w.2).Bookkeeping := by
  intro w hw
  obtain ⟨g, hg, rfl⟩ := List.mem_map.mp hw
  exact h g (List.mem_filter.mp hg).1 _

/-! ## The serial line -/

namespace SerialPort

/-- The port is open, without a command, and shows the table of the switchboard but for what is to
be put back. -/
structure Shows (taken : List (Handler (Resume σ))) (since : Nat) (b : Switchboard (Resume σ))
    (port : SerialPort (Resume σ)) : Prop where
  isOpen : port.closed = false
  idle : port.current = none
  drops : port.generation = b.drops
  behind : b.Behind taken since port.handlers port.nextId

theorem shows_follows (taken : List (Handler (Resume σ))) (since : Nat) :
    Follows (Shows taken since : Switchboard (Resume σ) → SerialPort (Resume σ) → Prop) where
  register := by
    intro b port h lead handler handles
    have hregister : port.register lead handler = some (b.nextId, { port with
        handlers := port.handlers ++ [⟨lead, handler⟩], nextId := port.nextId + 1 }) := by
      unfold register
      rw [h.isOpen, if_neg Bool.false_ne_true, h.behind.number]
    exact ⟨_, hregister, h.isOpen, h.idle, h.drops, h.behind.register lead handles⟩
  unregisterAll _ _ h :=
    ⟨h.isOpen, h.idle, congrArg (· + 1) h.drops, h.behind.unregisterAll⟩

/-- A line is handed round as on the switchboard, and the port has caught up after it. -/
theorem hear_shows {b : Machine Switchboard σ} {m : Machine SerialPort σ} {since : Nat}
    (state : m.state = b.state) (shows : Shows [] since b.channel m.channel) (line : String) :
    (m.meet (.line line)).state = (b.meet (.line line)).state ∧
      Shows [] b.channel.drops (b.meet (.line line)).channel (m.meet (.line line)).channel := by
  have htakers : m.takers line = (b.channel.handlers.filter (Handler.takes · line)).map fun h =>
      (h.handler, Response.unsolicited line) := by
    unfold Machine.takers
    rw [shows.behind.handlers_eq]
  obtain ⟨hstate, hshows⟩ := Machine.resumeAll_follows (shows_follows _ _) _
    (bookkeeping_takers shows.behind.bookkeeping line) m.handling state
    ⟨shows.isOpen, shows.idle, shows.drops, shows.behind.out⟩
  have hmeet : m.meet (.line line)
      = (m.handling.resumeAll (m.takers line)).putBack m.channel := by
    rw [← Machine.dispatch_eq]
    show m.receive line = m.dispatch line
    unfold Machine.receive receive
    rw [shows.idle]
  have hback := hshows.behind.back
  rw [hmeet, htakers]
  unfold Machine.putBack
  rw [hshows.drops, shows.drops, shows.behind.handlers_eq]
  split
  · next hsame =>
    rw [if_pos hsame] at hback
    exact ⟨hstate, hshows.isOpen, hshows.idle, hshows.drops, hback⟩
  · next hdropped =>
    rw [if_neg hdropped, List.nil_append] at hback
    exact ⟨hstate, hshows.isOpen, hshows.idle, hshows.drops, hback⟩

end SerialPort

/-! ## The scripted modem -/

namespace Simulator

structure Shows (taken : List (Handler (Resume σ))) (since : Nat) (b : Switchboard (Resume σ))
    (s : Simulator (Resume σ)) : Prop where
  accepting : s.accepting = true
  behind : b.Behind taken since s.handlers s.nextId

theorem shows_follows (taken : List (Handler (Resume σ))) (since : Nat) :
    Follows (Shows taken since : Switchboard (Resume σ) → Simulator (Resume σ) → Prop) where
  register := by
    intro b s h lead handler handles
    have hregister : s.register lead handler = some (b.nextId, { s with
        handlers := s.handlers ++ [⟨lead, handler⟩], nextId := s.nextId + 1 }) := by
      unfold register
      rw [if_pos h.accepting, h.behind.number]
    exact ⟨_, hregister, h.accepting, h.behind.register lead handles⟩
  unregisterAll _ _ h := ⟨h.accepting, h.behind.unregisterAll⟩

/-- A line is handed round as on the switchboard; then the handlers from before are in front of those
that were not dropped while it was. -/
theorem hear_shows {m : Machine Switchboard σ} {m' : Machine Simulator σ} {since : Nat}
    (state : m'.state = m.state) (shows : Shows [] since m.channel m'.channel) (line : String) :
    (m'.meet (.line line)).state = (m.meet (.line line)).state ∧
      ((m.meet (.line line)).channel.drops = m.channel.drops →
        Shows [] m.channel.drops (m.meet (.line line)).channel (m'.meet (.line line)).channel) ∧
      ((m.meet (.line line)).channel.drops ≠ m.channel.drops →
        (m'.meet (.line line)).channel.handlers
          = m.channel.handlers ++ (m.meet (.line line)).channel.handlers) := by
  have htaken : Shows m.channel.handlers m.channel.drops m.channel
      { m'.channel with handlers := [] } := ⟨shows.accepting, shows.behind.out⟩
  obtain ⟨hstate, hshows⟩ := Machine.resumeAll_follows (shows_follows _ _) _
    (bookkeeping_takers shows.behind.bookkeeping line)
    { m' with channel := { m'.channel with handlers := [] } } state htaken
  unfold Machine.meet Listening.hear instListeningSimulator instListeningSwitchboard
  unfold Machine.push Machine.deliver
  dsimp only
  rw [shows.behind.handlers_eq]
  refine ⟨hstate, fun hsame => ⟨hshows.accepting, ?_⟩, fun hdropped => ?_⟩
  · have hback := hshows.behind.back
    rw [if_pos hsame] at hback
    exact hback
  · have htable := hshows.behind.table
    rw [if_neg hdropped, List.nil_append] at htable
    rw [htable]

end Simulator

/-! ## Whole histories -/

/-- A machine is kept in step with a switchboard by the occasions of some kind. -/
structure InStep {C : Type → Type} [Channel C] [Listening C]
    (calm : Machine Switchboard σ → Occasion σ → Prop)
    (alike : Machine Switchboard σ → Machine C σ → Prop) : Prop where
  state : ∀ b m, alike b m → m.state = b.state
  handlers : ∀ b m, alike b m → Listening.handlers m.channel = b.channel.handlers
  meet : ∀ b m o, alike b m → o.Bookkeeping → calm b o → alike (b.meet o) (m.meet o)

namespace InStep

variable {C : Type → Type} [Channel C] [Listening C]
  {calm : Machine Switchboard σ → Occasion σ → Prop}
  {alike : Machine Switchboard σ → Machine C σ → Prop}

theorem meetAll (inStep : InStep calm alike) {b : Machine Switchboard σ} {m : Machine C σ}
    (start : alike b m) {history : List (Occasion σ)} (code : ∀ o ∈ history, o.Bookkeeping)
    (throughout : b.Throughout calm history) : alike (b.meetAll history) (m.meetAll history) := by
  induction history generalizing b m with
  | nil => exact start
  | cons o rest ih =>
    obtain ⟨ho, hrest⟩ := List.forall_mem_cons.mp code
    exact ih (inStep.meet b m o start ho throughout.1) hrest throughout.2

theorem calledBy (inStep : InStep calm alike) {b : Machine Switchboard σ} {m : Machine C σ}
    (start : alike b m) (o : Occasion σ) : m.calledBy o = b.calledBy o := by
  cases o with
  | code r => rfl
  | line text =>
    unfold Machine.calledBy
    dsimp only
    rw [inStep.handlers b m start]
    rfl

theorem called (inStep : InStep calm alike) {b : Machine Switchboard σ} {m : Machine C σ}
    (start : alike b m) {history : List (Occasion σ)} (code : ∀ o ∈ history, o.Bookkeeping)
    (throughout : b.Throughout calm history) : m.called history = b.called history := by
  induction history generalizing b m with
  | nil => rfl
  | cons o rest ih =>
    obtain ⟨ho, hrest⟩ := List.forall_mem_cons.mp code
    unfold Machine.called
    rw [inStep.calledBy start, ih (inStep.meet b m o start ho throughout.1) hrest throughout.2]

/-- The occasion behind the history may be of any kind. -/
theorem called_next (inStep : InStep calm alike) {b : Machine Switchboard σ} {m : Machine C σ}
    (start : alike b m) {history : List (Occasion σ)} (code : ∀ o ∈ history, o.Bookkeeping)
    (throughout : b.Throughout calm history) (o : Occasion σ) :
    m.called (history ++ [o]) = b.called (history ++ [o]) := by
  rw [Machine.called_append, Machine.called_append, inStep.called start code throughout]
  rw [Machine.called_single, Machine.called_single,
    inStep.calledBy (inStep.meetAll start code throughout)]

theorem routesAs (inStep : InStep calm alike) {b : Machine Switchboard σ} {m : Machine C σ}
    (start : alike b m) {history : List (Occasion σ)} (code : ∀ o ∈ history, o.Bookkeeping)
    (throughout : b.Throughout calm history) : m.RoutesAs b history :=
  have hend := inStep.meetAll start code throughout
  ⟨inStep.called start code throughout, inStep.state _ _ hend, inStep.handlers _ _ hend⟩

end InStep

theorem SerialPort.inStep : InStep (C := SerialPort) (σ := σ) (fun _ _ => True)
    fun b m => m.state = b.state ∧ ∃ since, SerialPort.Shows [] since b.channel m.channel where
  state _ _ h := h.1
  handlers := by
    rintro b m ⟨-, since, hshows⟩
    exact hshows.behind.handlers_eq
  meet := by
    rintro b m o ⟨hstate, since, hshows⟩ code -
    cases o with
    | code r =>
      obtain ⟨hstate, hshows⟩ := Routine.Bookkeeping.exec_follows (shows_follows _ _) code hstate hshows
      exact ⟨hstate, since, hshows⟩
    | line text =>
      obtain ⟨hstate, hshows⟩ := hear_shows hstate hshows text
      exact ⟨hstate, _, hshows⟩

theorem Simulator.inStep : InStep (C := Simulator) (σ := σ) Machine.Calm
    fun b m => m.state = b.state ∧ ∃ since, Simulator.Shows [] since b.channel m.channel where
  state _ _ h := h.1
  handlers := by
    rintro b m ⟨-, since, hshows⟩
    exact hshows.behind.handlers_eq
  meet := by
    rintro b m o ⟨hstate, since, hshows⟩ code calm
    cases o with
    | code r =>
      obtain ⟨hstate, hshows⟩ := Routine.Bookkeeping.exec_follows (shows_follows _ _) code hstate hshows
      exact ⟨hstate, since, hshows⟩
    | line text =>
      obtain ⟨hstate, hcalm, -⟩ := hear_shows hstate hshows text
      exact ⟨hstate, _, hcalm calm⟩

/-! ## Histories with a drop while a line is handed round -/

namespace Machine

theorem throughout_always (b : Machine Switchboard σ) (history : List (Occasion σ)) :
    b.Throughout (fun _ _ => True) history := by
  induction history generalizing b with
  | nil => exact trivial
  | cons o rest ih => exact ⟨trivial, ih _⟩

theorem throughout_of_prefix {calm : Machine Switchboard σ → Occasion σ → Prop}
    {b : Machine Switchboard σ} {before history : List (Occasion σ)} (h : before <+: history)
    (throughout : b.Throughout calm history) : b.Throughout calm before := by
  obtain ⟨rest, rfl⟩ := h
  induction before generalizing b with
  | nil => exact trivial
  | cons o before ih => exact ⟨throughout.1, ih throughout.2⟩

/-- The first line that is disturbed. -/
theorem disturbed_cases {b : Machine Switchboard σ} {history : List (Occasion σ)}
    (disturbed : ¬ b.Undisturbed history) :
    ∃ before text rest, history = before ++ .line text :: rest ∧ b.Undisturbed before ∧
      ¬ (b.meetAll before).Calm (.line text) := by
  induction history generalizing b with
  | nil => exact absurd trivial disturbed
  | cons o rest ih =>
    by_cases hcalm : b.Calm o
    · obtain ⟨before, text, after, rfl, hbefore, hline⟩ := ih fun h => disturbed ⟨hcalm, h⟩
      exact ⟨o :: before, text, after, rfl, ⟨hcalm, hbefore⟩, hline⟩
    · cases o with
      | code r => exact absurd trivial hcalm
      | line text => exact ⟨[], text, rest, rfl, trivial, hcalm⟩

/-- A line that nobody is given disturbs nobody. -/
theorem called_of_not_calm {b : Machine Switchboard σ} {text : String}
    (h : ¬ b.Calm (.line text)) : b.calledBy (.line text) ≠ [] := by
  intro hnobody
  have htakers : b.channel.handlers.filter (Handler.takes · text) = [] :=
    List.map_eq_nil_iff.mp hnobody
  have hsame : b.meet (.line text) = b := by
    show b.resumeAll _ = b
    rw [htakers]
    rfl
  have hdrops : (b.meet (.line text)).channel.drops = b.channel.drops := by rw [hsame]
  exact h hdrops

end Machine

/-- A line during which the handlers are dropped, come once more, is given by the scripted modem to
those it was given to, too. -/
theorem Simulator.called_again {b : Machine Switchboard σ} {m : Machine Simulator σ} {since : Nat}
    (state : m.state = b.state) (shows : Simulator.Shows [] since b.channel m.channel)
    {text : String} (disturbed : ¬ b.Calm (.line text)) :
    (m.meet (.line text)).calledBy (.line text)
      = b.calledBy (.line text) ++ (b.meet (.line text)).calledBy (.line text) := by
  obtain ⟨-, -, htable⟩ := hear_shows state shows text
  have htable : Listening.handlers (m.meet (.line text)).channel
      = b.channel.handlers ++ (b.meet (.line text)).channel.handlers := htable disturbed
  unfold Machine.calledBy
  dsimp only
  rw [htable, List.filter_append, List.map_append]
  rfl

/-! ## The two channels -/

/-- A switchboard with the handlers of a port. -/
def SerialPort.switchboard {κ : Type} (port : SerialPort κ) : Switchboard κ :=
  ⟨port.handlers, port.nextId, port.generation⟩

def Machine.switchboard (m : Machine SerialPort σ) : Machine Switchboard σ :=
  ⟨m.channel.switchboard, m.state⟩

/-- Both channels can be given handlers, have the same ones, which only keep the books, and no
command is on the line. -/
structure SameHandlers (port : Machine SerialPort σ) (sim : Machine Simulator σ) : Prop where
  isOpen : port.channel.closed = false
  idle : port.channel.current = none
  accepting : sim.channel.accepting = true
  state : sim.state = port.state
  handlers : sim.channel.handlers = port.channel.handlers
  nextId : sim.channel.nextId = port.channel.nextId
  bookkeeping : ∀ h ∈ port.channel.handlers, h.Bookkeeping

namespace SameHandlers

variable {port : Machine SerialPort σ} {sim : Machine Simulator σ}

theorem behind (h : SameHandlers port sim) :
    port.switchboard.channel.Behind [] 0 port.channel.handlers port.channel.nextId where
  number := rfl
  since_le := Nat.zero_le _
  table := by rw [ite_self, List.nil_append]; rfl
  bookkeeping := h.bookkeeping

theorem port_shows (h : SameHandlers port sim) :
    SerialPort.Shows [] 0 port.switchboard.channel port.channel :=
  ⟨h.isOpen, h.idle, rfl, h.behind⟩

theorem sim_shows (h : SameHandlers port sim) :
    Simulator.Shows [] 0 port.switchboard.channel sim.channel where
  accepting := h.accepting
  behind := by
    rw [h.handlers, h.nextId]
    exact h.behind

end SameHandlers

/-- The serial line routes the lines of every history as a switchboard does. The scripted modem does
as long as no handler drops the handlers while it is given a line; as soon as one does, the scripted
modem gives a next line to a handler that the serial line does not give it to. -/
theorem lines_routed_alike_iff {port : Machine SerialPort σ} {sim : Machine Simulator σ}
    (start : SameHandlers port sim) {history : List (Occasion σ)}
    (code : ∀ o ∈ history, o.Bookkeeping) :
    port.RoutesAs port.switchboard history ∧
      (port.switchboard.Undisturbed history → sim.RoutesAs port.switchboard history) ∧
      (port.switchboard.Undisturbed history ↔ ∀ before text, before <+: history →
        sim.called (before ++ [.line text]) = port.called (before ++ [.line text])) := by
  have hport {h : List (Occasion σ)} (hcode : ∀ o ∈ h, o.Bookkeeping) :
      port.RoutesAs port.switchboard h :=
    SerialPort.inStep.routesAs ⟨rfl, 0, start.port_shows⟩ hcode (Machine.throughout_always _ _)
  have hsim : sim.state = port.switchboard.state ∧
      ∃ since, Simulator.Shows [] since port.switchboard.channel sim.channel :=
    ⟨start.state, 0, start.sim_shows⟩
  refine ⟨hport code, Simulator.inStep.routesAs hsim code, ?_, ?_⟩
  · intro undisturbed before text hbefore
    have hcode : ∀ o ∈ before, o.Bookkeeping := fun o ho => code o (hbefore.subset ho)
    rw [Simulator.inStep.called_next hsim hcode (Machine.throughout_of_prefix hbefore undisturbed),
      (hport (bookkeeping_line hcode text)).1]
  · intro alike
    refine Classical.byContradiction fun disturbed => ?_
    obtain ⟨before, text, rest, rfl, hbefore, hline⟩ := Machine.disturbed_cases disturbed
    obtain ⟨hcode, -⟩ := List.forall_mem_append.mp code
    obtain ⟨hstate, since, hshows⟩ := Simulator.inStep.meetAll hsim hcode hbefore
    have hpast := Simulator.inStep.called_next hsim hcode hbefore (.line text)
    have hagain := Simulator.called_again hstate hshows hline
    -- The same line comes once more.
    have hsame := alike (before ++ [.line text]) text ⟨rest, by rw [List.append_assoc]; rfl⟩
    rw [(hport (bookkeeping_line (bookkeeping_line hcode text) text)).1,
      Machine.called_append _ (before ++ _), Machine.called_append _ (before ++ _), hpast,
      List.append_cancel_left_eq, Machine.meetAll_append, Machine.meetAll_append,
      Machine.called_single, Machine.called_single] at hsame
    have hnobody : (port.switchboard.meetAll before).calledBy (.line text) = [] :=
      List.append_left_eq_self.mp (hagain.symm.trans hsame)
    exact Machine.called_of_not_calm hline hnobody

/-- Has lines on the presence of the SIM handled from now on. -/
def handling (handler : Act Unit Unit) : Occasion Unit :=
  .code (discard (Act.register "#QSS:" fun _ => handler)).routine

/-- The handler has such lines handled once more. -/
def doubling : List (Occasion Unit) :=
  [handling (discard (Act.register "#QSS:" fun _ => pure ())), .line "#QSS: 1", .line "#QSS: 2"]

theorem lines_routed_alike_iff_doubling :
    let port : Machine SerialPort Unit := ⟨SerialPort.opened, ()⟩
    let sim : Machine Simulator Unit := ⟨Simulator.empty, ()⟩
    SameHandlers port sim ∧ (∀ o ∈ doubling, o.Bookkeeping) ∧
      (sim.called doubling).map Prod.fst = ["#QSS: 1", "#QSS: 2", "#QSS: 2"] ∧
      (port.called doubling).map Prod.fst = ["#QSS: 1", "#QSS: 2", "#QSS: 2"] ∧
      (port.meetAll doubling).channel.handlers.length = 3 := by
  intro port sim
  have hstart : SameHandlers port sim := ⟨rfl, rfl, rfl, rfl, rfl, rfl, nofun⟩
  have hcode : ∀ o ∈ doubling, o.Bookkeeping := by
    have hhandling : (handling (discard (Act.register "#QSS:" fun _ => pure ()))).Bookkeeping :=
      .register _ _ _ (fun _ => .register _ _ _ (fun _ => .done) fun _ => .done) fun _ => .done
    exact List.forall_mem_cons.mpr ⟨hhandling, List.forall_mem_cons.mpr
      ⟨trivial, List.forall_mem_cons.mpr ⟨trivial, nofun⟩⟩⟩
  have hcalm : port.switchboard.Undisturbed doubling := ⟨trivial, rfl, rfl, trivial⟩
  obtain ⟨⟨hport, -, hhandlers⟩, halike, -⟩ := lines_routed_alike_iff hstart hcode
  refine ⟨hstart, hcode, ?_, ?_, ?_⟩
  · rw [(halike hcalm).1]
    rfl
  · rw [hport]
    rfl
  · exact (congrArg List.length hhandlers).trans rfl

/-- The handler has all handlers dropped. -/
def dropping : List (Occasion Unit) :=
  [handling Act.unregisterAll, .line "#QSS: 1", .line "#QSS: 2"]

/-- On the serial line it is gone then; the scripted modem gives it the next line, too. -/
theorem dropped_handler_called :
    let port : Machine SerialPort Unit := ⟨SerialPort.opened, ()⟩
    let sim : Machine Simulator Unit := ⟨Simulator.empty, ()⟩
    SameHandlers port sim ∧ (∀ o ∈ dropping, o.Bookkeeping) ∧
      (port.called dropping).map Prod.fst = ["#QSS: 1"] ∧
      (sim.called dropping).map Prod.fst = ["#QSS: 1", "#QSS: 2"] := by
  have hcode : ∀ o ∈ dropping, o.Bookkeeping :=
    List.forall_mem_cons.mpr ⟨.register _ _ _ (fun _ => .unregisterAll _ .done) fun _ => .done,
      List.forall_mem_cons.mpr ⟨trivial, List.forall_mem_cons.mpr ⟨trivial, nofun⟩⟩⟩
  exact ⟨⟨rfl, rfl, rfl, rfl, rfl, rfl, nofun⟩, hcode, rfl, rfl⟩

end CellModem
