import CellModem.Proofs.Conduct.Channels

/-!
# Channels that do not look at whom they keep

What a channel does with a command or a line depends on the command or the line alone, not on who
waits or handles it. So whoever is kept can be told apart by something the channel does not know of.
-/

namespace CellModem

variable {κ γ : Type}

/-- What comes of the command, with the channel seen so. -/
def Sent.map (f : κ → γ) : Sent κ → Sent γ
  | .refused channel => .refused (f channel)
  | .answered channel response => .answered (f channel) response
  | .held channel => .held (f channel)

def Handler.map (f : κ → γ) (h : Handler κ) : Handler γ := ⟨h.lead, f h.handler⟩

open Attended in
class Impartial (C : Type → Type) [Channel C] [Attended C] where
  map {κ γ : Type} (f : κ → γ) : C κ → C γ
  send {κ γ : Type} (f : κ → γ) (c : C κ) (command : String) (leads : List String) (k : κ) :
    Channel.send (map f c) command leads (f k) = (Channel.send c command leads k).map (map f)
  register {κ γ : Type} (f : κ → γ) (c : C κ) (lead : String) (k : κ) :
    Channel.register (map f c) lead (f k)
      = (Channel.register c lead k).map fun (id, c) => (id, map f c)
  unregisterAll {κ γ : Type} (f : κ → γ) (c : C κ) :
    Channel.unregisterAll (map f c) = map f (Channel.unregisterAll c)
  cancelAll {κ γ : Type} (f : κ → γ) (c : C κ) :
    Channel.cancelAll (map f c) = map f (Channel.cancelAll c)
  close {κ γ : Type} (f : κ → γ) (c : C κ) : Channel.close (map f c) = map f (Channel.close c)
  traffic {κ γ : Type} (f : κ → γ) (c : C κ) : Channel.traffic (map f c) = Channel.traffic c
  answers {κ γ : Type} (f : κ → γ) {c c' : C κ} {input : Attended.Input C}
    {answered : List (κ × Response)} (delivered : deliver c input = .answers c' answered) :
    deliver (map f c) input = .answers (map f c') (answered.map (Prod.map f id))
  hears {κ γ : Type} (f : κ → γ) {c c' : C κ} {input : Attended.Input C}
    {handlers : List (Handler κ)} {line : String} {back : C κ → C κ}
    (delivered : deliver c input = .hears c' handlers line back) :
    ∃ back' : C γ → C γ,
      deliver (map f c) input = .hears (map f c') (handlers.map (Handler.map f)) line back' ∧
        ∀ d, back' (map f d) = map f (back d)

/-! ## The serial line -/

def Pending.map (f : κ → γ) (p : Pending κ) : Pending γ := ⟨p.command, p.leads, f p.waiting⟩

def InFlight.map (f : κ → γ) (c : InFlight κ) : InFlight γ := ⟨c.pending.map f, c.lines⟩

def Attempt.map (f : κ → γ) (a : Attempt κ) : Attempt γ := ⟨a.pending.map f, a.fault⟩

theorem Attempt.failed_map (f : κ → γ) (attempts : List (Attempt κ)) :
    failed (attempts.map (Attempt.map f)) = (failed attempts).map f := by
  unfold failed
  rw [List.filter_map, List.map_map, List.map_map]
  rfl

namespace SerialPort

def map (f : κ → γ) (port : SerialPort κ) : SerialPort γ where
  queue := port.queue.map (Pending.map f)
  current := port.current.map (InFlight.map f)
  closed := port.closed
  faults := port.faults
  wire := port.wire
  handlers := port.handlers.map (Handler.map f)
  generation := port.generation
  nextId := port.nextId

theorem drain_map (f : κ → γ) (port : SerialPort κ) (queue : List (Pending κ)) :
    (port.map f).drain (queue.map (Pending.map f))
      = ((port.drain queue).1.map (Attempt.map f), (port.drain queue).2.map f) := by
  induction queue generalizing port with
  | nil => rfl
  | cons next queue ih =>
    let attempt : Attempt κ := ⟨next, port.faults.head?.join⟩
    have hrest := ih { port with faults := port.faults.tail, wire := port.wire ++ attempt.written }
    have hfaults : (port.map f).faults = port.faults := rfl
    rw [List.map_cons, drain, drain, hfaults]
    dsimp only
    split
    · rfl
    · exact congrArg (fun drained => (attempt.map f :: drained.1, drained.2)) hrest

theorem advance_map (f : κ → γ) (port : SerialPort κ) :
    (port.map f).advance = (port.advance.1.map (Attempt.map f), port.advance.2.map f) := by
  cases hcurrent : port.current with
  | some c =>
    have hbusy : (port.map f).current = some (c.map f) := by
      unfold map
      rw [hcurrent]
      rfl
    rw [advance_busy _ hcurrent, advance_busy _ hbusy]
    rfl
  | none =>
    have hfree : (port.map f).current = none := by
      unfold map
      rw [hcurrent]
      rfl
    rw [advance_free _ hcurrent, advance_free _ hfree]
    exact port.drain_map f port.queue

theorem enqueue_map (f : κ → γ) (port : SerialPort κ) (p : Pending κ) :
    (port.map f).enqueue (p.map f) = (port.enqueue p).map f := by
  unfold enqueue map
  simp

theorem send_map (f : κ → γ) (port : SerialPort κ) (command : String) (leads : List String)
    (waiting : κ) : (port.map f).send command leads (f waiting)
      = (port.send command leads waiting).map (map f) := by
  have hadvance := (port.enqueue ⟨command, leads, waiting⟩).advance_map f
  rw [← enqueue_map] at hadvance
  have hclosed : (port.map f).closed = port.closed := rfl
  have hnext : (⟨command, leads, f waiting⟩ : Pending γ)
      = (⟨command, leads, waiting⟩ : Pending κ).map f := rfl
  unfold send
  rw [hclosed, hnext, hadvance]
  split
  · rfl
  · dsimp only
    rw [Attempt.failed_map]
    cases Attempt.failed (port.enqueue ⟨command, leads, waiting⟩).advance.1 <;> rfl

theorem restored_map (f : κ → γ) (before after : SerialPort κ) :
    (before.map f).restored (after.map f) = (before.restored after).map f := by
  unfold restored map
  dsimp only
  split
  · rw [List.map_append]
  · rfl

theorem receive_map (f : κ → γ) (port : SerialPort κ) (line : String) :
    (port.map f).receive line = match port.receive line with
      | .final port waiting response failed =>
        .final (port.map f) (f waiting) response (failed.map f)
      | .kept port => .kept (port.map f)
      | .unsolicited => .unsolicited := by
  have hadvance := ({ port with current := none } : SerialPort κ).advance_map f
  unfold receive
  cases hcurrent : port.current with
  | none =>
    have hfree : (port.map f).current = none := by
      unfold map
      rw [hcurrent]
      rfl
    rw [hfree]
  | some c =>
    have hbusy : (port.map f).current = some (c.map f) := by
      unfold map
      rw [hcurrent]
      rfl
    have hfreed : { port.map f with current := none }
        = ({ port with current := none } : SerialPort κ).map f := rfl
    have hleads : (c.map f).pending.leads = c.pending.leads := rfl
    rw [hbusy]
    dsimp only
    rw [hfreed, hadvance, hleads]
    split
    · dsimp only
      rw [Attempt.failed_map]
      rfl
    · split
      · rfl
      · rfl

end SerialPort

instance : Impartial SerialPort where
  map := SerialPort.map
  send := SerialPort.send_map
  register f port lead k := by
    change (port.map f).register lead (f k) = (port.register lead k).map _
    unfold SerialPort.register
    have hclosed : (port.map f).closed = port.closed := rfl
    rw [hclosed]
    split
    · rfl
    · unfold SerialPort.map
      simp [Handler.map]
  unregisterAll _ _ := rfl
  cancelAll _ _ := rfl
  close _ _ := rfl
  traffic _ _ := rfl
  answers := by
    intro κ γ f c c' input answered delivered
    change c.deliver input = _ at delivered
    change (c.map f).deliver input = _
    cases input with
    | faults faults =>
      obtain ⟨rfl, rfl⟩ := Delivery.answers.inj delivered
      rfl
    | close =>
      obtain ⟨rfl, rfl⟩ := Delivery.answers.inj delivered
      rfl
    | line text =>
      unfold SerialPort.deliver at delivered ⊢
      dsimp only at delivered ⊢
      rw [c.receive_map f text]
      cases hreceived : c.receive text with
      | final port waiting response failed =>
        rw [hreceived] at delivered
        obtain ⟨rfl, rfl⟩ := Delivery.answers.inj delivered
        simp [Function.comp_def]
      | kept port =>
        rw [hreceived] at delivered
        obtain ⟨rfl, rfl⟩ := Delivery.answers.inj delivered
        rfl
      | unsolicited =>
        rw [hreceived] at delivered
        cases delivered
  hears := by
    intro κ γ f c c' input handlers line back delivered
    change c.deliver input = _ at delivered
    change ∃ back', (c.map f).deliver input = _ ∧ _
    cases input with
    | faults faults => cases delivered
    | close => cases delivered
    | line text =>
      unfold SerialPort.deliver at delivered ⊢
      dsimp only at delivered ⊢
      rw [c.receive_map f text]
      cases hreceived : c.receive text with
      | final port waiting response failed =>
        rw [hreceived] at delivered
        cases delivered
      | kept port =>
        rw [hreceived] at delivered
        cases delivered
      | unsolicited =>
        rw [hreceived] at delivered
        obtain ⟨rfl, rfl, rfl, rfl⟩ := Delivery.hears.inj delivered
        exact ⟨_, rfl, c.restored_map f⟩

/-! ## The scripted modem -/

namespace Simulator

def map (f : κ → γ) (s : Simulator κ) : Simulator γ where
  sticky := s.sticky
  once := s.once
  unscripted := s.unscripted
  accepting := s.accepting
  deferred := s.deferred
  queued := s.queued.map (Prod.map f id)
  sent := s.sent
  handlers := s.handlers.map (Handler.map f)
  nextId := s.nextId

theorem answer_map (f : κ → γ) (s : Simulator κ) (command : String) :
    (s.map f).answer command = ((s.answer command).1, (s.answer command).2.map f) := by
  have honce : (s.map f).once = s.once := rfl
  unfold answer
  rw [honce]
  split <;> rfl

theorem send_map (f : κ → γ) (s : Simulator κ) (command : String) (leads : List String)
    (waiting : κ) : (s.map f).send command leads (f waiting)
      = (s.send command leads waiting).map (map f) := by
  have haccepting : (s.map f).accepting = s.accepting := rfl
  unfold send
  rw [haccepting, answer_map]
  split
  · have hdeferred : ((s.answer command).2.map f).deferred = (s.answer command).2.deferred := rfl
    dsimp only
    rw [hdeferred]
    split
    · unfold map Sent.map
      simp
    · rfl
  · rfl

end Simulator

instance : Impartial Simulator where
  map := Simulator.map
  send := Simulator.send_map
  register f s lead k := by
    change (s.map f).register lead (f k) = (s.register lead k).map _
    have haccepting : (s.map f).accepting = s.accepting := rfl
    unfold Simulator.register
    rw [haccepting]
    split
    · unfold Simulator.map
      simp [Handler.map]
    · rfl
  unregisterAll _ _ := rfl
  cancelAll _ _ := rfl
  close _ _ := rfl
  traffic _ _ := rfl
  answers := by
    intro κ γ f s s' input answered delivered
    change s.deliver input = _ at delivered
    change (s.map f).deliver input = _
    cases input with
    | flush =>
      obtain ⟨rfl, rfl⟩ := Delivery.answers.inj delivered
      rfl
    | line text => cases delivered
    | script sticky once unscripted accepting deferred =>
      obtain ⟨rfl, rfl⟩ := Delivery.answers.inj delivered
      rfl
  hears := by
    intro κ γ f s s' input handlers line back delivered
    change s.deliver input = _ at delivered
    change ∃ back', (s.map f).deliver input = _ ∧ _
    cases input with
    | flush => cases delivered
    | line text =>
      obtain ⟨rfl, rfl, rfl, rfl⟩ := Delivery.hears.inj delivered
      refine ⟨_, rfl, fun d => ?_⟩
      unfold Simulator.map
      simp
    | script sticky once unscripted accepting deferred => cases delivered

end CellModem
