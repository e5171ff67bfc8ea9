import CellModem.Channel.SerialPort
import CellModem.Channel.Simulator
import CellModem.Proofs.Conduct.Attended

/-!
# What happens on the serial line and on the scripted modem
-/

namespace CellModem

open scoped List

variable {σ κ : Type}

/-! ## The serial line -/

namespace SerialPort

inductive Input where
  | line (text : String)
  /-- From now on the commands are written so. -/
  | faults (faults : List (Option WriteFault))
  | close

/-- Who waits for an answer, in the order of the commands. -/
def everyone (port : SerialPort κ) : List κ :=
  port.current.toList.map (·.pending.waiting) ++ port.queue.map (·.waiting)

/-- The port after a line was handed round: the handlers from before are put back, unless all have
been dropped meanwhile. -/
def restored (before after : SerialPort κ) : SerialPort κ :=
  if after.generation = before.generation then
    { after with handlers := before.handlers ++ after.handlers }
  else after

def deliver (port : SerialPort κ) : Input → Delivery SerialPort κ
  | .faults faults => .answers { port with faults := faults } []
  | .close => .answers port.close []
  | .line text =>
    match port.receive text with
    | .final port waiting response failed =>
      .answers port ((waiting, response) :: failed.map fun waiting => (waiting, writeFailed))
    | .kept port => .answers port []
    | .unsolicited => .hears { port with handlers := [] } port.handlers text port.restored

end SerialPort

instance : Attended SerialPort where
  Input := SerialPort.Input
  deliver := SerialPort.deliver
  waiting := SerialPort.everyone
  handlers := SerialPort.handlers
  backlog port := port.queue.map (·.command)
  written command := command ++ "\r"

theorem Attempt.flatMap_written (attempts : List (Attempt κ)) :
    attempts.flatMap written =
      ((attempts.filter (·.fault ≠ some .write)).map (·.pending.command)).map (· ++ "\r") := by
  induction attempts with
  | nil => rfl
  | cons a rest ih =>
    rw [List.flatMap_cons, ih]
    unfold written
    by_cases hwrite : a.fault = some .write <;> simp [hwrite]

namespace SerialPort

open Attended

/-- Everyone in the queue is turned away, or waits still. -/
theorem everyone_drain (port : SerialPort κ) (free : port.current = none)
    (queue : List (Pending κ)) :
    Attempt.failed (port.drain queue).1 ++ (port.drain queue).2.everyone
      = queue.map (·.waiting) := by
  obtain ⟨tried, taken, rest, hattempts, rfl, hfaults, hcurrent, hrest, -⟩ :=
    port.drain_cases free queue
  unfold everyone
  rw [hattempts, Attempt.failed_row tried taken hfaults, hcurrent, hrest]
  cases taken <;> simp

theorem handlers_drain (port : SerialPort κ) (queue : List (Pending κ)) :
    (port.drain queue).2.handlers = port.handlers := by
  induction queue generalizing port with
  | nil => rfl
  | cons next queue ih =>
    rw [drain]
    dsimp only
    split
    · rfl
    · exact ih _

/-- What is written was in the queue, and what is left in it is behind that. -/
theorem commands_drain (port : SerialPort κ) (free : port.current = none)
    (queue : List (Pending κ)) : ∃ sent,
      (port.drain queue).2.wire = port.wire ++ sent.map (· ++ "\r") ∧
        sent ++ (port.drain queue).2.queue.map (·.command) <+ queue.map (·.command) := by
  obtain ⟨tried, taken, rest, hattempts, hqueue, -, -, hrest, -⟩ := port.drain_cases free queue
  refine ⟨((port.drain queue).1.filter (·.fault ≠ some .write)).map (·.pending.command), ?_, ?_⟩
  · rw [wire_drain, Attempt.flatMap_written]
  · have hall : (port.drain queue).1.map (·.pending.command) ++ rest.map (·.command)
        = queue.map (·.command) := by
      rw [hattempts, hqueue]
      unfold Attempt.row
      cases taken <;> simp
    rw [hrest, ← hall]
    exact (List.filter_sublist.map _).append (List.Sublist.refl _)

theorem everyone_advance (port : SerialPort κ) :
    Attempt.failed port.advance.1 ++ port.advance.2.everyone = port.everyone := by
  cases hcurrent : port.current with
  | some c =>
    rw [advance_busy port hcurrent]
    rfl
  | none =>
    rw [advance_free port hcurrent, everyone_drain port hcurrent]
    unfold everyone
    rw [hcurrent]
    rfl

theorem handlers_advance (port : SerialPort κ) : port.advance.2.handlers = port.handlers := by
  unfold advance
  split
  · rfl
  · exact port.handlers_drain port.queue

theorem onward_advance (port : SerialPort κ) : Onward port [] port.advance.2 := by
  cases hcurrent : port.current with
  | some c =>
    rw [advance_busy port hcurrent]
    exact .refl port
  | none =>
    rw [advance_free port hcurrent]
    obtain ⟨sent, hwire, hsent⟩ := port.commands_drain hcurrent port.queue
    exact ⟨sent, hwire, hsent.trans (List.sublist_append_left _ _)⟩

/-- What a command that is sent makes of an open port. -/
theorem enqueue_advance (port : SerialPort κ) (p : Pending κ) :
    Attempt.failed (port.enqueue p).advance.1 ++ (port.enqueue p).advance.2.everyone
        = port.everyone ++ [p.waiting] ∧
      (port.enqueue p).advance.2.handlers = port.handlers ∧
      Onward port [p.command] (port.enqueue p).advance.2 := by
  refine ⟨?_, handlers_advance _, ?_⟩
  · rw [everyone_advance]
    simp [everyone, enqueue]
  · have henqueued : Onward port [p.command] (port.enqueue p) :=
      ⟨[], (List.append_nil _).symm, by simp [backlog, enqueue]⟩
    exact henqueued.trans (onward_advance _)

theorem receive_final_facts {port after : SerialPort κ} {line : String} {waiting : κ}
    {response : Response} {failed : List κ}
    (h : port.receive line = .final after waiting response failed) :
    waiting :: failed ++ after.everyone = port.everyone ∧ after.handlers = port.handlers ∧
      Onward port [] after := by
  unfold receive at h
  split at h
  · cases h
  · next c hcurrent =>
    split at h
    · let freed : SerialPort κ := { port with current := none }
      have h : Received.final freed.advance.2 c.pending.waiting ⟨line = "OK", line, c.lines⟩
        (Attempt.failed freed.advance.1) = .final after waiting response failed := h
      have heveryone := freed.everyone_advance
      have hhandlers := freed.handlers_advance
      have honward : Onward port [] freed.advance.2 := freed.onward_advance
      rw [Received.final.injEq] at h
      obtain ⟨rfl, rfl, -, rfl⟩ := h
      refine ⟨?_, hhandlers, honward⟩
      rw [List.cons_append, heveryone]
      unfold everyone
      rw [hcurrent]
      rfl
    · split at h <;> cases h

theorem receive_kept_facts {port after : SerialPort κ} {line : String}
    (h : port.receive line = .kept after) :
    after.everyone = port.everyone ∧ after.handlers = port.handlers ∧ Onward port [] after := by
  unfold receive at h
  split at h
  · cases h
  · next c hcurrent =>
    split at h
    · cases h
    · split at h
      · obtain rfl := Received.kept.inj h
        refine ⟨?_, rfl, .refl port⟩
        unfold everyone
        rw [hcurrent]
        rfl
      · cases h

theorem restored_facts (port after : SerialPort κ) :
    (port.restored after).everyone = after.everyone ∧
      (∀ h ∈ (port.restored after).handlers, h ∈ port.handlers ∨ h ∈ after.handlers) ∧
      Onward after [] (port.restored after) := by
  unfold restored
  split
  · exact ⟨rfl, fun _ hh => List.mem_append.mp hh, .refl after⟩
  · exact ⟨rfl, fun _ hh => .inr hh, .refl after⟩

theorem lessened_of_everyone {port port' : SerialPort κ} (heveryone : port'.everyone <+ port.everyone)
    (hhandlers : ∀ h ∈ port'.handlers, h ∈ port.handlers)
    (hqueue : port'.queue.map (·.command) <+ port.queue.map (·.command))
    (hwire : port'.wire = port.wire) : Lessened port port' where
  waiting := heveryone
  handlers := hhandlers
  onward := ⟨[], by simp [Channel.traffic, hwire], by simpa [backlog] using hqueue⟩

end SerialPort

open Attended in
instance : AttendedLaws SerialPort where
  refused := by
    intro κ c c' command leads k hsent
    change c.send command leads k = _ at hsent
    unfold SerialPort.send at hsent
    split at hsent
    · obtain rfl := Sent.refused.inj hsent
      exact SerialPort.lessened_of_everyone (List.Sublist.refl _) (fun _ hh => hh)
        (List.Sublist.refl _) rfl
    · dsimp only at hsent
      split at hsent <;> cases hsent
  answered := by
    intro κ c c' command leads k response hsent
    change c.send command leads k = _ at hsent
    unfold SerialPort.send at hsent
    split at hsent
    · cases hsent
    · obtain ⟨heveryone, hhandlers, honward⟩ := c.enqueue_advance ⟨command, leads, k⟩
      dsimp only at hsent
      split at hsent
      · cases hsent
      · next first rest hfailed =>
        obtain ⟨rfl, -⟩ := Sent.answered.inj hsent
        rw [hfailed] at heveryone
        refine ⟨?_, fun hnone => ?_, hhandlers, honward⟩
        · exact heveryone ▸ List.sublist_append_right _ _
        · change c.everyone = [] at hnone
          rw [hnone] at heveryone
          exact (List.append_eq_nil_iff.mp (List.cons.inj heveryone).2).2
  held := by
    intro κ c c' command leads k hsent
    change c.send command leads k = _ at hsent
    unfold SerialPort.send at hsent
    split at hsent
    · cases hsent
    · obtain ⟨heveryone, hhandlers, honward⟩ := c.enqueue_advance ⟨command, leads, k⟩
      dsimp only at hsent
      split at hsent
      · obtain rfl := Sent.held.inj hsent
        exact ⟨heveryone ▸ List.sublist_append_right _ _, hhandlers, honward⟩
      · cases hsent
  register := by
    intro κ c c' lead k id htaken
    change c.register lead k = _ at htaken
    unfold SerialPort.register at htaken
    split at htaken
    · cases htaken
    · obtain ⟨rfl, rfl⟩ := Prod.mk.inj (Option.some.inj htaken)
      exact ⟨rfl, rfl, .refl _⟩
  unregisterAll c := ⟨SerialPort.lessened_of_everyone (List.Sublist.refl _) nofun
    (List.Sublist.refl _) rfl, rfl⟩
  cancelAll c := ⟨SerialPort.lessened_of_everyone (List.nil_sublist _) (fun _ hh => hh)
    (List.nil_sublist _) rfl, rfl, rfl, rfl⟩
  close c := SerialPort.lessened_of_everyone (List.nil_sublist _) (fun _ hh => hh)
    (List.nil_sublist _) rfl
  answers := by
    intro κ c c' input list hdelivered
    change c.deliver input = _ at hdelivered
    cases input with
    | faults faults =>
      obtain ⟨rfl, rfl⟩ := Delivery.answers.inj hdelivered
      exact ⟨List.Sublist.refl _, rfl, .refl _⟩
    | close =>
      obtain ⟨rfl, rfl⟩ := Delivery.answers.inj hdelivered
      have hclosed : Lessened c c.close := SerialPort.lessened_of_everyone (List.nil_sublist _)
        (fun _ hh => hh) (List.nil_sublist _) rfl
      exact ⟨hclosed.waiting, rfl, hclosed.onward⟩
    | line text =>
      unfold SerialPort.deliver at hdelivered
      dsimp only at hdelivered
      split at hdelivered
      · next port waiting response failed hreceived =>
        obtain ⟨rfl, rfl⟩ := Delivery.answers.inj hdelivered
        obtain ⟨heveryone, hhandlers, honward⟩ := SerialPort.receive_final_facts hreceived
        have hanswered : ((waiting, response) :: failed.map fun waiting =>
            (waiting, SerialPort.writeFailed)).map Prod.fst = waiting :: failed := by
          rw [List.map_cons, List.map_map]
          exact congrArg (waiting :: ·) (List.map_id failed)
        rw [hanswered]
        exact ⟨heveryone.symm ▸ List.Sublist.refl _, hhandlers, honward⟩
      · next port hreceived =>
        obtain ⟨rfl, rfl⟩ := Delivery.answers.inj hdelivered
        obtain ⟨heveryone, hhandlers, honward⟩ := SerialPort.receive_kept_facts hreceived
        refine ⟨?_, hhandlers, honward⟩
        exact (List.nil_append port.everyone).symm ▸ heveryone.symm ▸ List.Sublist.refl _
      · cases hdelivered
  hears := by
    intro κ c c' input given line back hdelivered
    change c.deliver input = _ at hdelivered
    cases input with
    | faults faults => cases hdelivered
    | close => cases hdelivered
    | line text =>
      unfold SerialPort.deliver at hdelivered
      dsimp only at hdelivered
      split at hdelivered
      · cases hdelivered
      · cases hdelivered
      · obtain ⟨rfl, rfl, rfl, rfl⟩ := Delivery.hears.inj hdelivered
        exact ⟨SerialPort.lessened_of_everyone (List.Sublist.refl _) nofun (List.Sublist.refl _) rfl,
          fun _ hh => hh, c.restored_facts⟩

theorem Machine.feed_line (m : Machine SerialPort σ) (text : String) :
    m.feed (SerialPort.Input.line text) = m.receive text := by
  have hdeliver : Attended.deliver m.channel (SerialPort.Input.line text)
      = m.channel.deliver (.line text) := rfl
  unfold feed receive
  rw [hdeliver]
  unfold SerialPort.deliver
  dsimp only
  cases m.channel.receive text with
  | final port waiting response failed => rfl
  | kept port => rfl
  | unsolicited =>
    unfold dispatch SerialPort.restored
    dsimp only
    split
    · rfl
    · rfl

/-! ## The scripted modem -/

namespace Simulator

inductive Input where
  | flush
  /-- The modem sends a line on its own. -/
  | line (text : String)
  /-- From now on the modem answers so. -/
  | script (sticky once : List (String × Response)) (unscripted : Unscripted)
    (accepting deferred : Bool)

def deliver (s : Simulator κ) : Input → Delivery Simulator κ
  | .flush => .answers { s with queued := [] } s.queued
  | .line text => .hears { s with handlers := [] } s.handlers text fun after =>
    { after with handlers := s.handlers ++ after.handlers }
  | .script sticky once unscripted accepting deferred => .answers
    { s with
      sticky := sticky
      once := once
      unscripted := unscripted
      accepting := accepting
      deferred := deferred } []

end Simulator

instance : Attended Simulator where
  Input := Simulator.Input
  deliver := Simulator.deliver
  waiting s := s.queued.map Prod.fst
  handlers := Simulator.handlers
  backlog _ := []
  written command := command

namespace Simulator

open Attended

theorem lessened_of_queued {s s' : Simulator κ} (hqueued : s'.queued <+ s.queued)
    (hhandlers : ∀ h ∈ s'.handlers, h ∈ s.handlers) (hsent : s'.sent = s.sent) : Lessened s s' where
  waiting := hqueued.map _
  handlers := hhandlers
  onward := ⟨[], by simp [Channel.traffic, hsent], List.Sublist.refl _⟩

theorem handlers_taken (s : Simulator κ) (command : String) :
    (s.taken command).handlers = s.handlers := by
  unfold taken
  rw [answer_keeps]

theorem onward_taken (s : Simulator κ) (command : String) : Onward s [command] (s.taken command) :=
  ⟨[command], s.sent_taken command, List.Sublist.refl _⟩

end Simulator

open Attended in
instance : AttendedLaws Simulator where
  refused := by
    intro κ c c' command leads k hsent
    change c.send command leads k = _ at hsent
    cases haccepting : c.accepting with
    | false =>
      rw [c.send_refused haccepting] at hsent
      obtain rfl := Sent.refused.inj hsent
      exact Simulator.lessened_of_queued (List.Sublist.refl _) (fun _ hh => hh) rfl
    | true =>
      rw [c.send_accepted haccepting] at hsent
      dsimp only at hsent
      split at hsent <;> cases hsent
  answered := by
    intro κ c c' command leads k response hsent
    change c.send command leads k = _ at hsent
    cases haccepting : c.accepting with
    | false =>
      rw [c.send_refused haccepting] at hsent
      cases hsent
    | true =>
      rw [c.send_accepted haccepting] at hsent
      dsimp only at hsent
      split at hsent
      · cases hsent
      · obtain ⟨rfl, -⟩ := Sent.answered.inj hsent
        have hwaiting : waiting (c.taken command) = waiting c :=
          congrArg (List.map Prod.fst) (c.queued_taken command)
        refine ⟨?_, fun hnone => hwaiting.trans hnone, c.handlers_taken command,
          c.onward_taken command⟩
        rw [hwaiting]
        exact List.sublist_append_left _ _
  held := by
    intro κ c c' command leads k hsent
    change c.send command leads k = _ at hsent
    cases haccepting : c.accepting with
    | false =>
      rw [c.send_refused haccepting] at hsent
      cases hsent
    | true =>
      rw [c.send_accepted haccepting] at hsent
      dsimp only at hsent
      split at hsent
      · obtain rfl := Sent.held.inj hsent
        refine ⟨?_, c.handlers_taken command, c.onward_taken command⟩
        simp [waiting]
      · cases hsent
  register := by
    intro κ c c' lead k id htaken
    change c.register lead k = _ at htaken
    unfold Simulator.register at htaken
    split at htaken
    · obtain ⟨rfl, rfl⟩ := Prod.mk.inj (Option.some.inj htaken)
      exact ⟨rfl, rfl, .refl _⟩
    · cases htaken
  unregisterAll c := ⟨Simulator.lessened_of_queued (List.Sublist.refl _) nofun rfl, rfl⟩
  cancelAll c := ⟨Simulator.lessened_of_queued (List.nil_sublist _) (fun _ hh => hh) rfl, rfl, rfl, rfl⟩
  close c := Simulator.lessened_of_queued (List.nil_sublist _) (fun _ hh => hh) rfl
  answers := by
    intro κ c c' input list hdelivered
    change c.deliver input = _ at hdelivered
    cases input with
    | flush =>
      obtain ⟨rfl, rfl⟩ := Delivery.answers.inj hdelivered
      refine ⟨?_, rfl, .refl _⟩
      simp [waiting]
    | line text => cases hdelivered
    | script sticky once unscripted accepting deferred =>
      obtain ⟨rfl, rfl⟩ := Delivery.answers.inj hdelivered
      exact ⟨List.Sublist.refl _, rfl, .refl _⟩
  hears := by
    intro κ c c' input given line back hdelivered
    change c.deliver input = _ at hdelivered
    cases input with
    | flush => cases hdelivered
    | line text =>
      obtain ⟨rfl, rfl, rfl, rfl⟩ := Delivery.hears.inj hdelivered
      exact ⟨Simulator.lessened_of_queued (List.Sublist.refl _) nofun rfl, fun _ hh => hh,
        fun d => ⟨rfl, fun _ hh => List.mem_append.mp hh, .refl _⟩⟩
    | script sticky once unscripted accepting deferred => cases hdelivered

end CellModem
