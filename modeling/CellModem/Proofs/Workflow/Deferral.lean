import Mathlib.Logic.Function.Iterate
import CellModem.Channel.Simulator
import CellModem.Proofs.Workflow.Tree

/-!
# Answers at once and answers kept back

The scripted modem answers a command at once, or keeps the answer until it is let go. Code that
sends commands in turn and waits for each comes to the same either way: with answers kept back, one
answer waits at any time, and letting it go brings the code to its next command.
-/

namespace CellModem

variable {κ σ α : Type}

/-! ## One command -/

namespace Simulator

def deferring (s : Simulator κ) (on : Bool) : Simulator κ := { s with deferred := on }

theorem answer_deferring (s : Simulator κ) (on : Bool) (command : String) :
    (s.deferring on).answer command
      = ((s.answer command).1, (s.answer command).2.deferring on) := by
  unfold answer deferring
  dsimp only
  cases takeFirst command s.once with
  | none => rfl
  | some found => rfl

theorem taken_deferring (s : Simulator κ) (on : Bool) (command : String) :
    (s.deferring on).taken command = (s.taken command).deferring on := by
  unfold taken
  rw [answer_deferring]
  rfl

theorem send_prompt (s : Simulator κ) (accepting : s.accepting = true) (command : String)
    (leads : List String) (waiting : κ) :
    (s.deferring false).send command leads waiting
      = .answered ((s.taken command).deferring false)
          ((s.answer command).1.filtered leads) := by
  have haccepting : (s.deferring false).accepting = true := accepting
  rw [send_accepted _ haccepting, taken_deferring, answer_deferring]
  rfl

theorem send_deferred (s : Simulator κ) (accepting : s.accepting = true) (command : String)
    (leads : List String) (waiting : κ) :
    (s.deferring true).send command leads waiting
      = .held { (s.taken command).deferring true with
          queued := s.queued ++ [(waiting, (s.answer command).1.filtered leads)] } := by
  have haccepting : (s.deferring true).accepting = true := accepting
  rw [send_accepted _ haccepting, taken_deferring, answer_deferring]
  rfl

end Simulator

/-! ## Letting answers go -/

namespace Machine

def deferring (m : Machine Simulator σ) (on : Bool) : Machine Simulator σ :=
  { m with channel := m.channel.deferring on }

/-- The machine comes to rest in so many flushes, each of which finds one answer. -/
inductive Drains : Nat → Machine Simulator σ → Machine Simulator σ → Prop where
  | idle (m : Machine Simulator σ) (nothing : m.channel.queued = []) : Drains 0 m m
  | flush {n : Nat} {m rested : Machine Simulator σ} (kept : Resume σ × Response)
    (queued : m.channel.queued = [kept]) (rest : Drains n m.flush.2 rested) :
    Drains (n + 1) m rested

theorem flush_idle (m : Machine Simulator σ) (nothing : m.channel.queued = []) :
    m.flush = (0, m) := by
  obtain ⟨channel, state⟩ := m
  cases channel
  cases nothing
  rfl

theorem runUntilIdle_flush {m flushed : Machine Simulator σ} {count : Nat}
    (flush : m.flush = (count + 1, flushed)) (rounds : Nat) : m.runUntilIdle (rounds + 1)
      = (count + 1 + (flushed.runUntilIdle rounds).1, (flushed.runUntilIdle rounds).2) := by
  rw [runUntilIdle, flush]
  rfl

theorem Drains.runUntilIdle {n : Nat} {m rested : Machine Simulator σ} (h : Drains n m rested)
    {rounds : Nat} (enough : n < rounds) : m.runUntilIdle rounds = (n, rested) := by
  induction h generalizing rounds with
  | idle m nothing =>
    obtain ⟨rounds, rfl⟩ := Nat.exists_eq_succ_of_ne_zero (Nat.ne_of_gt enough)
    simp only [Machine.runUntilIdle, flush_idle m nothing]
  | @flush n m rested kept queued rest ih =>
    obtain ⟨rounds, rfl⟩ := Nat.exists_eq_succ_of_ne_zero (Nat.ne_of_gt (Nat.zero_lt_of_lt enough))
    have hone : m.flush = (0 + 1, m.flush.2) := by
      unfold Machine.flush
      rw [queued]
      rfl
    rw [runUntilIdle_flush hone, ih (Nat.lt_of_succ_lt_succ enough)]
    simp only [Nat.zero_add, Nat.add_comm]

/-- However often it has been flushed, one answer waits at most. -/
theorem Drains.queued_flushed {n : Nat} {m rested : Machine Simulator σ} (h : Drains n m rested)
    (k : Nat) : (Nat.iterate (fun m => m.flush.2) k m).channel.queued.length ≤ 1 := by
  induction h generalizing k with
  | idle m nothing =>
    have hstays : Nat.iterate (fun m => m.flush.2) k m = m := by
      refine Function.iterate_fixed ?_ k
      rw [flush_idle m nothing]
    rw [hstays, nothing]
    exact Nat.zero_le 1
  | @flush n m rested kept queued rest ih =>
    cases k with
    | zero =>
      change m.channel.queued.length ≤ 1
      rw [queued]
      exact Nat.le_refl 1
    | succ k => exact ih k

end Machine

/-! ## Code -/

namespace Routine

/-- Answered at once, the code issues some commands and replies. With every answer kept back it comes
to rest in as many flushes, and to the same. -/
def Agrees (reply : Except Error α → σ → σ) (r : Routine σ) : Prop :=
  ∀ m : Machine Simulator σ, m.channel.queued = [] →
    let prompt := r.exec (m.deferring false)
    ∃ commands result, prompt.channel.sent = m.channel.sent ++ commands ∧
      prompt.state = reply result m.state ∧ prompt.channel.queued = [] ∧
      Machine.Drains commands.length (r.exec (m.deferring true)) (prompt.deferring true)

theorem agrees_reply (reply : Except Error α → σ → σ) (result : Except Error α) :
    (read fun s => write (reply result s) done).Agrees reply := by
  intro m idle
  exact ⟨[], result, (List.append_nil _).symm, rfl, idle, .idle _ idle⟩

theorem agrees_send {reply : Except Error α → σ → σ} (command : String) (leads : List String)
    (next : Option Response → Routine σ) (h : ∀ answer, (next answer).Agrees reply) :
    (send command leads next).Agrees reply := by
  intro m idle
  dsimp only
  cases haccepting : m.channel.accepting with
  | false =>
    -- The command is refused either way, and the code goes on at once.
    have hrefused : ∀ on, (send command leads next).exec (m.deferring on)
        = (next none).exec (m.deferring on) :=
      fun on => exec_refused ((m.channel.deferring on).send_refused haccepting command leads _)
    rw [hrefused, hrefused]
    exact h none m idle
  | true =>
    have hidle := (m.channel.queued_taken command).trans idle
    obtain ⟨commands, result, hsent, hstate, hnothing, hdrains⟩ :=
      h (some ((m.channel.answer command).1.filtered leads))
        { m with channel := m.channel.taken command } hidle
    rw [exec_answered (m.channel.send_prompt haccepting command leads _),
      exec_held (m.channel.send_deferred haccepting command leads _), idle]
    refine ⟨command :: commands, result, ?_, hstate, hnothing, .flush _ rfl ?_⟩
    · rw [List.append_cons, ← m.channel.sent_taken command]
      exact hsent
    · -- The code goes on from where it would be had it been answered at once.
      have hcleared : { (m.channel.taken command).deferring true with queued := [] }
          = (m.channel.taken command).deferring true := by
        rw [← hidle]
        rfl
      unfold Machine.flush Machine.resumeAll
      dsimp only [List.nil_append, List.foldl]
      rw [hcleared]
      exact hdrains

end Routine

namespace StepTree

/-- The host replies to a step by a change of its state. -/
def acting (tree : StepTree α) (reply : Except Error α → σ → σ) : Act σ Unit := do
  let result ← tree.step.run
  modify (reply result)

/-- Whether answers come at once or are kept back and let go until there are none, a step sends the
same commands, comes to the same single reply and leaves the same script. With answers kept back
there is never more than one of them, and as many are let go as commands were sent. -/
theorem deferred_eq_prompt (tree : StepTree α) (reply : Except Error α → σ → σ)
    (m : Machine Simulator σ) (idle : m.channel.queued = []) :
    let prompt := (m.deferring false).start (tree.acting reply)
    let deferred := (m.deferring true).start (tree.acting reply)
    ∃ commands result, prompt.channel.sent = m.channel.sent ++ commands ∧
      prompt.state = reply result m.state ∧ prompt.channel.queued = [] ∧
      (∀ rounds, commands.length < rounds →
        deferred.runUntilIdle rounds = (commands.length, prompt.deferring true)) ∧
      ∀ k, (Nat.iterate (fun m => m.flush.2) k deferred).channel.queued.length ≤ 1 := by
  have hagrees : (tree.acting reply).routine.Agrees reply :=
    tree.passes (Routine.Agrees reply) Routine.agrees_send
      (fun result => .read fun s => .write (reply result s) .done) (Routine.agrees_reply reply)
  obtain ⟨commands, result, hsent, hstate, hnothing, hdrains⟩ := hagrees m idle
  exact ⟨commands, result, hsent, hstate, hnothing, fun _ => hdrains.runUntilIdle,
    hdrains.queued_flushed⟩

/-- Switches the radio on and asks for its state. -/
def switchingOn : StepTree Int :=
  .andThen (.command "AT+CFUN=1") fun _ => .transaction (.query "AT+CFUN?" "+CFUN:" .integer)

/-- A modem that gives the state once, and acknowledges all else. -/
def switchable : Machine Simulator (List (Except Error Int)) where
  channel := { Simulator.empty.respondOnce "AT+CFUN?" (.success ["+CFUN: 1"]) with unscripted := .ok }
  state := []

theorem deferred_eq_prompt_switchingOn : switchable.channel.queued = [] ∧
    ∃ rested, ((switchable.deferring true).start (switchingOn.acting fun result replies =>
        replies ++ [result])).runUntilIdle 3 = (2, rested) ∧
      rested.state = [.ok 1] ∧ rested.channel.once = [] ∧
      rested.channel.sent = ["AT+CFUN=1", "AT+CFUN?"] := by
  obtain ⟨commands, result, hsent, -, -, hruns, -⟩ :=
    deferred_eq_prompt switchingOn (fun result replies => replies ++ [result]) switchable rfl
  obtain rfl : ["AT+CFUN=1", "AT+CFUN?"] = commands := hsent
  exact ⟨rfl, _, hruns 3 (by decide), rfl, rfl, rfl⟩

end StepTree

end CellModem
