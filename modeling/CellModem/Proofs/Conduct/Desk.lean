import CellModem.Proofs.Conduct.Impartial
import CellModem.Proofs.SerialLine.Moment

/-!
# Channels with calls on the stack

A desk is a channel together with the answers that calls still on the stack have to hand over. As on
a serial line, commands carry a number, how many had been accepted before them, and it is left open
what clients do: they may do anything at any time, so also while they are answered. What a machine
does is a run of the desk of its channel.
-/

namespace CellModem

open SerialPort (Ticket)
open scoped List

variable {κ σ : Type}

structure Desk (C : Type → Type) (κ : Type) where
  channel : C (Ticket κ)
  /-- The answers to be handed over, the next one first. -/
  due : List (Ticket κ × Response)
  /-- How many commands have been accepted. -/
  accepted : Nat
  /-- The numbers of the commands whose answers have been handed over, in order. -/
  completed : List Nat

namespace Desk

section

variable {C : Type → Type} [Channel C]

def send (d : Desk C κ) (command : String) (leads : List String) (waiting : κ) : Desk C κ :=
  match Channel.send d.channel command leads ⟨d.accepted, waiting⟩ with
  | .refused channel => { d with channel := channel }
  | .held channel => { d with channel := channel, accepted := d.accepted + 1 }
  | .answered channel response =>
    { d with
      channel := channel
      due := (⟨d.accepted, waiting⟩, response) :: d.due
      accepted := d.accepted + 1 }

def complete (d : Desk C κ) : Desk C κ :=
  match d.due with
  | [] => d
  | (ticket, _) :: due => { d with due := due, completed := d.completed ++ [ticket.number] }

def cancelAll (d : Desk C κ) : Desk C κ := { d with channel := Channel.cancelAll d.channel }

def close (d : Desk C κ) : Desk C κ := { d with channel := Channel.close d.channel }

end

section

variable {C : Type → Type} [Channel C] [Attended C]

open Attended

/-- Something happens on the channel. A line that is to be handed round is yet to be. -/
def input (d : Desk C κ) (input : Attended.Input C) : Desk C κ :=
  match deliver d.channel input with
  | .answers channel answered => { d with channel := channel, due := answered ++ d.due }
  | .hears channel _ _ _ => { d with channel := channel }

/-- The number of a handler means nothing. -/
inductive Step : Desk C κ → Desk C κ → Prop where
  | send (d : Desk C κ) (command : String) (leads : List String) (waiting : κ) :
    Step d (d.send command leads waiting)
  | complete (d : Desk C κ) : Step d d.complete
  | register (d : Desk C κ) {lead : String} {handler : Ticket κ} {id : Nat} {channel : C (Ticket κ)}
    (taken : Channel.register d.channel lead handler = some (id, channel)) :
    Step d { d with channel := channel }
  | unregisterAll (d : Desk C κ) : Step d { d with channel := Channel.unregisterAll d.channel }
  | cancelAll (d : Desk C κ) : Step d d.cancelAll
  | close (d : Desk C κ) : Step d d.close
  | input (d : Desk C κ) (input : Attended.Input C) : Step d (d.input input)
  /-- A line has been handed round. -/
  | back (d : Desk C κ) {input : Attended.Input C} {before channel : C (Ticket κ)}
    {handlers : List (Handler (Ticket κ))} {line : String} {back : C (Ticket κ) → C (Ticket κ)}
    (delivered : deliver before input = .hears channel handlers line back) :
    Step d { d with channel := back d.channel }

abbrev Run : Desk C κ → Desk C κ → Prop := Relation.ReflTransGen Step

end

/-! ## What a step does -/

section

variable {C : Type → Type} [Channel C] [Attended C] {d t : Desk C κ}

open Attended

/-- The next answer is handed over; or answers become due, to those who waited or to whoever sends
now. -/
inductive Move (d t : Desk C κ) : Prop where
  | complete (ticket : Ticket κ) (response : Response) (due : List (Ticket κ × Response))
    (next : d.due = (ticket, response) :: due)
    (after : t = { d with due := due, completed := d.completed ++ [ticket.number] })
  | other (answered : List (Ticket κ × Response)) (completed : t.completed = d.completed)
    (due : t.due = answered ++ d.due) (accepted : d.accepted ≤ t.accepted)
    (known : ∀ k ∈ answered.map Prod.fst ++ waiting t.channel,
      k ∈ waiting d.channel ∨ k.number = d.accepted ∧ d.accepted < t.accepted)

/-- The channel has changed, and nobody waits in addition. -/
theorem Move.lessened {channel : C (Ticket κ)} (less : waiting channel ⊆ waiting d.channel) :
    Move d { d with channel := channel } :=
  .other [] rfl rfl (Nat.le_refl _) fun _ hk => .inl (less hk)

variable [AttendedLaws C]

theorem step_moves (step : Step d t) : d = t ∨ Move d t := by
  cases step with
  | send command leads who =>
    right
    unfold send
    have hsent (channel : C (Ticket κ))
        (hwaiting : waiting channel <+ waiting d.channel ++ [⟨d.accepted, who⟩]) :
        ∀ k ∈ waiting channel, k ∈ waiting d.channel ∨ k.number = d.accepted ∧
          d.accepted < d.accepted + 1 := by
      intro k hk
      rcases List.mem_append.mp (hwaiting.subset hk) with hk | hk
      · exact .inl hk
      · rw [List.mem_singleton.mp hk]
        exact .inr ⟨rfl, Nat.lt_succ_self _⟩
    split
    · next channel hrefused => exact .lessened (AttendedLaws.refused hrefused).waiting.subset
    · next channel hheld =>
      exact .other [] rfl rfl (Nat.le_succ _) (hsent channel (AttendedLaws.held hheld).1)
    · next channel response hanswered =>
      refine .other [(⟨d.accepted, who⟩, response)] rfl rfl (Nat.le_succ _) fun k hk => ?_
      rcases List.mem_cons.mp hk with rfl | hk
      · exact .inr ⟨rfl, Nat.lt_succ_self _⟩
      · exact hsent channel (AttendedLaws.answered hanswered).1 k hk
  | complete =>
    unfold complete
    cases hdue : d.due with
    | nil => exact .inl rfl
    | cons w due => exact .inr (.complete w.1 w.2 due hdue rfl)
  | register taken =>
    exact .inr (.lessened fun _ hk => (AttendedLaws.register taken).1 ▸ hk)
  | unregisterAll => exact .inr (.lessened (AttendedLaws.unregisterAll _).1.waiting.subset)
  | cancelAll => exact .inr (.lessened (AttendedLaws.cancelAll _).1.waiting.subset)
  | close => exact .inr (.lessened (AttendedLaws.close _).waiting.subset)
  | input happened =>
    right
    unfold input
    split
    · next channel answered hdelivered =>
      have hwaiting := (AttendedLaws.answers hdelivered).1
      exact .other answered rfl rfl (Nat.le_refl _) fun k hk => .inl (hwaiting.subset hk)
    · next hdelivered => exact .lessened (AttendedLaws.hears hdelivered).1.waiting.subset
  | back delivered =>
    exact .inr (.lessened fun _ hk => ((AttendedLaws.hears delivered).2.2 d.channel).1 ▸ hk)

/-- What every move keeps holds whenever a run has got anywhere. -/
theorem run_keeps {P : Desk C κ → Prop} (keeps : ∀ d t, Move d t → P d → P t) (run : Run d t)
    (h : P d) : P t := by
  induction run with
  | refl => exact h
  | tail _ step ih =>
    rcases step_moves step with rfl | move
    · exact ih
    · exact keeps _ _ move ih

end

/-! ## Machines -/

section

variable {C : Type → Type} [Channel C] [Attended C] [Impartial C]

open Attended Impartial

/-- The machine has the channel of the desk. -/
def Carries (d : Desk C (Resume σ)) (m : Machine C σ) : Prop :=
  m.channel = map Ticket.waiting d.channel

theorem exec_run (r : Routine σ) (m : Machine C σ) (d : Desk C (Resume σ)) (h : d.Carries m) :
    ∃ t, Run d t ∧ t.due = d.due ∧ t.Carries (r.exec m) := by
  induction r generalizing m d with
  | done => exact ⟨d, .refl, rfl, h⟩
  | read next ih => exact ih m.state m d h
  | write s next ih => exact ih { m with state := s } d h
  | send command leads next ih =>
    have hstep := Step.send d command leads fun response => next (some response)
    have hsend := Impartial.send Ticket.waiting d.channel command leads
      ⟨d.accepted, fun response => next (some response)⟩
    rw [← h] at hsend
    unfold Desk.send at hstep
    cases hsent : Channel.send d.channel command leads
        ⟨d.accepted, fun response => next (some response)⟩ with
    | refused channel =>
      rw [hsent] at hstep hsend
      rw [Routine.exec_refused hsend]
      obtain ⟨t, hrun, hdue, ht⟩ := ih none { m with channel := _ } { d with channel := channel } rfl
      exact ⟨t, .head hstep hrun, hdue, ht⟩
    | held channel =>
      rw [hsent] at hstep hsend
      rw [Routine.exec_held hsend]
      exact ⟨_, .single hstep, rfl, rfl⟩
    | answered channel response =>
      rw [hsent] at hstep hsend
      rw [Routine.exec_answered hsend]
      -- The answer is due for a moment, and handed over before the routine goes on.
      obtain ⟨t, hrun, hdue, ht⟩ := ih (some response) { m with channel := _ }
        { d with
          channel := channel
          accepted := d.accepted + 1
          completed := d.completed ++ [d.accepted] } rfl
      exact ⟨t, .head hstep (.head (.complete _) hrun), hdue, ht⟩
  | register lead handler next _ ih =>
    have hregister := Impartial.register Ticket.waiting d.channel lead ⟨0, handler⟩
    rw [← h] at hregister
    unfold Routine.exec
    cases htaken : Channel.register d.channel lead ⟨0, handler⟩ with
    | none =>
      rw [htaken] at hregister
      rw [show Channel.register m.channel lead handler = none from hregister]
      exact ih none m d h
    | some taken =>
      rw [htaken] at hregister
      rw [show Channel.register m.channel lead handler = some (taken.1, map Ticket.waiting taken.2)
        from hregister]
      obtain ⟨t, hrun, hdue, ht⟩ :=
        ih (some taken.1) { m with channel := _ } { d with channel := taken.2 } rfl
      exact ⟨t, .head (.register d htaken) hrun, hdue, ht⟩
  | unregisterAll next ih =>
    obtain ⟨t, hrun, hdue, ht⟩ := ih { m with channel := Channel.unregisterAll m.channel }
      { d with channel := Channel.unregisterAll d.channel }
      ((congrArg _ h).trans (Impartial.unregisterAll _ _))
    exact ⟨t, .head (.unregisterAll d) hrun, hdue, ht⟩
  | cancelAll next ih =>
    obtain ⟨t, hrun, hdue, ht⟩ := ih { m with channel := Channel.cancelAll m.channel } d.cancelAll
      ((congrArg _ h).trans (Impartial.cancelAll _ _))
    exact ⟨t, .head (.cancelAll d) hrun, hdue, ht⟩
  | close next ih =>
    obtain ⟨t, hrun, hdue, ht⟩ := ih { m with channel := Channel.close m.channel } d.close
      ((congrArg _ h).trans (Impartial.close _ _))
    exact ⟨t, .head (.close d) hrun, hdue, ht⟩
  | traffic next ih => exact ih _ m d h
  | fork child next ihc ih =>
    obtain ⟨t, hrun, hdue, ht⟩ := ihc m d h
    obtain ⟨u, hrest, hdue', hu⟩ := ih (child.exec m) t ht
    exact ⟨u, hrun.trans hrest, hdue'.trans hdue, hu⟩

/-- Those whose answers are due go on, one after the other. -/
theorem resumeAll_run (m : Machine C σ) (d : Desk C (Resume σ)) (h : d.Carries m)
    {answered rest : List (Ticket (Resume σ) × Response)} (due : d.due = answered ++ rest) :
    ∃ t, Run d t ∧ t.due = rest ∧
      t.Carries (m.resumeAll (answered.map (Prod.map Ticket.waiting id))) := by
  induction answered generalizing m d with
  | nil => exact ⟨d, .refl, due, h⟩
  | cons w answered ih =>
    have hcomplete : d.complete.Carries m ∧ d.complete.due = answered ++ rest := by
      unfold complete
      rw [due]
      exact ⟨h, rfl⟩
    obtain ⟨t, hrun, hdue, ht⟩ := exec_run (w.1.waiting w.2) m d.complete hcomplete.1
    obtain ⟨u, hmore, hrest, hu⟩ := ih _ t ht (hdue.trans hcomplete.2)
    exact ⟨u, .head (.complete d) (hrun.trans hmore), hrest, hu⟩

/-- Handlers are given a line. -/
theorem handled_run (m : Machine C σ) (d : Desk C (Resume σ)) (h : d.Carries m)
    (waiting : List (Resume σ × Response)) :
    ∃ t, Run d t ∧ t.due = d.due ∧ t.Carries (m.resumeAll waiting) := by
  induction waiting generalizing m d with
  | nil => exact ⟨d, .refl, rfl, h⟩
  | cons w waiting ih =>
    obtain ⟨t, hrun, hdue, ht⟩ := exec_run (w.1 w.2) m d h
    obtain ⟨u, hmore, hdue', hu⟩ := ih _ t ht
    exact ⟨u, hrun.trans hmore, hdue'.trans hdue, hu⟩

theorem feed_run (m : Machine C σ) (d : Desk C (Resume σ)) (h : d.Carries m)
    (input : Attended.Input C) : ∃ t, Run d t ∧ t.due = d.due ∧ t.Carries (m.feed input) := by
  have hstep := Step.input d input
  unfold Desk.input at hstep
  unfold Carries at h
  unfold Machine.feed
  rw [h]
  cases hdelivered : deliver d.channel input with
  | answers channel answered =>
    rw [hdelivered] at hstep
    rw [Impartial.answers Ticket.waiting hdelivered]
    obtain ⟨t, hrun, hdue, ht⟩ := resumeAll_run { m with channel := map Ticket.waiting channel }
      { d with channel := channel, due := answered ++ d.due } rfl rfl
    exact ⟨t, .head hstep hrun, hdue, ht⟩
  | hears channel handlers line back =>
    rw [hdelivered] at hstep
    obtain ⟨back', hmapped, hback⟩ := Impartial.hears Ticket.waiting hdelivered
    rw [hmapped]
    obtain ⟨t, hrun, hdue, ht⟩ := handled_run { m with channel := map Ticket.waiting channel }
      { d with channel := channel } rfl (Handler.informed (handlers.map (Handler.map _)) line)
    refine ⟨{ t with channel := back t.channel }, .head hstep (hrun.tail (.back t hdelivered)),
      hdue, ?_⟩
    exact (congrArg back' ht).trans (hback t.channel)

end

end Desk

/-- Whatever happens to a machine is a run of its desk, and leaves nothing on the stack. -/
theorem Desk.course_run {C : Type → Type} [Channel C] [Attended C] [Impartial C]
    {code : Routine σ → Prop} {m now : Machine C σ} {given : List String}
    (course : Machine.Course code m given now) {d : Desk C (Resume σ)} (h : d.Carries m)
    (free : d.due = []) : ∃ t, Run d t ∧ t.due = [] ∧ t.Carries now := by
  induction course with
  | refl => exact ⟨d, .refl, free, h⟩
  | start _ r _ ih =>
    obtain ⟨t, hrun, hdue, ht⟩ := ih
    obtain ⟨u, hmore, hdue', hu⟩ := exec_run r _ t ht
    exact ⟨u, hrun.trans hmore, hdue'.trans hdue, hu⟩
  | feed _ input ih =>
    obtain ⟨t, hrun, hdue, ht⟩ := ih
    obtain ⟨u, hmore, hdue', hu⟩ := feed_run _ t ht input
    exact ⟨u, hrun.trans hmore, hdue'.trans hdue, hu⟩

end CellModem
