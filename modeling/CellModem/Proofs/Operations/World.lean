import Mathlib.Logic.Relation
import CellModem.Proofs.Operations.Plan
import CellModem.Proofs.Operations.Slot
import CellModem.Proofs.Workflow.World

/-!
# Calls on any channel

Callers ask instances for operations on a channel of which nothing is known but that it calls each
completion it takes at most once. A call may be made, a completion may come, and instances may be
created, shown and removed whenever no operation is at work: with no code on the stack, while a
caller is given an answer, and while a channel has been given a command.
-/

namespace CellModem

variable {ι : Type} {α : ι → Type}

/-- A host that keeps what the callers were answered, in order. -/
abbrev Logged (α : ι → Type) : Type := Host (List (Reply α))

def Host.note (reply : Reply α) (h : Logged α) : Logged α :=
  { h with observed := h.observed ++ [reply] }

/-- The calls that may be made, each of an instance for an operation. -/
structure Calls (α : ι → Type) where
  facility : ι → Facility
  number : ι → Nat
  operation : ∀ i, Operation (List (Reply α)) (facility i) (α i)
  built : ∀ i, (operation i).Built

namespace Calls

def act (calls : Calls α) (i : ι) : Act (Logged α) Unit := do
  let result ← (Host.perform (calls.number i) (calls.operation i)).run
  modify (Host.note ⟨i, result⟩)

/-- The call is of this instance. -/
def At (calls : Calls α) (f : Facility) (n : Nat) (i : ι) : Prop :=
  calls.facility i = f ∧ calls.number i = n

/-! ## The parts of a call -/

def replying (i : ι) (result : Except Error (α i)) : Routine (Logged α) :=
  .read fun h => .write (h.note ⟨i, result⟩) .done

def settling (calls : Calls α) (i : ι) (result : Except Error (Settled (calls.facility i) (α i))) :
    Routine (Logged α) :=
  .read fun h => .write (h.settle (calls.number i) result) (replying i (result.map Settled.answer))

/-- The operation, once the instance is taken. -/
def working (calls : Calls α) (i : ι) (taken : Vendor × Driver) : Routine (Logged α) :=
  (Host.carryOut (calls.operation i) taken.1 taken.2).routine (calls.settling i)

def claim (calls : Calls α) (i : ι) (h : Logged α) : Except Error (Vendor × Driver) × Logged α :=
  h.claim (calls.facility i) (calls.number i)

theorem routine_act (calls : Calls α) (i : ι) : (calls.act i).routine = .read fun h =>
    .write (calls.claim i h).2 (match (calls.claim i h).1 with
      | .error e => replying i (.error e)
      | .ok taken => calls.working i taken) := by
  refine congrArg Routine.read (funext fun h => congrArg (Routine.write _) ?_)
  unfold claim
  cases (h.claim (calls.facility i) (calls.number i)).1 with
  | error e => rfl
  | ok taken => rfl

theorem start_eq {C : Type → Type} [Channel C] (calls : Calls α) (i : ι) (m : Machine C (Logged α)) :
    m.start (calls.act i) = (match (calls.claim i m.state).1 with
      | .error e => replying i (.error e)
      | .ok taken => calls.working i taken).exec { m with state := (calls.claim i m.state).2 } := by
  unfold Machine.start
  rw [routine_act]
  rfl

theorem start_refused {C : Type → Type} [Channel C] {calls : Calls α} {i : ι}
    {m : Machine C (Logged α)} {e : Error} (claims : (calls.claim i m.state).1 = .error e) :
    m.start (calls.act i) = { m with state := m.state.note ⟨i, .error e⟩ } := by
  have hclaim : calls.claim i m.state = (.error e, m.state) := Host.claim_error claims
  rw [start_eq, hclaim]
  rfl

theorem working_eq (calls : Calls α) (i : ι) (taken : Vendor × Driver) :
    calls.working i taken =
      let ask := (calls.operation i).plan taken.1 taken.2
      .asking (fun a => (ask.run a).2) fun a => match (ask.run a).1 with
        | .ok step => step.routine (calls.settling i)
        | .error e => calls.settling i (.error e) := by
  unfold working Host.carryOut
  rw [Step.routine_bind, Host.routine_asking]
  refine congrArg (Routine.asking _) (funext fun a => ?_)
  cases (((calls.operation i).plan taken.1 taken.2).run a).1 with
  | ok step => rfl
  | error e => rfl

/-- What an operation has yet to do: commands and requests, and at the end of every way it is
settled. -/
inductive Working (calls : Calls α) (i : ι) : Routine (Logged α) → Prop where
  | settle (result : Except Error (Settled (calls.facility i) (α i))) :
    Working calls i (calls.settling i result)
  | ask (spend : Allowance → Allowance) (next : Allowance → Routine (Logged α))
    (h : ∀ allowance, Working calls i (next allowance)) : Working calls i (.asking spend next)
  | send (command : String) (leads : List String) (next : Option Response → Routine (Logged α))
    (h : ∀ answer, Working calls i (next answer)) : Working calls i (.send command leads next)

theorem working_working (calls : Calls α) (i : ι) (taken : Vendor × Driver) :
    Working calls i (calls.working i taken) :=
  (calls.built i).carryOut taken.1 taken.2 (Working calls i) .send .ask _ .settle

/-! ## Worlds -/

/-- All calls, at some point of a run. -/
structure World (α : ι → Type) where
  host : Logged α
  /-- The code on the stack, the innermost first, each piece with its call. -/
  stack : List (ι × Routine (Logged α))
  held : List (ι × Resume (Logged α))
  started : List ι
  /-- The calls that were given their instance. -/
  claimed : List ι
  /-- Those of them that have let it go again. -/
  settled : List ι
  /-- The calls of the completions that were dropped. -/
  dropped : List ι
  commands : List (ι × String)

/-- Other code may run: a caller is being answered, or the channel is at work. -/
def pauses : Routine (Logged α) → Bool
  | .done | .send .. => true
  | _ => false

namespace World

def empty : World α := ⟨.initial [], [], [], [], [], [], [], []⟩

/-- No operation is at work. -/
def Open (w : World α) : Prop := ∀ frame ∈ w.stack.head?, pauses frame.2

/-- What the code on the stack, the channel, the callers, and the rest of the host may do next. -/
inductive Step (calls : Calls α) : World α → World α → Prop where
  | grant (w : World α) (i : ι) (taken : Vendor × Driver) (host : Logged α)
    (fresh : i ∉ w.started) (opened : w.Open) (claims : calls.claim i w.host = (.ok taken, host)) :
    Step calls w
      { w with
        host := host
        stack := (i, calls.working i taken) :: w.stack
        started := i :: w.started
        claimed := i :: w.claimed }
  | refuse (w : World α) (i : ι) (e : Error) (host : Logged α) (fresh : i ∉ w.started)
    (opened : w.Open) (claims : calls.claim i w.host = (.error e, host)) :
    Step calls w
      { w with
        host := host
        stack := (i, replying i (.error e)) :: w.stack
        started := i :: w.started }
  | ask (w : World α) (i : ι) (stack : List (ι × Routine (Logged α)))
    (spend : Allowance → Allowance) (next : Allowance → Routine (Logged α))
    (top : w.stack = (i, .asking spend next) :: stack) :
    Step calls w
      { w with
        host := { w.host with allowance := spend w.host.allowance }
        stack := (i, next w.host.allowance) :: stack }
  | settle (w : World α) (i : ι) (stack : List (ι × Routine (Logged α)))
    (result : Except Error (Settled (calls.facility i) (α i)))
    (top : w.stack = (i, calls.settling i result) :: stack) :
    Step calls w
      { w with
        host := w.host.settle (calls.number i) result
        stack := (i, replying i (result.map Settled.answer)) :: stack
        settled := i :: w.settled }
  | reply (w : World α) (i : ι) (stack : List (ι × Routine (Logged α)))
    (result : Except Error (α i)) (top : w.stack = (i, replying i result) :: stack) :
    Step calls w { w with host := w.host.note ⟨i, result⟩, stack := (i, .done) :: stack }
  | pop (w : World α) (i : ι) (stack : List (ι × Routine (Logged α)))
    (top : w.stack = (i, .done) :: stack) : Step calls w { w with stack := stack }
  /-- The channel refuses a command, or answers it at once. -/
  | answer (w : World α) (i : ι) (stack : List (ι × Routine (Logged α))) (command : String)
    (leads : List String) (next : Option Response → Routine (Logged α)) (answer : Option Response)
    (top : w.stack = (i, .send command leads next) :: stack) :
    Step calls w
      { w with stack := (i, next answer) :: stack, commands := w.commands ++ [(i, command)] }
  | hold (w : World α) (i : ι) (stack : List (ι × Routine (Logged α))) (command : String)
    (leads : List String) (next : Option Response → Routine (Logged α))
    (top : w.stack = (i, .send command leads next) :: stack) :
    Step calls w
      { w with
        stack := stack
        held := (i, fun response => next (some response)) :: w.held
        commands := w.commands ++ [(i, command)] }
  | deliver (w : World α) (i : ι) (before after : List (ι × Resume (Logged α)))
    (resume : Resume (Logged α)) (response : Response) (opened : w.Open)
    (held : w.held = before ++ (i, resume) :: after) :
    Step calls w { w with stack := (i, resume response) :: w.stack, held := before ++ after }
  | drop (w : World α) (i : ι) (before after : List (ι × Resume (Logged α)))
    (resume : Resume (Logged α)) (opened : w.Open)
    (held : w.held = before ++ (i, resume) :: after) :
    Step calls w { w with held := before ++ after, dropped := i :: w.dropped }
  /-- Instances are created, shown or removed, or something else happens to the host. -/
  | other (w : World α) (host : Logged α) (opened : w.Open) (apart : w.host.Apart host) :
    Step calls w { w with host := host }

abbrev Run (calls : Calls α) : World α → World α → Prop := Relation.ReflTransGen (Step calls)

/-! ## Running code -/

/-- Code of a call that was run has answered the caller, or has left a completion with the channel. -/
def Ran {C : Type → Type} [Channel C] (i : ι) (w w' : World α) (m : Machine C (Logged α)) : Prop :=
  w'.stack = w.stack ∧ w'.dropped = w.dropped ∧ w'.host = m.state ∧
    ((∃ result, m.state.observed = w.host.observed ++ [⟨i, result⟩] ∧ w'.held = w.held) ∨
      ∃ resume, m.state.observed = w.host.observed ∧ w'.held = (i, resume) :: w.held ∧
        ∃ channel command leads, Channel.send channel command leads resume = .held m.channel)

variable {C : Type → Type} [Channel C] {calls : Calls α} {i : ι}

theorem replying_run (calls : Calls α) (result : Except Error (α i)) (m : Machine C (Logged α))
    (w : World α) (state : m.state = w.host) :
    ∃ w', Run calls { w with stack := (i, replying i result) :: w.stack } w' ∧
      w.Ran i w' ((replying i result).exec m) := by
  have hreply : Run calls { w with stack := (i, replying i result) :: w.stack } _ :=
    .single (.reply _ i w.stack result rfl)
  refine ⟨_, hreply.tail (.pop _ i w.stack rfl), rfl, rfl, ?_, .inl ⟨result, ?_, rfl⟩⟩
  · exact congrArg (Host.note _) state.symm
  · exact congrArg (fun h => (Host.note ⟨i, result⟩ h).observed) state

/-- Whatever the channel of a machine does, running the code of an operation on the machine is a run
of worlds. -/
theorem working_run {r : Routine (Logged α)} (working : Working calls i r)
    (m : Machine C (Logged α)) (w : World α) (state : m.state = w.host) :
    ∃ w', Run calls { w with stack := (i, r) :: w.stack } w' ∧ w.Ran i w' (r.exec m) := by
  induction working generalizing m w with
  | settle result =>
    have hsettle : Step calls { w with stack := (i, calls.settling i result) :: w.stack } _ :=
      .settle _ i w.stack result rfl
    obtain ⟨w', hrun, hran⟩ := replying_run calls (result.map Settled.answer)
      { m with state := m.state.settle (calls.number i) result }
      { w with
        host := w.host.settle (calls.number i) result
        settled := i :: w.settled } (congrArg (Host.settle _ result) state)
    unfold Ran at hran ⊢
    rw [Host.observed_settle] at hran
    exact ⟨w', .head hsettle hrun, hran⟩
  | ask spend next h ih =>
    have hask : Step calls { w with stack := (i, .asking spend next) :: w.stack } _ :=
      .ask _ i w.stack spend next rfl
    obtain ⟨w', hrun, hran⟩ := ih m.state.allowance
      { m with state := { m.state with allowance := spend m.state.allowance } }
      { w with host := { w.host with allowance := spend w.host.allowance } } (by rw [state])
    rw [state] at hrun
    exact ⟨w', .head hask hrun, hran⟩
  | send command leads next h ih =>
    have hanswer : ∀ answer,
        Step calls { w with stack := (i, .send command leads next) :: w.stack } _ :=
      fun answer => .answer _ i w.stack command leads next answer rfl
    unfold Routine.exec
    cases hsent : Channel.send m.channel command leads fun response => next (some response) with
    | refused channel =>
      obtain ⟨w', hrun, hran⟩ := ih none { m with channel := channel }
        { w with commands := w.commands ++ [(i, command)] } state
      exact ⟨w', .head (hanswer none) hrun, hran⟩
    | answered channel response =>
      obtain ⟨w', hrun, hran⟩ := ih (some response) { m with channel := channel }
        { w with commands := w.commands ++ [(i, command)] } state
      exact ⟨w', .head (hanswer (some response)) hrun, hran⟩
    | held channel =>
      have hhold : Step calls { w with stack := (i, .send command leads next) :: w.stack } _ :=
        .hold _ i w.stack command leads next rfl
      refine ⟨_, .single hhold, rfl, rfl, state.symm, .inr ⟨_, ?_, rfl, _, _, _, hsent⟩⟩
      exact congrArg Host.observed state

theorem observed_claim (calls : Calls α) (i : ι) (h : Logged α) :
    (calls.claim i h).2.observed = h.observed := by
  unfold claim
  rcases h.claim_cases (calls.facility i) (calls.number i) with ⟨e, hclaim⟩ | ⟨taken, hclaim, -⟩
  · rw [hclaim]
  · rw [hclaim]
    rfl

/-- Making a call on a machine is a run of worlds. -/
theorem act_run (m : Machine C (Logged α)) (w : World α) (state : m.state = w.host)
    (fresh : i ∉ w.started) (opened : w.Open) :
    ∃ w', Run calls w w' ∧ w.Ran i w' (m.start (calls.act i)) := by
  have hobserved := observed_claim calls i w.host
  rw [start_eq, state]
  rcases hclaim : calls.claim i w.host with ⟨e | taken, host⟩
  · rw [hclaim] at hobserved
    obtain ⟨w', hrun, hran⟩ := replying_run (i := i) calls (.error e)
      { m with state := host } { w with host := host, started := i :: w.started } rfl
    unfold Ran at hran ⊢
    rw [hobserved] at hran
    exact ⟨w', .head (.refuse w i e host fresh opened hclaim) hrun, hran⟩
  · rw [hclaim] at hobserved
    obtain ⟨w', hrun, hran⟩ := working_run (working_working calls i taken) { m with state := host }
      { w with host := host, started := i :: w.started, claimed := i :: w.claimed } rfl
    unfold Ran at hran ⊢
    rw [hobserved] at hran
    exact ⟨w', .head (.grant w i taken host fresh opened hclaim) hrun, hran⟩

end World

end Calls

end CellModem
