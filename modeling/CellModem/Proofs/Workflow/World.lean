import Mathlib.Logic.Relation
import CellModem.Channel
import CellModem.Proofs.Workflow.Tree

/-!
# Chains on any channel

Chains of steps run on a channel of which nothing is known but that it calls each completion it
takes at most once: it may refuse a command, answer it at once or hold it, and it may hand over or
drop what it holds at any moment. Chains start at any moment, also while others run.
-/

namespace CellModem

variable {ι : Type} {α : ι → Type}

abbrev Reply (α : ι → Type) : Type := Σ i, Except Error (α i)

namespace Chain

/-- Runs the step of a chain and makes its result the reply. -/
def act (trees : ∀ i, StepTree (α i)) (i : ι) : Act (Reply α) Unit := do
  let result ← (trees i).step.run
  set (⟨i, result⟩ : Reply α)

/-- What a chain has yet to do: commands, and at the end of every way one reply. -/
inductive Live (i : ι) : Routine (Reply α) → Prop where
  | reply (result : Except Error (α i)) : Live i (.write ⟨i, result⟩ .done)
  | send (command : String) (leads : List String) (next : Option Response → Routine (Reply α))
    (h : ∀ answer, Live i (next answer)) : Live i (.send command leads next)

theorem live_act (trees : ∀ i, StepTree (α i)) (i : ι) : Live i (act trees i).routine :=
  (trees i).passes (Live i) .send _ .reply

theorem Live.next {i : ι} {command : String} {leads : List String}
    {next : Option Response → Routine (Reply α)} (h : Live i (.send command leads next))
    (answer : Option Response) : Live i (next answer) := by
  cases h with
  | send _ _ _ h => exact h answer

def isOver : Routine (Reply α) → Bool
  | .done => true
  | _ => false

theorem Live.not_over {i : ι} {r : Routine (Reply α)} (h : Live i r) : isOver r = false := by
  cases h <;> rfl

/-! ## Worlds -/

/-- All chains, at some point of a run. -/
structure World (α : ι → Type) where
  /-- The code on the stack, the innermost first, each piece with its chain. -/
  stack : List (ι × Routine (Reply α))
  held : List (ι × Resume (Reply α))
  replies : List (Reply α)
  started : List ι
  /-- The chains of the completions that were dropped. -/
  dropped : List ι
  commands : List (ι × String)

namespace World

def empty : World α := ⟨[], [], [], [], [], []⟩

/-- What the code on the stack, the channel, and whoever starts chains may do next. -/
inductive Step (trees : ∀ i, StepTree (α i)) : World α → World α → Prop where
  | start (w : World α) (i : ι) (fresh : i ∉ w.started) :
    Step trees w { w with stack := (i, (act trees i).routine) :: w.stack, started := i :: w.started }
  | pop (w : World α) (i : ι) (stack : List (ι × Routine (Reply α)))
    (top : w.stack = (i, .done) :: stack) : Step trees w { w with stack := stack }
  | reply (w : World α) (i : ι) (stack : List (ι × Routine (Reply α))) (reply : Reply α)
    (next : Routine (Reply α)) (top : w.stack = (i, .write reply next) :: stack) :
    Step trees w { w with stack := (i, next) :: stack, replies := w.replies ++ [reply] }
  /-- The channel refuses a command, or answers it at once. -/
  | answer (w : World α) (i : ι) (stack : List (ι × Routine (Reply α))) (command : String)
    (leads : List String) (next : Option Response → Routine (Reply α)) (answer : Option Response)
    (top : w.stack = (i, .send command leads next) :: stack) :
    Step trees w
      { w with stack := (i, next answer) :: stack, commands := w.commands ++ [(i, command)] }
  | hold (w : World α) (i : ι) (stack : List (ι × Routine (Reply α))) (command : String)
    (leads : List String) (next : Option Response → Routine (Reply α))
    (top : w.stack = (i, .send command leads next) :: stack) :
    Step trees w
      { w with
        stack := stack
        held := (i, fun response => next (some response)) :: w.held
        commands := w.commands ++ [(i, command)] }
  | deliver (w : World α) (i : ι) (before after : List (ι × Resume (Reply α)))
    (resume : Resume (Reply α)) (response : Response)
    (held : w.held = before ++ (i, resume) :: after) :
    Step trees w { w with stack := (i, resume response) :: w.stack, held := before ++ after }
  | drop (w : World α) (i : ι) (before after : List (ι × Resume (Reply α)))
    (resume : Resume (Reply α)) (held : w.held = before ++ (i, resume) :: after) :
    Step trees w { w with held := before ++ after, dropped := i :: w.dropped }

abbrev Run (trees : ∀ i, StepTree (α i)) : World α → World α → Prop :=
  Relation.ReflTransGen (Step trees)

/-! ## Running code -/

/-- Code of a chain that was run has replied, or has left a completion with the channel. -/
def Ran {C : Type → Type} [Channel C] (i : ι) (w w' : World α) (m : Machine C (Reply α)) : Prop :=
  w'.stack = w.stack ∧ w'.dropped = w.dropped ∧
    ((∃ result, w'.replies = w.replies ++ [⟨i, result⟩] ∧ w'.held = w.held ∧
        m.state = ⟨i, result⟩) ∨
      ∃ resume, w'.replies = w.replies ∧ w'.held = (i, resume) :: w.held ∧
        ∃ channel command leads, Channel.send channel command leads resume = .held m.channel)

/-- Whatever the channel of a machine does, running the code of a chain on the machine is a run of
worlds. -/
theorem exec_run {C : Type → Type} [Channel C] (trees : ∀ i, StepTree (α i)) {i : ι}
    {r : Routine (Reply α)} (live : Live i r) (m : Machine C (Reply α)) (w : World α) :
    ∃ w', Run trees { w with stack := (i, r) :: w.stack } w' ∧ w.Ran i w' (r.exec m) := by
  induction live generalizing m w with
  | reply result =>
    have hreply : Run trees { w with stack := (i, .write ⟨i, result⟩ .done) :: w.stack } _ :=
      .single (.reply _ i w.stack _ _ rfl)
    exact ⟨_, hreply.tail (.pop _ i w.stack rfl), rfl, rfl, .inl ⟨result, rfl, rfl, rfl⟩⟩
  | send command leads next live ih =>
    have hanswer : ∀ answer,
        Step trees { w with stack := (i, .send command leads next) :: w.stack } _ :=
      fun answer => .answer _ i w.stack command leads next answer rfl
    unfold Routine.exec
    cases hsent : Channel.send m.channel command leads fun response => next (some response) with
    | refused channel =>
      obtain ⟨w', hrun, hran⟩ := ih none { m with channel := channel }
        { w with commands := w.commands ++ [(i, command)] }
      exact ⟨w', .head (hanswer none) hrun, hran⟩
    | answered channel response =>
      obtain ⟨w', hrun, hran⟩ := ih (some response) { m with channel := channel }
        { w with commands := w.commands ++ [(i, command)] }
      exact ⟨w', .head (hanswer (some response)) hrun, hran⟩
    | held channel =>
      have hhold : Step trees { w with stack := (i, .send command leads next) :: w.stack } _ :=
        .hold _ i w.stack command leads next rfl
      exact ⟨_, .single hhold, rfl, rfl, .inr ⟨_, rfl, rfl, _, _, _, hsent⟩⟩

/-- Code on the stack can always be run to its reply. -/
theorem live_finishes (trees : ∀ i, StepTree (α i)) {i : ι} {r : Routine (Reply α)}
    (live : Live i r) (w : World α) :
    ∃ w', Run trees { w with stack := (i, r) :: w.stack } w' ∧ w'.stack = w.stack ∧
      w'.held = w.held ∧ w'.dropped = w.dropped := by
  induction live generalizing w with
  | reply result =>
    have hreply : Run trees { w with stack := (i, .write ⟨i, result⟩ .done) :: w.stack } _ :=
      .single (.reply _ i w.stack _ _ rfl)
    exact ⟨_, hreply.tail (.pop _ i w.stack rfl), rfl, rfl, rfl⟩
  | send command leads next live ih =>
    obtain ⟨w', hrun, hends⟩ := ih none { w with commands := w.commands ++ [(i, command)] }
    have hanswer : Step trees { w with stack := (i, .send command leads next) :: w.stack } _ :=
      .answer _ i w.stack command leads next none rfl
    exact ⟨w', .head hanswer hrun, hends⟩

end World

end Chain

end CellModem
