import CellModem.Step

/-!
# Trees of steps

Steps are put together from transactions and decided steps by chaining, mapping, sequences, best
effort and compensation. What a step does with whatever its result is handed to is told by one
equation for each way to put it together.
-/

namespace CellModem

namespace Step

variable {σ α β : Type}

/-- Runs the step and hands its result over. -/
def routine (step : Step σ α) (reply : Except Error α → Routine σ) : Routine σ := step.run reply

variable (reply : Except Error α → Routine σ)

theorem routine_transaction (t : Transaction α) :
    (transaction t).routine reply = .send t.command t.leads fun
      | some response => reply (t.result response)
      | none => reply (.error .rejected) :=
  congrArg (Routine.send t.command t.leads) (funext fun answer => by cases answer <;> rfl)

theorem routine_ready (result : Except Error α) : (ready result).routine reply = reply result := rfl

theorem routine_bind (step : Step σ β) (next : β → Step σ α) :
    (step >>= next).routine reply = step.routine fun
      | .ok value => (next value).routine reply
      | .error e => reply (.error e) :=
  congrArg step.routine (funext fun result => by cases result <;> rfl)

theorem routine_map (f : β → α) (step : Step σ β) :
    (f <$> step).routine reply = step.routine fun
      | .ok value => reply (.ok (f value))
      | .error e => reply (.error e) :=
  congrArg step.routine (funext fun result => by cases result <;> rfl)

theorem routine_bestEffort (step : Step σ Unit) (reply : Except Error Unit → Routine σ) :
    step.bestEffort.routine reply = step.routine fun _ => reply (.ok ()) := rfl

theorem routine_compensated (deregister : Step σ Unit) (act : Step σ α) (restore : Step σ Unit) :
    (compensated deregister act restore).routine reply = deregister.routine fun
      | .error e => reply (.error e)
      | .ok () => act.routine fun
        | .ok value => restore.routine fun
          | .ok () => reply (.ok value)
          | .error e => reply (.error e)
        | .error e => restore.routine fun _ => reply (.error e) := by
  unfold compensated
  rw [routine_bind]
  congr 1
  funext deregistered
  cases deregistered with
  | error e => rfl
  | ok _ =>
    refine congrArg act.routine (funext fun acted => ?_)
    cases acted with
    | ok value => exact congrArg restore.routine (funext fun restored => by cases restored <;> rfl)
    | error e => exact congrArg restore.routine (funext fun restored => by cases restored <;> rfl)

end Step

inductive StepTree : Type → Type 1 where
  | transaction {α : Type} (t : Transaction α) : StepTree α
  | command (text : String) : StepTree Unit
  | ready {α : Type} (result : Except Error α) : StepTree α
  | fail {α : Type} (error : Error) : StepTree α
  | andThen {α β : Type} (first : StepTree α) (next : α → StepTree β) : StepTree β
  | map {α β : Type} (f : α → β) (tree : StepTree α) : StepTree β
  | sequence {α : Type} (n : Nat) (trees : Fin n → StepTree α) : StepTree (List α)
  | bestEffort (tree : StepTree Unit) : StepTree Unit
  | compensated {α : Type} (deregister : StepTree Unit) (act : StepTree α)
    (restore : StepTree Unit) : StepTree α

/-- The step that is put together so. -/
def StepTree.step {σ α : Type} : StepTree α → Step σ α
  | .transaction t => Step.transaction t
  | .command text => Step.command text
  | .ready result => Step.ready result
  | .fail error => throw error
  | .andThen first next => first.step >>= fun value => (next value).step
  | .map f tree => f <$> tree.step
  | .sequence _ trees => Step.sequence (List.ofFn fun i => (trees i).step)
  | .bestEffort tree => tree.step.bestEffort
  | .compensated deregister act restore =>
    Step.compensated deregister.step act.step restore.step

/-! ## The ways through a step -/

namespace Step

variable {σ α β : Type}

/-- The step only sends commands before it hands over its result, so what holds of every way on from
there holds of the step. -/
def Passes (step : Step σ α) : Prop :=
  ∀ (P : Routine σ → Prop),
    (∀ command leads next, (∀ answer, P (next answer)) → P (.send command leads next)) →
    ∀ reply, (∀ result, P (reply result)) → P (step.routine reply)

theorem passes_transaction (t : Transaction α) : (transaction t : Step σ α).Passes := by
  intro P send reply h
  rw [routine_transaction]
  apply send
  intro answer
  cases answer with
  | none => exact h _
  | some response => exact h _

theorem passes_ready (result : Except Error α) : (ready result : Step σ α).Passes :=
  fun _ _ _ h => h result

theorem Passes.bind {step : Step σ α} {next : α → Step σ β} (h : step.Passes)
    (hnext : ∀ value, (next value).Passes) : (step >>= next).Passes := by
  intro P send reply hreply
  rw [routine_bind]
  refine h P send _ fun result => ?_
  cases result with
  | ok value => exact hnext value P send reply hreply
  | error e => exact hreply _

theorem Passes.map {step : Step σ α} (h : step.Passes) (f : α → β) : (f <$> step).Passes := by
  intro P send reply hreply
  rw [routine_map]
  refine h P send _ fun result => ?_
  cases result with
  | ok value => exact hreply _
  | error e => exact hreply _

theorem Passes.bestEffort {step : Step σ Unit} (h : step.Passes) : step.bestEffort.Passes := by
  intro P send reply hreply
  rw [routine_bestEffort]
  exact h P send _ fun _ => hreply _

theorem Passes.compensated {deregister : Step σ Unit} {act : Step σ α} {restore : Step σ Unit}
    (hderegister : deregister.Passes) (hact : act.Passes) (hrestore : restore.Passes) :
    (Step.compensated deregister act restore).Passes := by
  intro P send reply hreply
  rw [routine_compensated]
  refine hderegister P send _ fun deregistered => ?_
  cases deregistered with
  | error e => exact hreply _
  | ok _ =>
    refine hact P send _ fun acted => ?_
    cases acted with
    | ok value =>
      refine hrestore P send _ fun restored => ?_
      cases restored with
      | ok _ => exact hreply _
      | error e => exact hreply _
    | error e => exact hrestore P send _ fun _ => hreply _

theorem Passes.sequence {steps : List (Step σ α)} (h : ∀ step ∈ steps, step.Passes) :
    (Step.sequence steps).Passes := by
  -- Each step is chained behind those before it, so the chain in front is left open.
  have hchain : ∀ chain : Step σ (List α), chain.Passes →
      (steps.foldl (fun chain step => do
        let values ← chain
        let value ← step
        return values ++ [value]) chain).Passes := by
    induction steps with
    | nil => exact fun chain hchain => hchain
    | cons step steps ih =>
      intro chain hchain
      have hstep := (List.forall_mem_cons.mp h).1
      refine ih (List.forall_mem_cons.mp h).2 _ ?_
      exact hchain.bind fun values => hstep.bind fun value => passes_ready (.ok (values ++ [value]))
  exact hchain _ (passes_ready (.ok []))

end Step

theorem StepTree.passes {σ α : Type} (tree : StepTree α) : (tree.step : Step σ α).Passes := by
  induction tree with
  | transaction t => exact Step.passes_transaction t
  | command text => exact Step.passes_transaction (.plain text)
  | ready result => exact Step.passes_ready result
  | fail error => exact Step.passes_ready (.error error)
  | andThen first next hfirst hnext => exact hfirst.bind hnext
  | map f tree htree => exact htree.map f
  | sequence n trees htrees =>
    refine Step.Passes.sequence fun step hstep => ?_
    obtain ⟨i, rfl⟩ := List.mem_ofFn.mp hstep
    exact htrees i
  | bestEffort tree htree => exact htree.bestEffort
  | compensated deregister act restore hderegister hact hrestore =>
    exact hderegister.compensated hact hrestore

end CellModem
