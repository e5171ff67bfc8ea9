import CellModem.Channel
import CellModem.Proofs.Workflow.Tree

/-!
# What a step comes to

A tree of steps is evaluated on a channel that answers or refuses every command at once: one command
after the other, with the result at the end. Running the step on such a channel does the same.
-/

namespace CellModem

/-! ## Channels that answer at once -/

/-- What a channel makes of a command and the leads, and the state it is in then; `none` refuses the
command. -/
abbrev Behaviour (S : Type) := S → String → List String → Option Response × S

structure Prompt (S : Type) (behave : Behaviour S) (κ : Type) where
  state : S
  issued : List (String × List String)

instance {S : Type} {behave : Behaviour S} : Channel (Prompt S behave) where
  send channel command leads _ :=
    let answer := behave channel.state command leads
    let channel := ⟨answer.2, channel.issued ++ [(command, leads)]⟩
    match answer.1 with
    | none => .refused channel
    | some response => .answered channel response
  register _ _ _ := none
  unregisterAll channel := channel
  cancelAll channel := channel
  close channel := channel
  traffic channel := channel.issued.map (·.1)

structure Outcome (S α : Type) where
  result : Except Error α
  issued : List (String × List String)
  state : S

namespace Outcome

variable {S α β γ : Type}

/-- One command: refused, not acknowledged, or worth what is made of the answer. -/
def transaction (behave : Behaviour S) (t : Transaction α) (s : S) : Outcome S α :=
  let answer := behave s t.command t.leads
  let result := match answer.1 with
    | none => .error .rejected
    | some response =>
      if response.ok then
        match t.decode response with
        | .ok value => .ok value
        | .error e => .error (.decode e)
      else .error (.protocol response.status)
  ⟨result, [(t.command, t.leads)], answer.2⟩

def andThen (o : Outcome S α) (go : α → S → Outcome S β) : Outcome S β :=
  match o.result with
  | .ok value =>
    let last := go value o.state
    ⟨last.result, o.issued ++ last.issued, last.state⟩
  | .error e => ⟨.error e, o.issued, o.state⟩

def map (f : α → β) (o : Outcome S α) : Outcome S β :=
  match o.result with
  | .ok value => ⟨.ok (f value), o.issued, o.state⟩
  | .error e => ⟨.error e, o.issued, o.state⟩

/-- Several evaluations in a row, up to the first that fails. -/
def each : List (S → Outcome S α) → S → Outcome S (List α)
  | [], s => ⟨.ok [], [], s⟩
  | evaluate :: rest, s =>
    (evaluate s).andThen fun value s => (each rest s).map fun values => value :: values

/-- Without the first one nothing happens; the last one follows the second whatever comes of it. -/
def compensated (deregister : S → Outcome S Unit) (act : S → Outcome S α)
    (restore : S → Outcome S Unit) (s : S) : Outcome S α :=
  (deregister s).andThen fun _ s =>
    let acted := act s
    let restored := restore acted.state
    let result := match acted.result, restored.result with
      | .error e, _ => .error e
      | .ok _, .error e => .error e
      | .ok value, .ok () => .ok value
    ⟨result, acted.issued ++ restored.issued, restored.state⟩

theorem andThen_assoc (o : Outcome S α) (f : α → S → Outcome S β) (g : β → S → Outcome S γ) :
    (o.andThen f).andThen g = o.andThen fun value s => (f value s).andThen g := by
  obtain ⟨_ | value, issued, s⟩ := o
  · rfl
  · simp only [andThen]
    cases (f value s).result <;> simp

theorem andThen_map (o : Outcome S α) (f : α → S → Outcome S β) (g : β → γ) :
    (o.andThen f).map g = o.andThen fun value s => (f value s).map g := by
  obtain ⟨_ | value, issued, s⟩ := o
  · rfl
  · simp only [andThen, map]
    cases (f value s).result <;> rfl

theorem ready_andThen (value : α) (s : S) (go : α → S → Outcome S β) :
    (⟨.ok value, [], s⟩ : Outcome S α).andThen go = go value s := rfl

theorem map_map (o : Outcome S α) (f : α → β) (g : β → γ) :
    (o.map f).map g = o.map fun value => g (f value) := by
  obtain ⟨_ | value, issued, s⟩ := o
  · rfl
  · rfl

theorem map_id (o : Outcome S α) : o.map (fun value => value) = o := by
  obtain ⟨_ | value, issued, s⟩ := o
  · rfl
  · rfl

end Outcome

/-- Evaluates a tree, one command after the other. -/
def StepTree.eval {S α : Type} (behave : Behaviour S) : StepTree α → S → Outcome S α
  | .transaction t => .transaction behave t
  | .command text => .transaction behave (.plain text)
  | .ready result => fun s => ⟨result, [], s⟩
  | .fail error => fun s => ⟨.error error, [], s⟩
  | .andThen first next => fun s => (first.eval behave s).andThen fun value => (next value).eval behave
  | .map f tree => fun s => (tree.eval behave s).map f
  | .sequence _ trees => .each (List.ofFn fun i => (trees i).eval behave)
  | .bestEffort tree => fun s => { tree.eval behave s with result := .ok () }
  | .compensated deregister act restore =>
    .compensated (deregister.eval behave) (act.eval behave) (restore.eval behave)

/-! ## Running a step -/

section

variable {S σ α β : Type} {behave : Behaviour S}

/-- The machine at the end of an evaluation. -/
def Outcome.machine (o : Outcome S α) (m : Machine (Prompt S behave) σ) :
    Machine (Prompt S behave) σ :=
  { m with channel := ⟨o.state, m.channel.issued ++ o.issued⟩ }

theorem Outcome.machine_machine (first : Outcome S α) (o : Outcome S β)
    (m : Machine (Prompt S behave) σ) :
    o.machine (first.machine m)
      = (⟨o.result, first.issued ++ o.issued, o.state⟩ : Outcome S β).machine m := by
  simp only [machine, List.append_assoc]

namespace Step

/-- The step issues the commands that `evaluate` says, and then hands over the result that `evaluate`
says. -/
def Evaluates (behave : Behaviour S) (step : Step σ α) (evaluate : S → Outcome S α) : Prop :=
  ∀ (reply : Except Error α → Routine σ) (m : Machine (Prompt S behave) σ),
    (step.routine reply).exec m = (reply (evaluate m.channel.state).result).exec
      ((evaluate m.channel.state).machine m)

theorem evaluates_transaction (t : Transaction α) :
    (transaction t : Step σ α).Evaluates behave (.transaction behave t) := by
  intro reply m
  rw [routine_transaction, Routine.exec]
  unfold Channel.send instChannelPrompt Outcome.transaction Outcome.machine
  dsimp only
  rcases behave m.channel.state t.command t.leads with ⟨_ | response, s⟩
  · rfl
  · dsimp only
    unfold Transaction.result
    cases response.ok
    · rfl
    · cases t.decode response <;> rfl

theorem evaluates_ready (result : Except Error α) :
    (ready result : Step σ α).Evaluates behave fun s => ⟨result, [], s⟩ := by
  intro reply m
  rw [routine_ready]
  unfold Outcome.machine
  rw [List.append_nil]

theorem evaluates_throw (e : Error) :
    (throw e : Step σ α).Evaluates behave fun s => ⟨.error e, [], s⟩ :=
  evaluates_ready (.error e)

theorem Evaluates.bind {first : Step σ α} {evaluate : S → Outcome S α} {next : α → Step σ β}
    {go : α → S → Outcome S β} (h : first.Evaluates behave evaluate)
    (hnext : ∀ value, (next value).Evaluates behave (go value)) :
    (first >>= next).Evaluates behave fun s => (evaluate s).andThen go := by
  intro reply m
  rw [routine_bind, h]
  dsimp only
  generalize evaluate m.channel.state = o
  obtain ⟨_ | value, issued, s⟩ := o
  · rfl
  · dsimp only
    rw [hnext value, Outcome.machine_machine]
    rfl

theorem Evaluates.map {step : Step σ α} {evaluate : S → Outcome S α}
    (h : step.Evaluates behave evaluate) (f : α → β) :
    (f <$> step).Evaluates behave fun s => (evaluate s).map f := by
  intro reply m
  rw [routine_map, h]
  dsimp only
  generalize evaluate m.channel.state = o
  obtain ⟨_ | value, issued, s⟩ := o
  · rfl
  · rfl

theorem Evaluates.bestEffort {step : Step σ Unit} {evaluate : S → Outcome S Unit}
    (h : step.Evaluates behave evaluate) :
    step.bestEffort.Evaluates behave fun s => { evaluate s with result := .ok () } := by
  intro reply m
  rw [routine_bestEffort, h]
  rfl

theorem Evaluates.compensated {deregister : Step σ Unit} {act : Step σ α} {restore : Step σ Unit}
    {off : S → Outcome S Unit} {acting : S → Outcome S α} {back : S → Outcome S Unit}
    (hderegister : deregister.Evaluates behave off) (hact : act.Evaluates behave acting)
    (hrestore : restore.Evaluates behave back) :
    (Step.compensated deregister act restore).Evaluates behave (.compensated off acting back) := by
  intro reply m
  rw [routine_compensated, hderegister]
  unfold Outcome.compensated
  generalize off m.channel.state = o
  obtain ⟨_ | _, issued, s⟩ := o
  · rfl
  · dsimp only
    rw [hact, Outcome.machine_machine]
    dsimp only [Outcome.machine, Outcome.andThen]
    generalize acting s = acted
    obtain ⟨_ | value, more, s⟩ := acted
    · dsimp only
      rw [hrestore, Outcome.machine]
      simp only [List.append_assoc]
    · dsimp only
      rw [hrestore, Outcome.machine]
      dsimp only
      generalize back s = restored
      obtain ⟨_ | _, last, s⟩ := restored
      · simp only [List.append_assoc]
      · simp only [List.append_assoc]

theorem Evaluates.chain {chain : Step σ (List α)} {evaluate : S → Outcome S (List α)}
    (h : chain.Evaluates behave evaluate) {n : Nat} {steps : Fin n → Step σ α}
    {evaluates : Fin n → S → Outcome S α} (hsteps : ∀ i, (steps i).Evaluates behave (evaluates i)) :
    ((List.ofFn steps).foldl (fun chain step => do
      let values ← chain
      let value ← step
      return values ++ [value]) chain).Evaluates behave fun s =>
        (evaluate s).andThen fun values s =>
          (Outcome.each (List.ofFn evaluates) s).map (values ++ ·) := by
  -- The chain grows to the left and the evaluation to the right: the induction is on the steps that
  -- come behind a chain of any length.
  induction n generalizing chain evaluate with
  | zero =>
    have hnothing : (fun s => (evaluate s).andThen fun values s =>
        (Outcome.each (List.ofFn evaluates) s).map (values ++ ·)) = evaluate := by
      funext s
      obtain ⟨_ | values, issued, s⟩ := evaluate s
      · rfl
      · simp [Outcome.andThen, Outcome.map, Outcome.each]
    rw [hnothing]
    exact h
  | succ n ih =>
    rw [List.ofFn_succ, List.ofFn_succ, List.foldl_cons]
    have hstep := h.bind fun values => (hsteps 0).bind fun value =>
      evaluates_ready (.ok (values ++ [value]))
    have hlast := ih hstep fun i => hsteps i.succ
    have hrest : ∀ s, (evaluate s).andThen (fun values s =>
        (Outcome.each (evaluates 0 :: List.ofFn fun i => evaluates i.succ) s).map (values ++ ·))
          = ((evaluate s).andThen fun values s => (evaluates 0 s).andThen fun value s =>
            ⟨.ok (values ++ [value]), [], s⟩).andThen fun values s =>
              (Outcome.each (List.ofFn fun i => evaluates i.succ) s).map (values ++ ·) := by
      intro s
      rw [Outcome.andThen_assoc]
      congr 1
      funext values s
      rw [Outcome.each, Outcome.andThen_map, Outcome.andThen_assoc]
      congr 1
      funext value s
      rw [Outcome.ready_andThen, Outcome.map_map]
      congr 1
      funext rest
      simp
    simp only [hrest]
    exact hlast

theorem Evaluates.sequence {n : Nat} {steps : Fin n → Step σ α}
    {evaluates : Fin n → S → Outcome S α} (hsteps : ∀ i, (steps i).Evaluates behave (evaluates i)) :
    (Step.sequence (List.ofFn steps)).Evaluates behave (.each (List.ofFn evaluates)) := by
  have hchain := (evaluates_ready (.ok [])).chain hsteps
  have hstart : (fun s => (⟨.ok [], [], s⟩ : Outcome S (List α)).andThen fun values s =>
      (Outcome.each (List.ofFn evaluates) s).map (values ++ ·)) = .each (List.ofFn evaluates) := by
    funext s
    rw [Outcome.ready_andThen]
    exact Outcome.map_id _
  rw [hstart] at hchain
  exact hchain

end Step

theorem StepTree.evaluates (tree : StepTree α) :
    (tree.step : Step σ α).Evaluates behave (tree.eval behave) := by
  induction tree with
  | transaction t => exact Step.evaluates_transaction t
  | command text => exact Step.evaluates_transaction (.plain text)
  | ready result => exact Step.evaluates_ready result
  | fail error => exact Step.evaluates_throw error
  | andThen first next hfirst hnext => exact hfirst.bind hnext
  | map f tree htree => exact htree.map f
  | sequence n trees htrees => exact Step.Evaluates.sequence htrees
  | bestEffort tree htree => exact htree.bestEffort
  | compensated deregister act restore hderegister hact hrestore =>
    exact hderegister.compensated hact hrestore

/-- Running a step is evaluating its tree: the commands leave one after the other, and then what
follows is given the result, once. -/
theorem StepTree.start_eq_eval (tree : StepTree α) (act : Except Error α → Act σ Unit)
    (m : Machine (Prompt S behave) σ) :
    m.start (tree.step.run >>= act) =
      ((tree.eval behave m.channel.state).machine m).start
        (act (tree.eval behave m.channel.state).result) := by
  have hevaluates : (tree.step : Step σ α).Evaluates behave (tree.eval behave) := tree.evaluates
  exact hevaluates (fun result => (act result).routine) m

end

end CellModem
