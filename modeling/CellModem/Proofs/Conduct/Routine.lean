import CellModem.Channel
import CellModem.Step

/-!
# What code keeps

Code runs until it ends or waits, and goes on when its answer comes, with the state there is then. So
what it keeps is told for both: what it leaves behind now, and what it makes later of whatever it
finds. This is told of code on any channel.
-/

namespace CellModem

variable {σ α β : Type}

namespace Routine

/-- From this state the code leaves one with `post` when it ends or waits. What waits then, and the
handlers it registers, keep `kept` whenever they run. Only commands with `may` are sent. -/
def Keeps (kept : σ → Prop) (may : String → Prop) : Routine σ → (σ → Prop) → σ → Prop
  | .done, post, s => post s
  | .read next, post, s => (next s).Keeps kept may post s
  | .write s next, post, _ => next.Keeps kept may post s
  | .send command _ next, post, s =>
    may command ∧ post s ∧ (∀ answer, (next answer).Keeps kept may post s) ∧
      ∀ response s', kept s' → (next (some response)).Keeps kept may kept s'
  | .register _ handler next, post, s =>
    (∀ line s', kept s' → (handler line).Keeps kept may kept s') ∧
      ∀ id, (next id).Keeps kept may post s
  | .unregisterAll next, post, s => next.Keeps kept may post s
  | .cancelAll next, post, s => next.Keeps kept may post s
  | .close next, post, s => next.Keeps kept may post s
  | .traffic next, post, s => ∀ sent, (next sent).Keeps kept may post s
  | .fork child next, post, s => child.Keeps kept may (fun s => next.Keeps kept may post s) s

variable {kept post : σ → Prop} {may : String → Prop}

theorem Keeps.mono {post' : σ → Prop} (weaker : ∀ s, post s → post' s) {r : Routine σ} {s : σ}
    (h : r.Keeps kept may post s) : r.Keeps kept may post' s := by
  induction r generalizing post post' s with
  | done => exact weaker s h
  | read next ih => exact ih s weaker h
  | write s next ih => exact ih weaker h
  | send command leads next ih =>
    obtain ⟨hmay, hpost, hnow, hlater⟩ := h
    exact ⟨hmay, weaker s hpost, fun answer => ih answer weaker (hnow answer), hlater⟩
  | register lead handler next ihh ih => exact ⟨h.1, fun id => ih id weaker (h.2 id)⟩
  | unregisterAll next ih => exact ih weaker h
  | cancelAll next ih => exact ih weaker h
  | close next ih => exact ih weaker h
  | traffic next ih => exact fun sent => ih sent weaker (h sent)
  | fork child next ihc ih => exact ihc (fun s => ih weaker) h

theorem Keeps.exec {C : Type → Type} [Channel C] {r : Routine σ} {m : Machine C σ}
    (h : r.Keeps kept may post m.state) : post (r.exec m).state := by
  induction r generalizing post m with
  | done => exact h
  | read next ih => exact ih m.state h
  | write s next ih => exact ih (m := { m with state := s }) h
  | send command leads next ih =>
    obtain ⟨-, hpost, hnow, -⟩ := h
    cases hsent : Channel.send m.channel command leads fun response => next (some response) with
    | refused channel =>
      rw [exec_refused hsent]
      exact ih none (hnow none)
    | answered channel response =>
      rw [exec_answered hsent]
      exact ih _ (hnow (some response))
    | held channel =>
      rw [exec_held hsent]
      exact hpost
  | register lead handler next ihh ih =>
    unfold Routine.exec
    split
    · exact ih none (h.2 none)
    · exact ih _ (h.2 _)
  | unregisterAll next ih =>
    exact ih (m := { m with channel := Channel.unregisterAll m.channel }) h
  | cancelAll next ih => exact ih (m := { m with channel := Channel.cancelAll m.channel }) h
  | close next ih => exact ih (m := { m with channel := Channel.close m.channel }) h
  | traffic next ih => exact ih _ (h _)
  | fork child next ihc ih => exact ih (ihc h)

/-- The code does nothing to the channel, and leaves a state with `post`. -/
def Inward (post : σ → Prop) : Routine σ → σ → Prop
  | .done, s => post s
  | .read next, s => (next s).Inward post s
  | .write s next, _ => next.Inward post s
  | .fork child next, s => child.Inward (fun s => next.Inward post s) s
  | _, _ => False

theorem Inward.mono {post' : σ → Prop} (weaker : ∀ s, post s → post' s) {r : Routine σ} {s : σ}
    (h : r.Inward post s) : r.Inward post' s := by
  induction r generalizing post post' s with
  | done => exact weaker s h
  | read next ih => exact ih s weaker h
  | write s next ih => exact ih weaker h
  | fork child next ihc ih => exact ihc (fun s => ih weaker) h
  | _ => exact h

theorem Inward.keeps {r : Routine σ} {s : σ} (h : r.Inward post s) : r.Keeps kept may post s := by
  induction r generalizing post s with
  | done => exact h
  | read next ih => exact ih s h
  | write s next ih => exact ih h
  | fork child next ihc ih => exact (ihc h).mono fun _ => ih
  | _ => exact absurd h id

theorem Inward.exec {C : Type → Type} [Channel C] {r : Routine σ} {m : Machine C σ}
    (h : r.Inward post m.state) :
    post (r.exec m).state ∧ (r.exec m).channel = m.channel := by
  induction r generalizing post m with
  | done => exact ⟨h, rfl⟩
  | read next ih => exact ih m.state h
  | write s next ih => exact ih (m := { m with state := s }) h
  | fork child next ihc ih =>
    obtain ⟨hchild, hchannel⟩ := ihc h
    obtain ⟨hpost, hsame⟩ := ih (m := child.exec m) hchild
    exact ⟨hpost, hsame.trans hchannel⟩
  | _ => exact absurd h id

end Routine

/-- Whoever goes on does nothing to the channel. -/
theorem Machine.resumeAll_inward {C : Type → Type} [Channel C] {m : Machine C σ} (state : post m.state)
    {answered : List (Resume σ × Response)}
    (inward : ∀ w ∈ answered, ∀ s, post s → (w.1 w.2).Inward post s) :
    post (m.resumeAll answered).state ∧ (m.resumeAll answered).channel = m.channel := by
  induction answered generalizing m with
  | nil => exact ⟨state, rfl⟩
  | cons w rest ih =>
    obtain ⟨hw, hrest⟩ := List.forall_mem_cons.mp inward
    obtain ⟨hstate, hchannel⟩ := (hw m.state state).exec
    obtain ⟨hstate', hchannel'⟩ := ih hstate hrest
    exact ⟨hstate', hchannel'.trans hchannel⟩

/-- All commands. -/
abbrev Anything : String → Prop := fun _ => True

/-! ## Acts that change the state only so -/

/-- The changes leave it as it is. -/
def Stable (change : σ → σ → Prop) (P : σ → Prop) : Prop := ∀ s s', change s s' → P s → P s'

namespace Act

variable {change : σ → σ → Prop} {may : String → Prop}

/-- The act may wait in between. It changes the state only so, now and later. -/
def Tame (change : σ → σ → Prop) (may : String → Prop) (act : Act σ α) : Prop :=
  ∀ kept now post : σ → Prop, Stable change kept → Stable change now → (∀ s, now s → post s) →
    ∀ next s, now s → (∀ a s', now s' → (next a).Keeps kept may post s') →
      (∀ a s', kept s' → (next a).Keeps kept may kept s') → (act next).Keeps kept may post s

/-- The act hands on at once. It changes the state only so, and so does what it starts. -/
def Prompt (change : σ → σ → Prop) (may : String → Prop) (act : Act σ α) : Prop :=
  ∀ kept now post : σ → Prop, Stable change kept → Stable change now →
    ∀ next s, now s → (∀ a s', now s' → (next a).Keeps kept may post s') →
      (act next).Keeps kept may post s

theorem Prompt.tame {act : Act σ α} (h : act.Prompt change may) : act.Tame change may :=
  fun kept now post hkept hnow _ next s hs hnext _ => h kept now post hkept hnow next s hs hnext

/-- The whole of a tame act keeps what its changes leave as it is. -/
theorem Tame.routine {act : Act σ Unit} (h : act.Tame change may) {kept now post : σ → Prop}
    (hkept : Stable change kept) (hnow : Stable change now) (weaker : ∀ s, now s → post s) {s : σ}
    (hs : now s) : act.routine.Keeps kept may post s :=
  h kept now post hkept hnow weaker _ s hs (fun _ s' => weaker s') fun _ _ hs' => hs'

theorem prompt_pure (a : α) : (pure a : Act σ α).Prompt change may :=
  fun _ _ _ _ _ _ s hs hnext => hnext a s hs

theorem prompt_get : (get : Act σ σ).Prompt change may :=
  fun _ _ _ _ _ _ s hs hnext => hnext s s hs

theorem prompt_modifyGet (f : σ → α × σ) (h : ∀ s, change s (f s).2) :
    (modifyGet f : Act σ α).Prompt change may :=
  fun _ _ _ _ hnow _ s hs hnext => hnext _ _ (hnow s _ (h s) hs)

theorem prompt_modify (f : σ → σ) (h : ∀ s, change s (f s)) :
    (modify f : Act σ PUnit).Prompt change may :=
  prompt_modifyGet (fun s => (PUnit.unit, f s)) h

theorem prompt_fork {act : Act σ Unit} (h : act.Tame change may) :
    (Act.fork act).Prompt change may :=
  fun _ _ _ hkept hnow _ _ hs hnext => h.routine hkept hnow (fun s hs => hnext () s hs) hs

theorem prompt_unregisterAll : (Act.unregisterAll : Act σ Unit).Prompt change may :=
  fun _ _ _ _ _ _ s hs hnext => hnext () s hs

theorem prompt_cancelAll : (Act.cancelAll : Act σ Unit).Prompt change may :=
  fun _ _ _ _ _ _ s hs hnext => hnext () s hs

theorem Prompt.bind {act : Act σ α} {f : α → Act σ β} (h : act.Prompt change may)
    (hf : ∀ a, (f a).Prompt change may) : (act >>= f).Prompt change may :=
  fun kept now post hkept hnow next s hs hnext =>
    h kept now post hkept hnow _ s hs fun a s' hs' =>
      hf a kept now post hkept hnow next s' hs' hnext

theorem Tame.bind {act : Act σ α} {f : α → Act σ β} (h : act.Tame change may)
    (hf : ∀ a, (f a).Tame change may) : (act >>= f).Tame change may := by
  intro kept now post hkept hnow weaker next s hs hnext hlater
  refine h kept now post hkept hnow weaker _ s hs (fun a s' hs' => ?_) fun a s' hs' => ?_
  · exact hf a kept now post hkept hnow weaker next s' hs' hnext hlater
  · exact hf a kept kept kept hkept hkept (fun _ hs => hs) next s' hs' hlater hlater

section

variable {change' : σ → σ → Prop} (weaker : ∀ s s', change s s' → change' s s')

include weaker

theorem Tame.mono {act : Act σ α} (h : act.Tame change may) : act.Tame change' may :=
  fun kept now post hkept hnow => h kept now post (fun s s' hs => hkept s s' (weaker s s' hs))
    fun s s' hs => hnow s s' (weaker s s' hs)

theorem Prompt.mono {act : Act σ α} (h : act.Prompt change may) : act.Prompt change' may :=
  fun kept now post hkept hnow => h kept now post (fun s s' hs => hkept s s' (weaker s s' hs))
    fun s s' hs => hnow s s' (weaker s s' hs)

end

/-- The act does nothing to the channel, and changes the state only so. -/
def Inner (change : σ → σ → Prop) (act : Act σ Unit) : Prop :=
  ∀ now : σ → Prop, Stable change now → ∀ s, now s → act.routine.Inward now s

theorem inner_pure : (pure () : Act σ Unit).Inner change := fun _ _ _ hs => hs

theorem inner_modify (f : σ → σ) (h : ∀ s, change s (f s)) : (modify f : Act σ Unit).Inner change :=
  fun _ hnow s hs => hnow s (f s) (h s) hs

theorem Inner.mono {change' : σ → σ → Prop} (weaker : ∀ s s', change s s' → change' s s')
    {act : Act σ Unit} (h : act.Inner change) : act.Inner change' :=
  fun now hnow => h now fun s s' hs => hnow s s' (weaker s s' hs)

/-! ## Acts in a row -/

/-- The act only sends, changes the state so, and registers handlers that do no more than change it so
before it hands on, so what holds of every way on from there holds of the act. -/
def Made (change : σ → σ → Prop) (may : String → Prop) (act : Act σ α) : Prop :=
  ∀ P : Routine σ → Prop,
    (∀ command leads (next : Option Response → Routine σ), may command →
      (∀ answer, P (next answer)) → P (.send command leads next)) →
    (∀ {γ : Type} (g : σ → γ × σ) (next : γ → Routine σ), (∀ s, change s (g s).2) →
      (∀ c, P (next c)) → P (.read fun s => .write (g s).2 (next (g s).1))) →
    (∀ lead (handler : Response → Act σ Unit) (next : Option Nat → Routine σ),
      (∀ line, (handler line).Inner change) → (∀ id, P (next id)) →
        P (.register lead (fun line => (handler line).routine) next)) →
    ∀ next, (∀ a, P (next a)) → P (act next)

theorem Made.tame {act : Act σ α} (h : act.Made change may) : act.Tame change may := by
  intro kept now post hkept hnow weaker next s hs hnext hlater
  refine (h (fun r => (∀ s, now s → r.Keeps kept may post s) ∧
    ∀ s, kept s → r.Keeps kept may kept s) ?_ ?_ ?_ next fun a => ⟨hnext a, hlater a⟩).1 s hs
  · intro command leads next hmay ih
    exact ⟨fun s hs => ⟨hmay, weaker s hs, fun answer => (ih answer).1 s hs, fun response =>
        (ih (some response)).2⟩,
      fun s hs => ⟨hmay, hs, fun answer => (ih answer).2 s hs, fun response =>
        (ih (some response)).2⟩⟩
  · intro γ g next hg ih
    exact ⟨fun s hs => (ih _).1 _ (hnow s _ (hg s) hs), fun s hs => (ih _).2 _ (hkept s _ (hg s) hs)⟩
  · intro lead handler next hhandler ih
    have hhandler : ∀ line s, kept s → (handler line).routine.Keeps kept may kept s :=
      fun line s hs => (hhandler line kept hkept s hs).keeps
    exact ⟨fun s hs => ⟨hhandler, fun id => (ih id).1 s hs⟩,
      fun s hs => ⟨hhandler, fun id => (ih id).2 s hs⟩⟩

theorem made_pure (a : α) : (pure a : Act σ α).Made change may := fun _ _ _ _ _ h => h a

theorem made_modifyGet (f : σ → α × σ) (h : ∀ s, change s (f s).2) :
    (modifyGet f : Act σ α).Made change may :=
  fun _ _ changes _ next hnext => changes f next h hnext

theorem made_modify (f : σ → σ) (h : ∀ s, change s (f s)) :
    (modify f : Act σ PUnit).Made change may :=
  made_modifyGet (fun s => (PUnit.unit, f s)) h

theorem made_send (command : String) (leads : List String) (h : may command) :
    (Act.send command leads : Act σ _).Made change may :=
  fun _ sends _ _ next hnext => sends command leads next h hnext

theorem made_register (lead : String) {handler : Response → Act σ Unit}
    (h : ∀ line, (handler line).Inner change) : (Act.register lead handler).Made change may :=
  fun _ _ _ registers next hnext => registers lead handler next h hnext

theorem Made.mono {change' : σ → σ → Prop} (weaker : ∀ s s', change s s' → change' s s')
    {act : Act σ α} (h : act.Made change may) : act.Made change' may := by
  intro P sends changes registers next hnext
  refine h P sends (fun g next hg => changes g next fun s => weaker _ _ (hg s)) ?_ next hnext
  exact fun lead handler next hhandler =>
    registers lead handler next fun line => (hhandler line).mono weaker

theorem Made.bind {act : Act σ α} {f : α → Act σ β} (h : act.Made change may)
    (hf : ∀ a, (f a).Made change may) : (act >>= f).Made change may :=
  fun P sends changes registers next hnext =>
    h P sends changes registers _ fun a => hf a P sends changes registers next hnext

end Act

/-! ## Steps -/

namespace Step

variable {change : σ → σ → Prop} {may : String → Prop}

theorem made_transaction (t : Transaction α) (h : may t.command) :
    (transaction t : Step σ α).run.Made change may := by
  have hsend : (Act.send t.command t.leads : Act σ _).Made change may := Act.made_send _ _ h
  refine (hsend.bind fun answer => ?_).bind fun result => ?_
  · cases answer with
    | some response => exact Act.made_pure _
    | none => exact Act.made_pure _
  · cases result with
    | ok response => exact Act.made_pure _
    | error e => exact Act.made_pure _

theorem made_bind {step : Step σ α} {next : α → Step σ β} (h : step.run.Made change may)
    (hnext : ∀ value, (next value).run.Made change may) : (step >>= next).run.Made change may := by
  refine h.bind fun result => ?_
  cases result with
  | ok value => exact hnext value
  | error e => exact Act.made_pure _

theorem made_lift {act : Act σ α} (h : act.Made change may) :
    (ExceptT.lift act : Step σ α).run.Made change may :=
  h.bind fun _ => Act.made_pure _

theorem made_bestEffort {step : Step σ Unit} (h : step.run.Made change may) :
    step.bestEffort.run.Made change may :=
  h.bind fun _ => Act.made_pure _

theorem tame_bind {step : Step σ α} {next : α → Step σ β} (h : step.run.Tame change may)
    (hnext : ∀ value, (next value).run.Tame change may) : (step >>= next).run.Tame change may := by
  refine h.bind fun result => ?_
  cases result with
  | ok value => exact hnext value
  | error e => exact (Act.prompt_pure _).tame

theorem tame_lift {act : Act σ α} (h : act.Tame change may) :
    (ExceptT.lift act : Step σ α).run.Tame change may :=
  h.bind fun _ => (Act.prompt_pure _).tame

end Step

/-! ## Clients -/

/-- What clients do that ask for such steps: they look at the state and ask, as often as they like, and
do so again whenever they are answered. -/
inductive Client (asked : (α : Type) → Step σ α → Prop) : Act σ Unit → Prop where
  | rest : Client asked (pure ())
  | look {next : σ → Act σ Unit} (goesOn : ∀ s, Client asked (next s)) :
    Client asked (do next (← get))
  | ask {α : Type} {step : Step σ α} {reply : Except Error α → Act σ Unit} {next : Act σ Unit}
    (is : asked α step) (answered : ∀ result, Client asked (reply result))
    (goesOn : Client asked next) :
    Client asked (do Act.fork (do reply (← step.run)); next)

/-- Clients do what the steps do that they ask for. -/
theorem Client.tame {asked : (α : Type) → Step σ α → Prop} {change : σ → σ → Prop}
    {may : String → Prop} (tame : ∀ α step, asked α step → step.run.Tame change may)
    {act : Act σ Unit} (client : Client asked act) : act.Tame change may := by
  induction client with
  | rest => exact (Act.prompt_pure ()).tame
  | look _ ih => exact Act.prompt_get.tame.bind ih
  | ask is _ _ ihReply ih =>
    exact (Act.prompt_fork ((tame _ _ is).bind ihReply)).tame.bind fun _ => ih

/-- The code of such clients. -/
def Routine.OfClient (asked : (α : Type) → Step σ α → Prop) (r : Routine σ) : Prop :=
  ∃ act, Client asked act ∧ act.routine = r

/-- The step is asked for, and its result is not waited for. -/
def Act.calling {α : Type} (step : Step σ α) : Act σ Unit :=
  Act.fork do
    let _ ← step.run

theorem Routine.ofClient_calling {asked : (α : Type) → Step σ α → Prop} {α : Type} {step : Step σ α}
    (is : asked α step) : (Act.calling step).routine.OfClient asked :=
  have resting : Client asked (pure ()) := .rest
  ⟨_, .ask is (fun _ => resting) resting, rfl⟩

/-- What is kept by the steps that clients ask for, they keep. -/
theorem Routine.OfClient.keeps {asked : (α : Type) → Step σ α → Prop} {change : σ → σ → Prop}
    {may : String → Prop} (tame : ∀ α step, asked α step → step.run.Tame change may)
    {kept : σ → Prop} (stable : Stable change kept) {r : Routine σ} (client : r.OfClient asked)
    {s : σ} (hs : kept s) : r.Keeps kept may kept s := by
  obtain ⟨act, hclient, rfl⟩ := client
  exact (hclient.tame tame).routine stable stable (fun _ hs => hs) hs

end CellModem
