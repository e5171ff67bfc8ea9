import Mathlib.Logic.Relation
import CellModem.Channel
import CellModem.Proofs.Operations.Reports

/-!
# One strand among the rest

One routine is followed among everything else that goes on. It changes the state, has lines handled
and sends commands. What comes of a command comes at once, later or never, and may be anything; and
other code may change the state at any time.
-/

namespace CellModem

variable {σ α β : Type}

/-- What a routine has done. -/
inductive Doing (σ : Type) where
  | changed (change : σ → σ)
  | heard (x : Exchange)
  /-- It had lines handled, under this number unless the channel refused that. -/
  | listened (lead : String) (handler : Response → Routine σ) (id : Option Nat)

namespace Doing

def exchange? : Doing σ → Option Exchange
  | heard x => some x
  | changed _ | listened _ _ _ => none

def lead? : Doing σ → Option String
  | listened lead _ _ => some lead
  | changed _ | heard _ => none

end Doing

/-- The commands among this, with what came of them. -/
def exchanges (did : List (Doing σ)) : List Exchange := did.filterMap Doing.exchange?

/-- The leads of the lines that are handled since. -/
def leads (did : List (Doing σ)) : List String := did.filterMap Doing.lead?

section

variable (way : List Exchange) (did did' : List (Doing σ))

@[simp] theorem exchanges_append : exchanges (did ++ did') = exchanges did ++ exchanges did' :=
  List.filterMap_append

@[simp] theorem leads_append : leads (did ++ did') = leads did ++ leads did' :=
  List.filterMap_append

@[simp] theorem exchanges_heard : exchanges (way.map (Doing.heard (σ := σ))) = way := by
  unfold exchanges
  rw [List.filterMap_map]
  exact List.filterMap_some

@[simp] theorem leads_heard : leads (way.map (Doing.heard (σ := σ))) = [] := by
  unfold leads
  rw [List.filterMap_map]
  exact List.filterMap_eq_nil_iff.mpr fun _ _ => rfl

end

/-! ## What a routine will do -/

/-- Whatever comes of its commands, all that the routine does until it ends is as stated. -/
inductive Routine.Does : (List (Doing σ) → Prop) → Routine σ → Prop where
  | done {post : List (Doing σ) → Prop} (h : post []) : Does post .done
  | change {post : List (Doing σ) → Prop} (change : σ → σ) (next : Routine σ)
    (h : Does (fun more => post (.changed change :: more)) next) :
    Does post (.read fun s => .write (change s) next)
  | send {post : List (Doing σ) → Prop} (command : String) (leads : List String)
    (next : Option Response → Routine σ)
    (h : ∀ answer, Does (fun more => post (.heard (command, answer) :: more)) (next answer)) :
    Does post (.send command leads next)
  | register {post : List (Doing σ) → Prop} (lead : String) (handler : Response → Routine σ)
    (next : Option Nat → Routine σ)
    (h : ∀ id, Does (fun more => post (.listened lead handler id :: more)) (next id)) :
    Does post (.register lead handler next)

namespace Routine.Does

variable {post post' : List (Doing σ) → Prop} {r : Routine σ}

theorem imp (h : r.Does post) (weaker : ∀ did, post did → post' did) : r.Does post' := by
  induction h generalizing post' with
  | done h => exact .done (weaker [] h)
  | change change next h ih => exact .change change next (ih fun more => weaker (_ :: more))
  | send command leads next h ih =>
    exact .send command leads next fun answer => ih answer fun more => weaker (_ :: more)
  | register lead handler next h ih =>
    exact .register lead handler next fun id => ih id fun more => weaker (_ :: more)

/-- There is an end to come to. -/
theorem exists_did (h : r.Does post) : ∃ did, post did := by
  induction h with
  | done h => exact ⟨[], h⟩
  | change change next h ih =>
    obtain ⟨did, hdid⟩ := ih
    exact ⟨_, hdid⟩
  | send command leads next h ih =>
    obtain ⟨did, hdid⟩ := ih none
    exact ⟨_, hdid⟩
  | register lead handler next h ih =>
    obtain ⟨did, hdid⟩ := ih none
    exact ⟨_, hdid⟩

theorem changing {change : σ → σ} {next : Routine σ} (s : σ)
    (h : Does post (.read fun s => .write (change s) next)) :
    next.Does fun more => post (.changed change :: more) := by
  -- The code tells the change only state by state, so `s` is there for the code behind it.
  generalize hr : (Routine.read fun s => .write (change s) next) = r at h
  cases h with
  | change change' next' h =>
    have hsame : (fun s => Routine.write (change s) next) = fun s => .write (change' s) next' :=
      Routine.read.inj hr
    obtain rfl : change = change' := funext fun s => (Routine.write.inj (congrFun hsame s)).1
    obtain rfl : next = next' := (Routine.write.inj (congrFun hsame s)).2
    exact h
  | _ => cases hr

end Routine.Does

/-! ### Acts -/

namespace Act

variable {post : α → List (Doing σ) → Prop} {post' : β → List (Doing σ) → Prop}

/-- What the act does until it hands on, and what it hands on, are as stated. -/
def Does (post : α → List (Doing σ) → Prop) (act : Act σ α) : Prop :=
  ∀ (next : α → Routine σ) (all : List (Doing σ) → Prop),
    (∀ a did, post a did → (next a).Does fun more => all (did ++ more)) → (act next).Does all

theorem Does.routine {act : Act σ Unit} {post : Unit → List (Doing σ) → Prop} (h : act.Does post) :
    act.routine.Does (post ()) :=
  h _ _ fun _ did hdid => .done ((List.append_nil did).symm ▸ hdid)

theorem Does.imp {post' : α → List (Doing σ) → Prop} {act : Act σ α} (h : act.Does post)
    (weaker : ∀ a did, post a did → post' a did) : act.Does post' :=
  fun next all hnext => h next all fun a did hdid => hnext a did (weaker a did hdid)

theorem does_pure {a : α} (h : post a []) : (pure a : Act σ α).Does post :=
  fun _ _ hnext => hnext a [] h

theorem does_modify (change : σ → σ) :
    (modify change : Act σ PUnit).Does fun _ did => did = [.changed change] :=
  fun _ _ hnext => .change change _ (hnext _ _ rfl)

theorem does_send (command : String) (leads : List String) :
    (send command leads : Act σ _).Does fun answer did => did = [.heard (command, answer)] :=
  fun next _ hnext => .send command leads next fun answer => hnext answer _ rfl

theorem does_register (lead : String) (handler : Response → Act σ Unit) :
    (register lead handler : Act σ _).Does fun id did =>
      did = [.listened lead (fun line => (handler line).routine) id] :=
  fun next _ hnext => .register lead _ next fun id => hnext id _ rfl

theorem Does.bind {act : Act σ α} {f : α → Act σ β} (h : act.Does post)
    (hf : ∀ a did, post a did → (f a).Does fun b more => post' b (did ++ more)) :
    (act >>= f).Does post' := by
  intro next all hnext
  refine h _ all fun a did hdid => hf a did hdid next _ fun b more hmore => ?_
  refine (hnext b _ hmore).imp fun rest hrest => ?_
  rwa [← List.append_assoc]

end Act

/-! ### Steps -/

namespace Step

variable {post : Except Error α → List (Doing σ) → Prop}
  {post' : Except Error β → List (Doing σ) → Prop}

theorem does_transaction (t : Transaction α) :
    (transaction t : Step σ α).run.Does fun result did =>
      ∃ a, did = [.heard (t.command, a)] ∧ t.answered a = result := by
  have hsend : (send t.command t.leads : Step σ Response).run.Does fun sent did =>
      ∃ a, did = [.heard (t.command, a)] ∧ t.answered a = sent.bind t.result := by
    refine (Act.does_send t.command t.leads).bind ?_
    rintro answer _ rfl
    cases answer with
    | some response => exact Act.does_pure ⟨some response, rfl, rfl⟩
    | none => exact Act.does_pure ⟨none, rfl, rfl⟩
  refine hsend.bind ?_
  rintro sent _ ⟨a, rfl, ha⟩
  cases sent with
  | ok response => exact Act.does_pure ⟨a, rfl, ha⟩
  | error e => exact Act.does_pure ⟨a, rfl, ha⟩

theorem does_command (text : String) : (command text : Step σ Unit).run.Does fun result did =>
    ∃ a, did = [.heard (text, a)] ∧ acknowledgement a = result := by
  refine (does_transaction (.plain text)).imp ?_
  rintro result _ ⟨a, rfl, ha⟩
  exact ⟨a, rfl, by rw [← ha]; cases a <;> rfl⟩

theorem does_queryNumber (text lead : String) :
    (queryNumber text lead : Step σ Int).run.Does fun result did =>
      ∃ a, did = [.heard (text, a)] ∧ answerRead (·.decodeSingle lead .integer) a = result := by
  refine (does_transaction (.query text lead .integer)).imp ?_
  rintro result _ ⟨a, rfl, ha⟩
  exact ⟨a, rfl, Transaction.answered_eq (.query text lead .integer) ▸ ha⟩

theorem does_bind {step : Step σ α} {next : α → Step σ β} (h : step.run.Does post)
    (herror : ∀ e did, post (.error e) did → post' (.error e) did)
    (hnext : ∀ value did, post (.ok value) did →
      (next value).run.Does fun result more => post' result (did ++ more)) :
    (step >>= next).run.Does post' := by
  refine h.bind fun result did hdid => ?_
  cases result with
  | ok value => exact hnext value did hdid
  | error e => exact Act.does_pure ((List.append_nil did).symm ▸ herror e did hdid)

theorem does_lift {act : Act σ α} (h : act.Does fun a => post (.ok a)) :
    (ExceptT.lift act : Step σ α).run.Does post :=
  fun next all hnext => h (fun a => next (.ok a)) all fun a => hnext (.ok a)

theorem does_bestEffort {step : Step σ Unit} {post : Except Error Unit → List (Doing σ) → Prop}
    (h : step.run.Does fun _ => post (.ok ())) : step.bestEffort.run.Does post :=
  h.bind fun _ did hdid => Act.does_pure ((List.append_nil did).symm ▸ hdid)

end Step

/-! ## Strands -/

/-- How far the code has got. -/
inductive Strand.Place (σ : Type) where
  | code (r : Routine σ)
  /-- The channel has the command and the rest of the code. -/
  | waiting (command : String) (resume : Resume σ)
  /-- The channel has dropped them. -/
  | dropped (command : String)

structure Strand (σ : Type) where
  state : σ
  place : Strand.Place σ
  did : List (Doing σ)

namespace Strand

def Place.pending : Place σ → List String
  | code _ => []
  | waiting command _ | dropped command => [command]

/-- The code does not run at this moment. -/
def Place.Rests : Place σ → Prop
  | code r => r = .done
  | waiting _ _ | dropped _ => True

def start (s : σ) (act : Act σ Unit) : Strand σ := ⟨s, .code act.routine, []⟩

def past (w : Strand σ) : List Exchange := exchanges w.did

def sent (w : Strand σ) : List String := w.past.map Prod.fst ++ w.place.pending

def Ended (w : Strand σ) : Prop := w.place = .code .done

theorem Ended.rests {w : Strand σ} (ended : w.Ended) : w.place.Rests := by
  rw [ended]
  rfl

theorem Ended.sent {w : Strand σ} (ended : w.Ended) : w.sent = w.past.map Prod.fst := by
  unfold Strand.sent
  rw [ended]
  exact List.append_nil _

variable {others : σ → σ → Prop}

inductive Step (others : σ → σ → Prop) : Strand σ → Strand σ → Prop where
  | change (s : σ) (did : List (Doing σ)) (change : σ → σ) (next : Routine σ) :
    Step others ⟨s, .code (.read fun s => .write (change s) next), did⟩
      ⟨change s, .code next, did ++ [.changed change]⟩
  | answer (s : σ) (did : List (Doing σ)) (command : String) (leads : List String)
    (next : Option Response → Routine σ) (answer : Option Response) :
    Step others ⟨s, .code (.send command leads next), did⟩
      ⟨s, .code (next answer), did ++ [.heard (command, answer)]⟩
  | hold (s : σ) (did : List (Doing σ)) (command : String) (leads : List String)
    (next : Option Response → Routine σ) :
    Step others ⟨s, .code (.send command leads next), did⟩
      ⟨s, .waiting command fun response => next (some response), did⟩
  | deliver (s : σ) (did : List (Doing σ)) (command : String) (resume : Resume σ)
    (response : Response) :
    Step others ⟨s, .waiting command resume, did⟩
      ⟨s, .code (resume response), did ++ [.heard (command, some response)]⟩
  | drop (s : σ) (did : List (Doing σ)) (command : String) (resume : Resume σ) :
    Step others ⟨s, .waiting command resume, did⟩ ⟨s, .dropped command, did⟩
  | register (s : σ) (did : List (Doing σ)) (lead : String) (handler : Response → Routine σ)
    (next : Option Nat → Routine σ) (id : Option Nat) :
    Step others ⟨s, .code (.register lead handler next), did⟩
      ⟨s, .code (next id), did ++ [.listened lead handler id]⟩
  | other (s s' : σ) (place : Place σ) (did : List (Doing σ)) (change : others s s') :
    Step others ⟨s, place, did⟩ ⟨s', place, did⟩

abbrev Run (others : σ → σ → Prop) : Strand σ → Strand σ → Prop :=
  Relation.ReflTransGen (Step others)

/-! ## A strand does what its code says -/

/-- All that has been done and will be done is as stated. -/
def Follows (post : List (Doing σ) → Prop) (w : Strand σ) : Prop :=
  match w.place with
  | .code r => r.Does fun more => post (w.did ++ more)
  | .waiting command resume => ∀ response,
    (resume response).Does fun more => post (w.did ++ [.heard (command, some response)] ++ more)
  | .dropped command => ∀ response, ∃ more,
    post (w.did ++ [.heard (command, some response)] ++ more)

variable {post : List (Doing σ) → Prop} {w w' : Strand σ}

theorem follows_start (s : σ) {act : Act σ Unit} {post : Unit → List (Doing σ) → Prop}
    (h : act.Does post) : (start s act).Follows (post ()) := h.routine

theorem Follows.step (h : w.Follows post) (step : Step others w w') : w'.Follows post := by
  cases step with
  | change s did change next =>
    exact (h.changing s).imp fun more hmore => by rwa [List.append_assoc]
  | answer s did command leads next answer =>
    cases h with
    | send _ _ _ h => exact (h answer).imp fun more hmore => by rwa [List.append_assoc]
  | hold s did command leads next =>
    cases h with
    | send _ _ _ h =>
      exact fun response => (h (some response)).imp fun more hmore => by rwa [List.append_assoc]
  | deliver s did command resume response => exact h response
  | drop s did command resume => exact fun response => (h response).exists_did
  | register s did lead handler next id =>
    cases h with
    | register _ _ _ h => exact (h id).imp fun more hmore => by rwa [List.append_assoc]
  | other s s' place did change => exact h

theorem Follows.run (h : w.Follows post) (run : Run others w w') : w'.Follows post := by
  induction run with
  | refl => exact h
  | tail _ step ih => exact ih.step step

/-- What has been done and sent is the beginning of something as stated. -/
theorem Follows.begins (h : w.Follows post) : ∃ did, post did ∧ w.did <+: did ∧
    w.sent <+: (exchanges did).map Prod.fst := by
  obtain ⟨s, place, did⟩ := w
  cases place with
  | code r =>
    obtain ⟨more, hmore⟩ := h.exists_did
    refine ⟨_, hmore, List.prefix_append _ _, ?_⟩
    simp [sent, past, Place.pending]
  | waiting command resume =>
    obtain ⟨more, hmore⟩ := (h (.success [])).exists_did
    refine ⟨_, hmore, ?_, ?_⟩
    · rw [List.append_assoc]
      exact List.prefix_append _ _
    · simp [sent, past, Place.pending, exchanges, Doing.exchange?]
  | dropped command =>
    obtain ⟨more, hmore⟩ := h (.success [])
    refine ⟨_, hmore, ?_, ?_⟩
    · rw [List.append_assoc]
      exact List.prefix_append _ _
    · simp [sent, past, Place.pending, exchanges, Doing.exchange?]

theorem Follows.ended (h : w.Follows post) (ended : w.Ended) : post w.did := by
  obtain ⟨s, place, did⟩ := w
  obtain rfl : place = .code .done := ended
  cases h with
  | done h => rwa [List.append_nil] at h

/-- No other code changes the state. -/
abbrev Alone : σ → σ → Prop := fun _ _ => False

/-- Code that runs can go on by itself. -/
theorem Follows.goes_on (h : w.Follows post) (running : ¬ w.place.Rests) :
    ∃ w', Step Alone w w' := by
  obtain ⟨s, place, did⟩ := w
  cases place with
  | code r =>
    cases h with
    | done h => exact absurd rfl running
    | change change next h => exact ⟨_, .change s did change next⟩
    | send command leads next h => exact ⟨_, .hold s did command leads next⟩
    | register lead handler next h => exact ⟨_, .register s did lead handler next none⟩
  | waiting command resume => exact absurd trivial running
  | dropped command => exact absurd trivial running

/-- By itself, the strand does not go on for ever. -/
def Halts (w : Strand σ) : Prop := Acc (fun w' w => Step Alone w w') w

theorem halts_dropped (s : σ) (command : String) (did : List (Doing σ)) :
    Halts ⟨s, .dropped command, did⟩ := by
  refine ⟨_, fun w' step => ?_⟩
  cases step with
  | other _ _ _ _ change => exact change.elim

theorem halts_waiting {resume : Resume σ} {did : List (Doing σ)} {s : σ} {command : String}
    (h : ∀ response, Halts ⟨s, .code (resume response), did ++ [.heard (command, some response)]⟩) :
    Halts ⟨s, .waiting command resume, did⟩ := by
  refine ⟨_, fun w' step => ?_⟩
  cases step with
  | deliver _ _ _ _ response => exact h response
  | drop => exact halts_dropped s command did
  | other _ _ _ _ change => exact change.elim

theorem halts_code {r : Routine σ} (h : r.Does post) (s : σ) (did : List (Doing σ)) :
    Halts ⟨s, .code r, did⟩ := by
  induction h generalizing s did with
  | done h =>
    refine ⟨_, fun w' step => ?_⟩
    cases step with
    | other _ _ _ _ change => exact change.elim
  | change change next h ih =>
    refine ⟨_, fun w' step => ?_⟩
    generalize hw : (⟨s, .code (.read fun s => .write (change s) next), did⟩ : Strand σ) = w at step
    cases step with
    | change s' did' change' next' =>
      obtain ⟨rfl, hcode, rfl⟩ := Strand.mk.inj hw
      have hsame := congrFun (Routine.read.inj (Place.code.inj hcode)) s
      obtain ⟨-, rfl⟩ := Routine.write.inj hsame
      exact ih _ _
    | other _ _ _ _ change => exact change.elim
    | _ => cases hw
  | send command leads next h ih =>
    refine ⟨_, fun w' step => ?_⟩
    cases step with
    | answer _ _ _ _ _ answer => exact ih answer s _
    | hold => exact halts_waiting fun response => ih (some response) s _
    | other _ _ _ _ change => exact change.elim
  | register lead handler next h ih =>
    refine ⟨_, fun w' step => ?_⟩
    cases step with
    | register _ _ _ _ _ id => exact ih id s _
    | other _ _ _ _ change => exact change.elim

theorem Follows.halts (h : w.Follows post) : w.Halts := by
  obtain ⟨s, place, did⟩ := w
  cases place with
  | code r => exact halts_code h s did
  | waiting command resume => exact halts_waiting fun response => halts_code (h response) s _
  | dropped command => exact halts_dropped s command did

/-- Code that does not run has come to its end, or is behind a command that may yet be answered in
any way. -/
theorem Follows.rests (h : w.Follows post) (rests : w.place.Rests) :
    (w.Ended ∧ post w.did) ∨
      ∃ command, w.sent = w.past.map Prod.fst ++ [command] ∧ ∀ response, ∃ more,
        post (w.did ++ [.heard (command, some response)] ++ more) := by
  obtain ⟨s, place, did⟩ := w
  cases place with
  | code r =>
    obtain rfl : r = .done := rests
    exact .inl ⟨rfl, h.ended rfl⟩
  | waiting command resume =>
    exact .inr ⟨command, rfl, fun response => (h response).exists_did⟩
  | dropped command => exact .inr ⟨command, rfl, h⟩

/-! ## What is seen of the state -/

variable {view : σ → β}

/-- The changes among this lead from the one view to the other, if nothing else changes it. -/
def Shown (view : σ → β) : List (Doing σ) → β → β → Prop
  | [], seen, seen' => seen' = seen
  | .changed change :: rest, seen, seen' =>
    ∃ s, view s = seen ∧ Shown view rest (view (change s)) seen'
  | .heard _ :: rest, seen, seen' | .listened _ _ _ :: rest, seen, seen' =>
    Shown view rest seen seen'

theorem shown_append {did did' : List (Doing σ)} {seen seen' : β} :
    Shown view (did ++ did') seen seen' ↔
      ∃ between, Shown view did seen between ∧ Shown view did' between seen' := by
  induction did generalizing seen with
  | nil => simp [Shown]
  | cons doing rest ih =>
    cases doing with
    | changed change =>
      simp only [List.cons_append, Shown, ih]
      constructor
      · rintro ⟨s, hs, between, hrest, hdid'⟩
        exact ⟨between, ⟨s, hs, hrest⟩, hdid'⟩
      · rintro ⟨between, ⟨s, hs, hrest⟩, hdid'⟩
        exact ⟨s, hs, between, hrest, hdid'⟩
    | heard x => exact ih
    | listened lead handler id => exact ih

/-- None of this changes what is seen. -/
def Unseen (view : σ → β) (did : List (Doing σ)) : Prop :=
  ∀ change, .changed change ∈ did → ∀ s, view (change s) = view s

theorem unseen_heard (way : List Exchange) : Unseen view (way.map Doing.heard) := by
  intro change hchange
  obtain ⟨x, -, hx⟩ := List.mem_map.mp hchange
  cases hx

theorem Unseen.shown {did : List (Doing σ)} {seen seen' : β} (unseen : Unseen view did)
    (shown : Shown view did seen seen') : seen' = seen := by
  induction did generalizing seen with
  | nil => exact shown
  | cons doing rest ih =>
    have hrest : Unseen view rest := fun change hmem => unseen change (List.mem_cons_of_mem _ hmem)
    cases doing with
    | changed change =>
      obtain ⟨s, rfl, hshown⟩ := shown
      rw [unseen change List.mem_cons_self s] at hshown
      exact ih hrest hshown
    | heard x => exact ih hrest shown
    | listened lead handler id => exact ih hrest shown

/-- If no other code changes what is seen, the strand's changes make up for all of it. -/
theorem Run.shown (run : Run others w w') (apart : ∀ s s', others s s' → view s' = view s)
    (fresh : w.did = []) : Shown view w'.did (view w.state) (view w'.state) := by
  induction run with
  | refl =>
    rw [fresh]
    rfl
  | tail _ step ih =>
    cases step with
    | change s did change next => exact shown_append.mpr ⟨_, ih, s, rfl, rfl⟩
    | answer | deliver | register => exact shown_append.mpr ⟨_, ih, rfl⟩
    | hold | drop => exact ih
    | other s s' place did change => rwa [← apart s s' change] at ih

/-- All is seen as before until the one change that matters, and from then on as that left it. -/
theorem Shown.once {did before after : List (Doing σ)} {change : σ → σ} {seen seen' : β}
    (shown : Shown view did seen seen') (begins : did <+: before ++ .changed change :: after)
    (hbefore : Unseen view before) (hafter : Unseen view after) :
    seen' = seen ∨ ∃ s, view s = seen ∧ seen' = view (change s) := by
  obtain ⟨rest, hrest⟩ := begins
  rcases List.append_eq_append_iff.mp hrest with ⟨more, rfl, -⟩ | ⟨more, rfl, hmore⟩
  · exact .inl (Unseen.shown (fun f hf => hbefore f (List.mem_append_left _ hf)) shown)
  obtain ⟨between, hbetween, hshown⟩ := shown_append.mp shown
  obtain rfl := hbefore.shown hbetween
  cases more with
  | nil => exact .inl hshown
  | cons doing more =>
    obtain ⟨rfl, rfl⟩ := List.cons.inj hmore
    obtain ⟨s, hs, hshown⟩ := hshown
    exact .inr ⟨s, hs,
      Unseen.shown (fun f hf => hafter f (List.mem_append_left _ hf)) hshown⟩

theorem Shown.all {before after : List (Doing σ)} {change : σ → σ} {seen seen' : β}
    (shown : Shown view (before ++ .changed change :: after) seen seen')
    (hbefore : Unseen view before) (hafter : Unseen view after) :
    ∃ s, view s = seen ∧ seen' = view (change s) := by
  obtain ⟨between, hbetween, s, hs, hshown⟩ := shown_append.mp shown
  obtain rfl := hbefore.shown hbetween
  exact ⟨s, hs, hafter.shown hshown⟩

/-! ## Strands on machines -/

theorem exists_run {C : Type → Type} [Channel C] {r : Routine σ} (h : r.Does post) (m : Machine C σ)
    (did : List (Doing σ)) : ∃ w, Run others ⟨m.state, .code r, did⟩ w ∧
      w.state = (r.exec m).state ∧ (w.Ended ∨ ∃ command resume channel leads,
        w.place = .waiting command resume ∧
        Channel.send channel command leads resume = .held (r.exec m).channel) := by
  induction h generalizing m did with
  | done h => exact ⟨_, .refl, rfl, .inl rfl⟩
  | change change next h ih =>
    obtain ⟨w, hrun, hw⟩ := ih { m with state := change m.state } (did ++ [.changed change])
    exact ⟨w, .head (.change m.state did change next) hrun, hw⟩
  | send command leads next h ih =>
    cases hsent : Channel.send m.channel command leads fun response => next (some response) with
    | refused channel =>
      obtain ⟨w, hrun, hw⟩ := ih none { m with channel := channel } _
      rw [Routine.exec_refused hsent]
      exact ⟨w, .head (.answer m.state did command leads next none) hrun, hw⟩
    | answered channel response =>
      obtain ⟨w, hrun, hw⟩ := ih (some response) { m with channel := channel } _
      rw [Routine.exec_answered hsent]
      exact ⟨w, .head (.answer m.state did command leads next (some response)) hrun, hw⟩
    | held channel =>
      rw [Routine.exec_held hsent]
      exact ⟨_, .single (.hold m.state did command leads next), rfl,
        .inr ⟨_, _, _, leads, rfl, hsent⟩⟩
  | register lead handler next h ih =>
    unfold Routine.exec
    split
    · obtain ⟨w, hrun, hw⟩ := ih none m (did ++ [.listened lead handler none])
      exact ⟨w, .head (.register m.state did lead handler next none) hrun, hw⟩
    · next id channel _ =>
      obtain ⟨w, hrun, hw⟩ := ih (some id) { m with channel := channel }
        (did ++ [.listened lead handler (some id)])
      exact ⟨w, .head (.register m.state did lead handler next (some id)) hrun, hw⟩

/-- On a machine, code runs until it has ended or the channel holds the rest of it. -/
theorem exists_started {C : Type → Type} [Channel C] {act : Act σ Unit}
    {post : Unit → List (Doing σ) → Prop} (h : act.Does post) (m : Machine C σ) :
    ∃ w, Run others (.start m.state act) w ∧ w.place.Rests ∧ (m.start act).state = w.state := by
  obtain ⟨w, hrun, hstate, hplace⟩ := exists_run h.routine m []
  refine ⟨w, hrun, ?_, hstate.symm⟩
  rcases hplace with hended | ⟨command, resume, -, -, hplace, -⟩
  · exact hended.rests
  · rw [hplace]
    trivial

end Strand

/-! ## Acts that leave the channel alone -/

namespace Act

/-- The act reads and changes nothing but the state, which looks the same afterwards, and hands on
at once. -/
def Inside (view : σ → β) (act : Act σ α) : Prop :=
  ∀ s, ∃ a s', view s' = view s ∧ ∀ {C : Type → Type} [Channel C] (channel : C (Resume σ))
    (next : α → Routine σ), (act next).exec ⟨channel, s⟩ = (next a).exec ⟨channel, s'⟩

variable {γ : Type} {view : σ → γ}

theorem inside_pure (a : α) : (pure a : Act σ α).Inside view :=
  fun s => ⟨a, s, rfl, fun _ _ => rfl⟩

theorem inside_get : (get : Act σ σ).Inside view := fun s => ⟨s, s, rfl, fun _ _ => rfl⟩

theorem inside_modifyGet (f : σ → α × σ) (same : ∀ s, view (f s).2 = view s) :
    (modifyGet f : Act σ α).Inside view :=
  fun s => ⟨(f s).1, (f s).2, same s, fun _ _ => rfl⟩

theorem inside_modify (f : σ → σ) (same : ∀ s, view (f s) = view s) :
    (modify f : Act σ PUnit).Inside view :=
  inside_modifyGet (fun s => (PUnit.unit, f s)) same

theorem Inside.bind {act : Act σ α} {f : α → Act σ β} (h : act.Inside view)
    (hf : ∀ a, (f a).Inside view) : (act >>= f).Inside view := by
  intro s
  obtain ⟨a, s', hview, hact⟩ := h s
  obtain ⟨b, s'', hview', hrest⟩ := hf a s'
  exact ⟨b, s'', hview'.trans hview, fun channel next =>
    (hact channel fun a => f a next).trans (hrest channel next)⟩

end Act

end CellModem
