import CellModem.Proofs.Operations.Discipline
import CellModem.Proofs.Operations.Memory

/-!
# What comes of the operations in a run

A run is recorded with the answers that were heard in it. What the instances remember and what is
announced changes only where an operation that succeeds is settled, and then as its exchanges say.
-/

namespace CellModem

variable {υ : Type} {f g : Facility} {n k : Nat} {ρ : Type}

/-! ## What settling does to the host -/

namespace Host

def cache? (f : Facility) (n : Nat) (h : Host υ) : Option f.Cache :=
  (h.instance? f n).map Instance.cache

def shown (f : Facility) (n : Nat) (h : Host υ) : Bool :=
  (h.instance? f n).any (·.life.state = .registered)

/-- No instance remembers anything else than before, and nothing was announced. -/
structure Silent (h h' : Host υ) : Prop where
  cache : ∀ f n, h'.cache? f n = h.cache? f n
  events : h'.events = h.events

theorem cache?_modifyInstance (h : Host υ) (change : Instance f → Instance f)
    (same : ∀ inst, (change inst).cache = inst.cache) (g : Facility) (k : Nat) :
    (h.modifyInstance f n change).cache? g k = h.cache? g k := by
  unfold cache?
  by_cases hat : g = f ∧ k = n
  · obtain ⟨rfl, rfl⟩ := hat
    rw [instance?_modifyInstance, Option.map_map]
    exact congrArg (Option.map · _) (funext same)
  · rw [instance?_modifyInstance_of_ne h change hat]

theorem silent_modifyInstance (h : Host υ) (change : Instance f → Instance f)
    (same : ∀ inst, (change inst).cache = inst.cache) : h.Silent (h.modifyInstance f n change) :=
  ⟨cache?_modifyInstance h change same, rfl⟩

theorem silent_claim (h : Host υ) (f : Facility) (n : Nat) : h.Silent (h.claim f n).2 := by
  rcases claim_cases f n h with ⟨e, hclaim⟩ | ⟨taken, hclaim, -⟩
  · rw [hclaim]
    exact ⟨fun _ _ => rfl, rfl⟩
  · rw [hclaim]
    exact silent_modifyInstance h _ fun _ => rfl

theorem silent_settle_error (h : Host υ) (n : Nat) (e : Error) :
    h.Silent (h.settle n (.error e : Except Error (Settled f ρ))) :=
  silent_modifyInstance h _ fun _ => rfl

/-- The host after a success, but for what is announced. -/
def stored (h : Host υ) (n : Nat) (settled : Settled f ρ) : Host υ :=
  (h.release f n).modifyInstance f n fun inst => { inst with cache := settled.store inst.cache }

theorem settle_ok (h : Host υ) (n : Nat) (settled : Settled f ρ) :
    h.settle n (.ok settled) = match settled.change with
      | none => h.stored n settled
      | some change => (h.stored n settled).announce f n change := rfl

theorem instance?_stored (h : Host υ) (n : Nat) (settled : Settled f ρ) :
    (h.stored n settled).instance? f n = (h.instance? f n).map fun inst =>
      { inst with busy := false, cache := settled.store inst.cache } := by
  unfold stored release
  rw [instance?_modifyInstance, instance?_modifyInstance, Option.map_map]
  rfl

theorem announce_eq (h : Host υ) (f : Facility) (n : Nat) (change : String × PropertyValue) :
    h.announce f n change =
      if h.shown f n then h.emit (.propertyChanged f.name change.1 change.2) else h := by
  unfold announce shown
  cases h.instance? f n with
  | none => rfl
  | some inst =>
    dsimp only [Option.any]
    by_cases hshown : inst.life.state = .registered
    · rw [if_pos hshown, if_pos (decide_eq_true hshown)]
    · rw [if_neg hshown, if_neg fun h => hshown (of_decide_eq_true h)]

theorem shown_stored (h : Host υ) (n : Nat) (settled : Settled f ρ) :
    (h.stored n settled).shown f n = h.shown f n := by
  unfold shown
  rw [instance?_stored]
  cases h.instance? f n <;> rfl

theorem instances_settle_ok (h : Host υ) (n : Nat) (settled : Settled f ρ) :
    (h.settle n (.ok settled)).instances = (h.stored n settled).instances := by
  rw [settle_ok]
  cases settled.change with
  | none => rfl
  | some change =>
    dsimp only
    rw [announce_eq]
    unfold emit
    repeat' split
    all_goals rfl

theorem cache?_settle_ok (h : Host υ) (n : Nat) (settled : Settled f ρ) :
    (h.settle n (.ok settled)).cache? f n = (h.cache? f n).map settled.store := by
  have hinstance : (h.settle n (.ok settled)).instance? f n
      = (h.stored n settled).instance? f n := by
    unfold instance?
    rw [instances_settle_ok]
  unfold cache?
  rw [hinstance, instance?_stored]
  cases h.instance? f n <;> rfl

theorem events_emit (h : Host υ) (event : Event) :
    (h.emit event).events = if h.listening then h.events ++ [event] else h.events := by
  unfold emit
  split <;> rfl

/-- What is announced when a property of the instance was set. -/
def announcement (h : Host υ) (f : Facility) (n : Nat) :
    Option (String × PropertyValue) → List Event
  | none => []
  | some (name, value) =>
    if h.shown f n && h.listening then [.propertyChanged f.name name value] else []

theorem events_settle_ok (h : Host υ) (n : Nat) (settled : Settled f ρ) :
    (h.settle n (.ok settled)).events = h.events ++ h.announcement f n settled.change := by
  rw [settle_ok]
  cases settled.change with
  | none => exact (List.append_nil h.events).symm
  | some change =>
    dsimp only [announcement]
    rw [announce_eq, shown_stored]
    cases h.shown f n with
    | false => exact (List.append_nil h.events).symm
    | true =>
      refine (events_emit _ _).trans ?_
      change (if h.listening then h.events ++ _ else h.events) = _
      cases h.listening with
      | false => exact (List.append_nil h.events).symm
      | true => rfl

end Host

/-! ## Calls of what facilities offer -/

variable {ι : Type} {α : ι → Type}

/-- Calls of instances, each for one of the operations there are. -/
structure Services (α : ι → Type) where
  facility : ι → Facility
  number : ι → Nat
  service : ∀ i, Service (facility i) (α i)

def Services.calls (services : Services α) : Calls α where
  facility := services.facility
  number := services.number
  operation i := (services.service i).operation
  built i := (services.service i).overDriver.built

namespace Calls

variable {calls : Calls α} {services : Services α} {i : ι}

theorem replying_inj {result result' : Except Error (α i)}
    (h : replying i result = replying i result') : result = result' := by
  have hnoted := (Routine.write.inj (congrFun (Routine.read.inj h) (.initial []))).1
  have hreply := List.head_eq_of_cons_eq (congrArg Host.observed hnoted)
  exact eq_of_heq (Sigma.mk.inj hreply).2

theorem settling_inj {result result' : Except Error (Settled (calls.facility i) (α i))}
    (h : calls.settling i result = calls.settling i result') :
    result.map Settled.answer = result'.map Settled.answer ∧ ∀ host : Logged α,
      host.settle (calls.number i) result = host.settle (calls.number i) result' := by
  have hwrite := fun host => Routine.write.inj (congrFun (Routine.read.inj h) host)
  exact ⟨replying_inj (hwrite (.initial [])).2, fun host => (hwrite host).1⟩

/-! ## Where an operation has got to -/

/-- With these exchanges behind it the code goes on with the operation of the call, so that all its
exchanges and its result are as stated. -/
def Goes (calls : Calls α) (i : ι)
    (post : List Exchange → Except Error (Settled (calls.facility i) (α i)) → Prop)
    (past : List Exchange) (r : Routine (Logged α)) : Prop :=
  Routine.Comes (fun _ => True) (calls.settling i) (fun way result => post (past ++ way) result) r

section

variable {post : List Exchange → Except Error (Settled (calls.facility i) (α i)) → Prop}
  {past : List Exchange}

theorem Goes.asked {spend : Allowance → Allowance} {next : Allowance → Routine (Logged α)}
    (h : Goes calls i post past (.asking spend next)) (a : Allowance) :
    Goes calls i post past (next a) := by
  unfold Goes at h
  generalize hr : Routine.asking spend next = r at h
  cases h with
  | send => cases hr
  | ask spend' next' _ h' =>
    rw [asking_inj hr a]
    exact h' a trivial
  | reply result => exact absurd hr (asking_ne_settling calls spend next result)

theorem Goes.sent {command : String} {leads : List String}
    {next : Option Response → Routine (Logged α)}
    (h : Goes calls i post past (.send command leads next)) (answer : Option Response) :
    Goes calls i post (past ++ [(command, answer)]) (next answer) := by
  cases h with
  | send _ _ _ h =>
    refine (h answer).imp fun way result hway => ?_
    rw [List.append_assoc]
    exact hway

/-- Code is known by what it does only, so it may be another result that is settled, with the same
effect. -/
theorem Goes.settled {result : Except Error (Settled (calls.facility i) (α i))}
    (h : Goes calls i post past (calls.settling i result)) :
    ∃ result', post past result' ∧ result'.map Settled.answer = result.map Settled.answer ∧
      ∀ host : Logged α,
        host.settle (calls.number i) result = host.settle (calls.number i) result' := by
  unfold Goes at h
  generalize hr : calls.settling i result = r at h
  cases h with
  | send => cases hr
  | ask spend next => exact absurd hr.symm (asking_ne_settling calls spend next _)
  | reply result' hresult =>
    obtain ⟨hanswer, hsettle⟩ := settling_inj hr
    rw [List.append_nil] at hresult
    exact ⟨result', hresult, hanswer.symm, hsettle⟩

end

/-- With these exchanges behind it the code goes on with the operation of the call. -/
def Continues (services : Services α) (i : ι) (taken : Vendor × Driver) (past : List Exchange)
    (r : Routine (Logged α)) : Prop :=
  Routine.Comes (fun _ => True) (services.calls.settling i) (fun way result =>
    ∀ settled, result = .ok settled →
      settled.Follows (services.service i).sets (services.service i).gets taken.1 (past ++ way)) r

variable {taken : Vendor × Driver} {past : List Exchange}

theorem continues_iff {r : Routine (Logged α)} : Continues services i taken past r ↔
    Goes services.calls i (fun way result => ∀ settled, result = .ok settled →
      settled.Follows (services.service i).sets (services.service i).gets taken.1 way) past r :=
  .rfl

theorem continues_working (services : Services α) (i : ι) (taken : Vendor × Driver) :
    Continues services i taken [] (services.calls.working i taken) :=
  (services.service i).follows.carryOut taken.1 taken.2 (services.calls.settling i)

theorem Continues.asked {spend : Allowance → Allowance} {next : Allowance → Routine (Logged α)}
    (h : Continues services i taken past (.asking spend next)) (a : Allowance) :
    Continues services i taken past (next a) :=
  continues_iff.mpr ((continues_iff.mp h).asked a)

theorem Continues.sent {command : String} {leads : List String}
    {next : Option Response → Routine (Logged α)}
    (h : Continues services i taken past (.send command leads next)) (answer : Option Response) :
    Continues services i taken (past ++ [(command, answer)]) (next answer) :=
  continues_iff.mpr ((continues_iff.mp h).sent answer)

theorem Continues.settled {settled : Settled (services.facility i) (α i)}
    (h : Continues services i taken past (services.calls.settling i (.ok settled))) :
    ∃ settled' : Settled (services.facility i) (α i),
      settled'.Follows (services.service i).sets (services.service i).gets taken.1 past ∧
      settled'.answer = settled.answer ∧ ∀ host : Logged α,
        host.settle (services.number i) (.ok settled)
          = host.settle (services.number i) (.ok settled') := by
  obtain ⟨result, hfollows, hanswer, hsettle⟩ := (continues_iff.mp h).settled
  cases result with
  | error e => cases hanswer
  | ok settled' => exact ⟨settled', hfollows settled' rfl, Except.ok.inj hanswer, hsettle⟩

namespace World

/-! ## Successes -/

variable {w w' : World α}

/-- The operation of the call is settled, and it was a success. -/
inductive Succeeds (calls : Calls α) (i : ι) (w : World α) : α i → World α → Prop where
  | settle (stack : List (ι × Routine (Logged α))) (settled : Settled (calls.facility i) (α i))
    (top : w.stack = (i, calls.settling i (.ok settled)) :: stack) :
    Succeeds calls i w settled.answer
      { w with
        host := w.host.settle (calls.number i) (.ok settled)
        stack := (i, replying i (.ok settled.answer)) :: stack
        settled := i :: w.settled }

/-- A caller that is about to be answered is answered before anything else happens. -/
theorem told_next {result : Except Error (α i)} {stack : List (ι × Routine (Logged α))}
    (top : w.stack = (i, replying i result) :: stack) (step : Step calls w w') :
    w'.host = w.host.note ⟨i, result⟩ := by
  have hclosed : ¬ w.Open := by
    intro opened
    cases opened (i, replying i result) (by rw [top]; rfl)
  cases step with
  | grant j taken host fresh opened => exact absurd opened hclosed
  | refuse j e host fresh opened => exact absurd opened hclosed
  | deliver j before after resume response opened => exact absurd opened hclosed
  | drop j before after resume opened => exact absurd opened hclosed
  | other host opened => exact absurd opened hclosed
  | ask j stack' spend next top' =>
    obtain ⟨-, hr⟩ := Prod.mk.inj (List.head_eq_of_cons_eq (top'.symm.trans top))
    exact absurd hr (asking_ne_replying spend next result)
  | settle j stack' result' top' =>
    obtain ⟨-, hr⟩ := Prod.mk.inj (List.head_eq_of_cons_eq (top'.symm.trans top))
    exact absurd hr (working_ne_replying (.settle result') result)
  | reply j stack' result' top' =>
    obtain ⟨rfl, hr⟩ := Prod.mk.inj (List.head_eq_of_cons_eq (top'.symm.trans top))
    rw [replying_inj hr]
  | pop j stack' top' => cases top'.symm.trans top
  | answer j stack' command leads next answer top' => cases top'.symm.trans top
  | hold j stack' command leads next top' => cases top'.symm.trans top

theorem Succeeds.told {answer : α i} (h : Succeeds calls i w answer w') {w'' : World α}
    (step : Step calls w' w'') : w''.host = w'.host.note ⟨i, .ok answer⟩ := by
  cases h with
  | settle stack settled top => exact told_next rfl step

/-- The step is nothing but that instances are created, shown or removed, or that something else
happens to the host. -/
def Elsewhere (w w' : World α) : Prop :=
  ∃ host, w.Open ∧ w.host.Apart host ∧ w' = { w with host := host }

/-- Only a success is remembered or announced. -/
theorem silent_step (step : Step calls w w') (fails : ∀ i answer, ¬ Succeeds calls i w answer w') :
    w.Elsewhere w' ∨ w.host.Silent w'.host := by
  cases step with
  | grant i taken host fresh opened claims =>
    have hsilent := w.host.silent_claim (calls.facility i) (calls.number i)
    rw [show w.host.claim _ _ = _ from claims] at hsilent
    exact .inr hsilent
  | refuse i e host fresh opened claims =>
    have hsilent := w.host.silent_claim (calls.facility i) (calls.number i)
    rw [show w.host.claim _ _ = _ from claims] at hsilent
    exact .inr hsilent
  | settle i stack result top =>
    cases result with
    | error e => exact .inr (w.host.silent_settle_error (ρ := α i) (calls.number i) e)
    | ok settled => exact absurd (.settle stack settled top) (fails i settled.answer)
  | other host opened apart => exact .inl ⟨host, opened, apart, rfl⟩
  | ask | reply | pop | answer | hold | deliver | drop => exact .inr ⟨fun _ _ => rfl, rfl⟩

/-! ## Runs with what was heard in them -/

/-- The call was given its instance in the run to this world. -/
def Granted (calls : Calls α) (w : World α) (i : ι) (taken : Vendor × Driver) : Prop :=
  ∃ (w₀ : World α) (host : Logged α), Run calls .empty w₀ ∧ i ∉ w₀.started ∧ w₀.Open ∧
    calls.claim i w₀.host = (.ok taken, host) ∧ Run calls
      { w₀ with
        host := host
        stack := (i, calls.working i taken) :: w₀.stack
        started := i :: w₀.started
        claimed := i :: w₀.claimed } w

theorem Granted.next (h : Granted calls w i taken) (step : Step calls w w') :
    Granted calls w' i taken := by
  obtain ⟨w₀, host, hrun, hfresh, hopened, hclaims, hafter⟩ := h
  exact ⟨w₀, host, hrun, hfresh, hopened, hclaims, hafter.tail step⟩

end World

variable [DecidableEq ι]

/-- What belongs to the call, in order. -/
def belonging {β : Type} (i : ι) (entries : List (ι × β)) : List β :=
  (entries.filter (·.1 = i)).map (·.2)

theorem belonging_concat {β : Type} (i : ι) (entries : List (ι × β)) (x : β) :
    belonging i (entries ++ [(i, x)]) = belonging i entries ++ [x] := by
  simp [belonging]

theorem belonging_concat_of_ne {β : Type} {i j : ι} (ne : j ≠ i) (entries : List (ι × β)) (x : β) :
    belonging i (entries ++ [(j, x)]) = belonging i entries := by
  simp [belonging, ne]

namespace World

/-- A call hears what came of its last command: at once, or when its completion is called. -/
inductive Hears (w : World α) (i : ι) : Exchange → World α → Prop where
  | answer (stack : List (ι × Routine (Logged α))) (command : String) (leads : List String)
    (next : Option Response → Routine (Logged α)) (answer : Option Response)
    (top : w.stack = (i, .send command leads next) :: stack) :
    Hears w i (command, answer)
      { w with stack := (i, next answer) :: stack, commands := w.commands ++ [(i, command)] }
  | deliver (before after : List (ι × Resume (Logged α))) (resume : Resume (Logged α))
    (response : Response) (command : String) (opened : w.Open)
    (held : w.held = before ++ (i, resume) :: after)
    (sent : (belonging i w.commands).getLast? = some command) :
    Hears w i (command, some response)
      { w with stack := (i, resume response) :: w.stack, held := before ++ after }

variable {w w' : World α} {heard heard' : List (ι × Exchange)} {x : Exchange}

theorem Hears.step (calls : Calls α) (h : Hears w i x w') : Step calls w w' := by
  cases h with
  | answer stack command leads next answer top =>
    exact .answer w i stack command leads next answer top
  | deliver before after resume response command opened held sent =>
    exact .deliver w i before after resume response opened held

/-- A run to this world, with what the calls heard in it, in order. -/
inductive Recorded (calls : Calls α) : World α → List (ι × Exchange) → Prop where
  | empty : Recorded calls .empty []
  | hear {w w' : World α} {heard : List (ι × Exchange)} {i : ι} {x : Exchange}
    (before : Recorded calls w heard) (hears : Hears w i x w') :
    Recorded calls w' (heard ++ [(i, x)])
  | quiet {w w' : World α} {heard : List (ι × Exchange)} (before : Recorded calls w heard)
    (step : Step calls w w') (unheard : ∀ i x, ¬ Hears w i x w') : Recorded calls w' heard

theorem Recorded.run (h : Recorded calls w heard) : Run calls .empty w := by
  induction h with
  | empty => exact .refl
  | hear _ hears ih => exact ih.tail (hears.step calls)
  | quiet _ step _ ih => exact ih.tail step

theorem exists_recorded (run : Run calls .empty w) : ∃ heard, Recorded calls w heard := by
  induction run with
  | refl => exact ⟨[], .empty⟩
  | @tail w w' _ step ih =>
    obtain ⟨heard, hheard⟩ := ih
    by_cases hears : ∃ i x, Hears w i x w'
    · obtain ⟨i, x, hears⟩ := hears
      exact ⟨_, .hear hheard hears⟩
    · exact ⟨heard, .quiet hheard step fun i x h => hears ⟨i, x, h⟩⟩

/-- Code of a call that has its instance goes on with the operation, from what the call heard. -/
def Tells (services : Services α) (w : World α) (heard : List (ι × Exchange))
    (frame : ι × Routine (Logged α)) : Prop :=
  w.Occupies frame.1 → ended frame.2 = false → ∃ taken, Granted services.calls w frame.1 taken ∧
    Continues services frame.1 taken (belonging frame.1 heard) frame.2

/-- A completion goes on with the operation, from what the call heard and the answer to its last
command. -/
def Awaits (services : Services α) (w : World α) (heard : List (ι × Exchange))
    (k : ι × Resume (Logged α)) : Prop :=
  ∃ taken command, Granted services.calls w k.1 taken ∧
    (belonging k.1 w.commands).getLast? = some command ∧ ∀ response, Continues services k.1 taken
      (belonging k.1 heard ++ [(command, some response)]) (k.2 response)

structure Traced (services : Services α) (w : World α) (heard : List (ι × Exchange)) : Prop where
  frames : ∀ frame ∈ w.stack, w.Tells services heard frame
  held : ∀ k ∈ w.held, w.Awaits services heard k
  fresh : ∀ i, i ∉ w.claimed → belonging i heard = []

theorem traced_empty : (empty : World α).Traced services [] where
  frames := nofun
  held := nofun
  fresh _ _ := rfl

theorem Tells.next {frame : ι × Routine (Logged α)} (h : w.Tells services heard frame)
    (step : Step services.calls w w')
    (same : ended frame.2 = false → w'.Occupies frame.1 →
      w.Occupies frame.1 ∧ belonging frame.1 heard' = belonging frame.1 heard) :
    w'.Tells services heard' frame := by
  intro hoccupies hgoing
  obtain ⟨hbefore, hheard⟩ := same hgoing hoccupies
  obtain ⟨taken, hgranted, hcontinues⟩ := h hbefore hgoing
  rw [hheard]
  exact ⟨taken, hgranted.next step, hcontinues⟩

theorem Awaits.next {k : ι × Resume (Logged α)} (h : w.Awaits services heard k)
    (step : Step services.calls w w')
    (commands : belonging k.1 w'.commands = belonging k.1 w.commands)
    (same : belonging k.1 heard' = belonging k.1 heard) : w'.Awaits services heard' k := by
  obtain ⟨taken, command, hgranted, hsent, hcontinues⟩ := h
  refine ⟨taken, command, hgranted.next step, commands ▸ hsent, fun response => ?_⟩
  rw [same]
  exact hcontinues response

/-- Nothing is sent or heard, and what is on the stack is not new or goes on as it should. -/
theorem Traced.keep (h : w.Traced services heard) (step : Step services.calls w w')
    (stack : ∀ frame ∈ w'.stack, w'.Tells services heard frame ∨
      frame ∈ w.stack ∧ (ended frame.2 = false → w'.Occupies frame.1 → w.Occupies frame.1))
    (held : ∀ k ∈ w'.held, k ∈ w.held) (commands : w'.commands = w.commands)
    (claimed : ∀ i ∈ w.claimed, i ∈ w'.claimed) : w'.Traced services heard where
  frames frame hframe := by
    rcases stack frame hframe with hnew | ⟨hold, hoccupies⟩
    · exact hnew
    · exact (h.frames frame hold).next step fun hgoing hafter => ⟨hoccupies hgoing hafter, rfl⟩
  held k hk := (h.held k (held k hk)).next step (by rw [commands]) rfl
  fresh i hi := h.fresh i fun hbefore => hi (claimed i hbefore)

/-- The code of a call goes on after one more exchange. -/
theorem Traced.hear {r : Routine (Logged α)} {rest : List (ι × Routine (Logged α))}
    (h : w.Traced services heard) (hears : Hears w i x w') (occupies : w.Occupies i)
    (claimed : w'.claimed = w.claimed) (settled : w'.settled = w.settled)
    (stack : w'.stack = (i, r) :: rest)
    (beneath : ∀ frame ∈ rest, frame ∈ w.stack ∧ (frame.1 = i → ended frame.2))
    (held : ∀ k ∈ w'.held, k ∈ w.held ∧ k.1 ≠ i ∧
      belonging k.1 w'.commands = belonging k.1 w.commands)
    (goes : ∃ taken, Granted services.calls w i taken ∧
      Continues services i taken (belonging i heard ++ [x]) r) :
    w'.Traced services (heard ++ [(i, x)]) := by
  have hstep := hears.step services.calls
  have hoccupies : ∀ j, w'.Occupies j ↔ w.Occupies j := by
    intro j
    unfold Occupies
    rw [claimed, settled]
  have hother : ∀ {j}, j ≠ i → belonging j (heard ++ [(i, x)]) = belonging j heard :=
    fun hj => belonging_concat_of_ne (Ne.symm hj) heard x
  constructor
  · rw [stack]
    refine List.forall_mem_cons.mpr ⟨fun _ _ => ?_, fun frame hframe => ?_⟩
    · obtain ⟨taken, hgranted, hcontinues⟩ := goes
      refine ⟨taken, hgranted.next hstep, ?_⟩
      rw [belonging_concat]
      exact hcontinues
    · obtain ⟨hbefore, hended⟩ := beneath frame hframe
      refine (h.frames frame hbefore).next hstep fun hgoing hafter => ⟨(hoccupies _).mp hafter, ?_⟩
      refine hother fun hi => ?_
      rw [hended hi] at hgoing
      cases hgoing
  · intro k hk
    obtain ⟨hbefore, hne, hcommands⟩ := held k hk
    exact (h.held k hbefore).next hstep hcommands (hother hne)
  · intro j hj
    rw [claimed] at hj
    have hne : j ≠ i := fun hi => hj (hi ▸ occupies.1)
    rw [hother hne]
    exact h.fresh j hj

theorem Traced.hears (h : w.Traced services heard) (sound : w.Sound services.calls)
    (hears : Hears w i x w') : w'.Traced services (heard ++ [(i, x)]) := by
  cases id hears with
  | answer stack command leads next answer top =>
    obtain ⟨hoccupies, -⟩ := sound.occupies_of_working top nofun rfl
    obtain ⟨hstack, hheld, -⟩ := sound.exclusive top rfl
    obtain ⟨taken, hgranted, hcontinues⟩ :=
      h.frames _ (top ▸ List.mem_cons_self) hoccupies rfl
    refine h.hear hears hoccupies rfl rfl rfl (fun frame hframe => ?_) (fun k hk => ?_) ?_
    · exact ⟨top ▸ List.mem_cons_of_mem _ hframe, hstack frame hframe⟩
    · exact ⟨hk, hheld k hk, belonging_concat_of_ne (Ne.symm (hheld k hk)) w.commands command⟩
    · exact ⟨taken, hgranted, hcontinues.sent answer⟩
  | deliver before after resume response command opened held sent =>
    obtain ⟨⟨hoccupies, -⟩, -⟩ := sound.remaining held
    obtain ⟨hstack, hheld⟩ := sound.exclusive_held held
    obtain ⟨taken, last, hgranted, hlast, hcontinues⟩ := h.held (i, resume) (by simp [held])
    obtain rfl := Option.some.inj (hlast.symm.trans sent)
    refine h.hear hears hoccupies rfl rfl rfl (fun frame hframe => ?_) (fun k hk => ?_) ?_
    · exact ⟨hframe, hstack frame hframe⟩
    · exact ⟨mem_held held k hk, hheld k hk, rfl⟩
    · exact ⟨taken, hgranted, hcontinues response⟩

theorem Traced.grant (h : w.Traced services heard) (sound : w.Sound services.calls)
    (run : Run services.calls .empty w) {host : Logged α} (fresh : i ∉ w.started) (opened : w.Open)
    (claims : services.calls.claim i w.host = (.ok taken, host)) :
    Traced services
      { w with
        host := host
        stack := (i, services.calls.working i taken) :: w.stack
        started := i :: w.started
        claimed := i :: w.claimed } heard := by
  have hunclaimed : i ∉ w.claimed := fun hi => fresh (sound.claimed i hi)
  refine h.keep (.grant w i taken host fresh opened claims) (fun frame hframe => ?_) (fun _ => id)
    rfl fun _ => List.mem_cons_of_mem i
  rcases List.mem_cons.mp hframe with rfl | hbefore
  · refine .inl fun _ _ => ⟨taken, ⟨w, host, run, fresh, opened, claims, .refl⟩, ?_⟩
    dsimp only
    rw [h.fresh i hunclaimed]
    exact continues_working services i taken
  · refine .inr ⟨hbefore, fun hgoing hafter => ⟨?_, hafter.2⟩⟩
    rcases List.mem_cons.mp hafter.1 with hi | hclaimed
    · have hstarted := sound.started_of_running hbefore hgoing
      exact absurd (hi ▸ hstarted) fresh
    · exact hclaimed

theorem Traced.hold (h : w.Traced services heard) (sound : w.Sound services.calls)
    {stack : List (ι × Routine (Logged α))} {command : String} {leads : List String}
    {next : Option Response → Routine (Logged α)}
    (top : w.stack = (i, .send command leads next) :: stack) :
    Traced services
      { w with
        stack := stack
        held := (i, fun response => next (some response)) :: w.held
        commands := w.commands ++ [(i, command)] } heard := by
  have hstep : Step services.calls w _ := .hold w i stack command leads next top
  obtain ⟨hoccupies, -⟩ := sound.occupies_of_working top nofun rfl
  obtain ⟨-, hheld, -⟩ := sound.exclusive top rfl
  obtain ⟨taken, hgranted, hcontinues⟩ := h.frames _ (top ▸ List.mem_cons_self) hoccupies rfl
  refine ⟨fun frame hframe => ?_, List.forall_mem_cons.mpr ⟨?_, fun k hk => ?_⟩, h.fresh⟩
  · have hbefore : frame ∈ w.stack := top ▸ List.mem_cons_of_mem _ hframe
    exact (h.frames frame hbefore).next hstep fun _ hafter => ⟨hafter, rfl⟩
  · refine ⟨taken, command, hgranted.next hstep, ?_, fun response => ?_⟩
    · rw [belonging_concat, List.getLast?_concat]
    · exact hcontinues.sent (some response)
  · exact (h.held k hk).next hstep
      (belonging_concat_of_ne (Ne.symm (hheld k hk)) w.commands command) rfl

theorem Traced.quiet (h : w.Traced services heard) (sound : w.Sound services.calls)
    (run : Run services.calls .empty w) (step : Step services.calls w w')
    (unheard : ∀ i x, ¬ Hears w i x w') : w'.Traced services heard := by
  -- Code beneath the top is not new.
  have hunder : ∀ {top : ι × Routine (Logged α)} {stack}, w.stack = top :: stack →
      ∀ frame ∈ stack, frame ∈ w.stack := fun hstack _ => hstack ▸ List.mem_cons_of_mem _
  cases id step with
  | grant i taken host fresh opened claims => exact h.grant sound run fresh opened claims
  | refuse i e host fresh opened claims =>
    refine h.keep step (fun frame hframe => ?_) (fun _ => id) rfl fun _ => id
    rcases List.mem_cons.mp hframe with rfl | hbefore
    · exact .inl fun hi => absurd (sound.claimed i hi.1) fresh
    · exact .inr ⟨hbefore, fun _ => id⟩
  | ask i stack spend next top =>
    have hoccupies := (sound.occupies_of_working top (asking_ne_replying spend next) rfl).1
    obtain ⟨taken, hgranted, hcontinues⟩ := h.frames _ (top ▸ List.mem_cons_self) hoccupies rfl
    refine h.keep step (fun frame hframe => ?_) (fun _ => id) rfl fun _ => id
    rcases List.mem_cons.mp hframe with rfl | hbelow
    · exact .inl fun _ _ => ⟨taken, hgranted.next step, hcontinues.asked _⟩
    · exact .inr ⟨hunder top frame hbelow, fun _ => id⟩
  | settle i stack result top =>
    refine h.keep step (fun frame hframe => ?_) (fun _ => id) rfl fun _ => id
    rcases List.mem_cons.mp hframe with rfl | hbelow
    · exact .inl fun hi => absurd List.mem_cons_self hi.2
    · have hbefore := occupies_settled (w := w) i frame.1
      exact .inr ⟨hunder top frame hbelow, fun _ hafter => (hbefore.mp hafter).2⟩
  | reply i stack result top =>
    refine h.keep step (fun frame hframe => ?_) (fun _ => id) rfl fun _ => id
    rcases List.mem_cons.mp hframe with rfl | hbelow
    · exact .inl fun _ hgoing => nomatch hgoing
    · exact .inr ⟨hunder top frame hbelow, fun _ => id⟩
  | pop i stack top =>
    exact h.keep step (fun frame hframe => .inr ⟨hunder top frame hframe, fun _ => id⟩)
      (fun _ => id) rfl fun _ => id
  | answer i stack command leads next answer top =>
    exact absurd (.answer stack command leads next answer top) (unheard i _)
  | hold i stack command leads next top => exact h.hold sound top
  | deliver i before after resume response opened held =>
    obtain ⟨-, command, -, hsent, -⟩ := h.held (i, resume) (by simp [held])
    exact absurd (.deliver before after resume response command opened held hsent) (unheard i _)
  | drop i before after resume opened held =>
    exact h.keep step (fun frame hframe => .inr ⟨hframe, fun _ => id⟩) (mem_held held) rfl
      fun _ => id
  | other host opened apart =>
    exact h.keep step (fun frame hframe => .inr ⟨hframe, fun _ => id⟩) (fun _ => id) rfl fun _ => id

theorem Recorded.traced (h : Recorded services.calls w heard) : w.Traced services heard := by
  induction h with
  | empty => exact traced_empty
  | hear before hears ih => exact ih.hears (run_keeps before.run).1 hears
  | quiet before step unheard ih => exact ih.quiet (run_keeps before.run).1 before.run step unheard

/-! ## What comes of it -/

/-- What is remembered and announced when the operation of a call succeeds. -/
structure Outcome (services : Services α) (w w' : World α) (way : List Exchange) (i : ι)
    (taken : Vendor × Driver) (settled : Settled (services.facility i) (α i)) : Prop where
  granted : Granted services.calls w i taken
  follows : settled.Follows (services.service i).sets (services.service i).gets taken.1 way
  stored : ∃ cache, w.host.cache? (services.facility i) (services.number i) = some cache ∧
    w'.host.cache? (services.facility i) (services.number i) = some (settled.store cache)
  others : ∀ f n, ¬ (f = services.facility i ∧ n = services.number i) →
    w'.host.cache? f n = w.host.cache? f n
  announced : w'.host.events = w.host.events
    ++ w.host.announcement (services.facility i) (services.number i) (services.service i).sets

theorem Traced.outcome (h : w.Traced services heard) (sound : w.Sound services.calls)
    (booked : w.Booked services.calls) {answer : α i}
    (succeeds : Succeeds services.calls i w answer w') :
    ∃ taken settled, w.Outcome services w' (belonging i heard) i taken settled ∧
      settled.answer = answer := by
  cases succeeds with
  | settle stack settled top =>
    obtain ⟨hoccupies, -⟩ := sound.occupies_of_working top (working_ne_replying (.settle _)) rfl
    obtain ⟨taken, hgranted, hcontinues⟩ := h.frames _ (top ▸ List.mem_cons_self) hoccupies rfl
    obtain ⟨settled', hfollows, hanswer, hsettle⟩ := hcontinues.settled
    have hbusy := (booked.busy _ _).mpr ⟨i, ⟨rfl, rfl⟩, hoccupies⟩
    obtain ⟨inst, hinst, -⟩ := Option.map_eq_some_iff.mp hbusy
    have hcache : w.host.cache? (services.facility i) (services.number i) = some inst.cache :=
      Option.map_eq_some_iff.mpr ⟨inst, hinst, rfl⟩
    have hhost := hsettle w.host
    refine ⟨taken, settled', ⟨hgranted, hfollows, ⟨inst.cache, hcache, ?_⟩, fun f n hne => ?_, ?_⟩,
      hanswer⟩
    · refine (congrArg (Host.cache? _ _) hhost).trans ?_
      rw [Host.cache?_settle_ok, hcache]
      rfl
    · exact congrArg (Option.map Instance.cache) (Host.instance?_settle_of_ne w.host _ hne)
    · refine (congrArg Host.events hhost).trans ?_
      rw [Host.events_settle_ok, hfollows.change]

/-- A caller is told of a success right after it. -/
theorem Sound.succeeded (h : w.Sound calls) (step : Step calls w w') {answer : α i}
    {stack : List (ι × Routine (Logged α))}
    (top : w'.stack = (i, replying i (.ok answer)) :: stack) :
    Succeeds calls i w answer w' := by
  cases step with
  | settle j stack' result top' =>
    obtain ⟨rfl, hr⟩ := Prod.mk.inj (List.head_eq_of_cons_eq top)
    cases result with
    | error e => cases replying_inj hr
    | ok settled =>
      obtain rfl := Except.ok.inj (replying_inj hr)
      exact .settle stack' settled top'
  | refuse j e host fresh opened claims =>
    obtain ⟨rfl, hr⟩ := Prod.mk.inj (List.head_eq_of_cons_eq top)
    cases replying_inj hr
  | reply j stack' result top' => cases top
  | grant j taken => exact absurd top (free_of_working (working_working calls j taken) _ _ _)
  | ask j stack' spend next top' =>
    have hworking := (h.occupies_of_working top' (asking_ne_replying spend next) rfl).2
    exact absurd top (free_of_working (hworking.asked _) _ _ _)
  | answer j stack' command leads next answer top' =>
    have hworking := (h.occupies_of_working top' nofun rfl).2
    exact absurd top (free_of_working (hworking.sent answer) _ _ _)
  | deliver j before after resume response opened held =>
    exact absurd top (free_of_working ((h.remaining held).1.2 response) _ _ _)
  | pop j stack' top' => exact absurd top (h.free_beneath top' _ _ _)
  | hold j stack' command leads next top' => exact absurd top (h.free_beneath top' _ _ _)
  | drop j before after resume opened held => exact absurd top (free_of_pauses opened _ _ _)
  | other host opened apart => exact absurd top (free_of_pauses opened _ _ _)

/-- Code that has just heard something does not answer the caller yet. -/
theorem Sound.free_of_hears (h : w.Sound calls) {j : ι} (hears : Hears w j x w')
    (result : Except Error (α i)) (rest : List (ι × Routine (Logged α))) :
    w'.stack ≠ (i, replying i result) :: rest := by
  cases hears with
  | answer stack command leads next answer top =>
    have hworking := (h.occupies_of_working top nofun rfl).2
    exact free_of_working (hworking.sent answer) i result rest
  | deliver before after resume response command opened held sent =>
    exact free_of_working ((h.remaining held).1.2 response) i result rest

theorem Recorded.succeeded (h : Recorded calls w heard) {answer : α i}
    {stack : List (ι × Routine (Logged α))}
    (top : w.stack = (i, replying i (.ok answer)) :: stack) :
    ∃ w₀, Recorded calls w₀ heard ∧ Succeeds calls i w₀ answer w := by
  cases h with
  | empty => cases top
  | quiet before step _ => exact ⟨_, before, (run_keeps before.run).1.succeeded step top⟩
  | hear before hears => exact absurd top ((run_keeps before.run).1.free_of_hears hears _ _)

/-- Whatever the modem answers and whatever is refused, dropped or removed, what an instance
remembers changes, and a change is announced, only where an operation has just succeeded, and a
caller is told of a success right after it. All commands of the operation were acknowledged then. A
setter stores what was asked for, and announces it if the instance is shown; an operation that reads
the properties stores what it read; the others store and announce nothing. -/
theorem remembered_on_success (services : Services α) {w : World α} {heard : List (ι × Exchange)}
    (recorded : Recorded services.calls w heard) :
    (∀ i answer w', Succeeds services.calls i w answer w' →
      (∃ taken settled, w.Outcome services w' (belonging i heard) i taken settled ∧
        settled.answer = answer) ∧
      ∀ w'', Step services.calls w' w'' → w''.host = w'.host.note ⟨i, .ok answer⟩) ∧
    (∀ i answer stack, w.stack = (i, replying i (.ok answer)) :: stack →
      ∃ w₀, Recorded services.calls w₀ heard ∧ Succeeds services.calls i w₀ answer w) ∧
    ∀ w', Step services.calls w w' → (∀ i answer, ¬ Succeeds services.calls i w answer w') →
      w.Elsewhere w' ∨ w.host.Silent w'.host := by
  obtain ⟨hsound, hbooked, -⟩ := run_keeps recorded.run
  refine ⟨fun i answer w' hsucceeds => ⟨?_, fun w'' => hsucceeds.told⟩, ?_, fun w' => silent_step⟩
  · exact recorded.traced.outcome hsound hbooked hsucceeds
  · exact fun i answer stack => recorded.succeeded

/-- A caller wants the modem at full power. -/
def switchingOn : Services fun _ : Unit => Unit where
  facility _ := .power
  number _ := 0
  service _ := .setPower .full

/-- The modem has acknowledged the command. -/
theorem exists_acknowledged : ∃ (w : World fun _ : Unit => Unit) (heard : _)
    (settled : Settled .power Unit), Recorded switchingOn.calls w heard ∧
      w.stack = [((), switchingOn.calls.settling () (.ok settled))] ∧
      w.host.cache? .power 0 = some (none : Option PowerState) ∧ w.host.events = [] ∧
      w.host.shown .power 0 = true ∧ w.host.listening = true := by
  let host : Logged fun _ : Unit => Unit :=
    (((Host.initial []).addInstance .power .default).2.bindInstance .power 0
      ⟨0, "telitmodem", .full⟩).showInstance .power 0
  have happart : (Host.initial [] : Logged fun _ : Unit => Unit).Apart host :=
    ((Host.apart_addInstance _ _ _).trans (Host.apart_bindInstance _ _ _ _)).trans
      (Host.apart_showInstance _ _ _)
  have hready : Run switchingOn.calls .empty _ := .single (.other _ host nofun happart)
  have hgranted := hready.tail (.grant _ () (.default, .full) _ (by decide) nofun rfl)
  rw [working_eq] at hgranted
  have hasked := hgranted.tail (.ask _ () [] _ _ rfl)
  have hanswered := hasked.tail (.answer _ () [] _ _ _ (some (.success [])) rfl)
  obtain ⟨heard, hrecorded⟩ := exists_recorded hanswered
  exact ⟨_, heard, .changed (fun _ => some PowerState.full) "PwMgmState" (.text "full"), hrecorded,
    rfl, rfl, rfl, rfl, rfl⟩

theorem remembered_on_success_full : ∃ w w' : World fun _ : Unit => Unit,
    Run switchingOn.calls .empty w ∧ Succeeds switchingOn.calls () w () w' ∧
    w.host.cache? .power 0 = some (none : Option PowerState) ∧
    (∃ cache, w'.host.cache? .power 0 = some cache ∧
      Facility.property? .power cache "PwMgmState" = some (.text "full")) ∧
    w'.host.events = [.propertyChanged Facility.power.name "PwMgmState" (.text "full")] := by
  obtain ⟨w, heard, settled, hrecorded, htop, hcache, hevents, hshown, hlistening⟩ :=
    exists_acknowledged
  have hsucceeds : Succeeds switchingOn.calls () w () _ := .settle [] settled htop
  obtain ⟨hsuccess, -⟩ := remembered_on_success switchingOn hrecorded
  obtain ⟨⟨taken, settled', houtcome, -⟩, -⟩ := hsuccess () () _ hsucceeds
  obtain ⟨cache, -, hstored⟩ := houtcome.stored
  have hproperty := (houtcome.follows.set "PwMgmState" (.text "full") rfl cache).1 "PwMgmState"
  rw [if_pos rfl] at hproperty
  have hannounced := houtcome.announced
  rw [hevents] at hannounced
  have hchange : w.host.announcement .power 0 (switchingOn.service ()).sets
      = [.propertyChanged Facility.power.name "PwMgmState" (.text "full")] := by
    change (if w.host.shown .power 0 && w.host.listening then _ else _) = _
    rw [hshown, hlistening]
    rfl
  exact ⟨w, _, hrecorded.run, hsucceeds, hcache, ⟨_, hstored, hproperty⟩, hannounced.trans hchange⟩

end World

end Calls

end CellModem
