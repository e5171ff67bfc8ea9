import CellModem.Proofs.Conduct.Strand
import CellModem.Proofs.Lifetime.SimView

/-!
# Switching a modem on

Few of the commands that switch a modem on have to succeed. The others are sent for what they may
do, and whatever comes of them the outcome is that of the few.
-/

namespace CellModem

/-! ## Plans -/

/-- A command of a plan. -/
inductive Stage where
  /-- Whatever comes of it, the plan goes on. -/
  | attempt (command : String)
  /-- The plan ends with its failure. -/
  | must (command : String)

/-- The commands that carried the plan out, with what came of them, and what it came to. -/
inductive Carried : List Stage → List Exchange → Except Error Unit → Prop where
  | through : Carried [] [] (.ok ())
  | attempted {command : String} {a : Option Response} {plan : List Stage} {way : List Exchange}
    {result : Except Error Unit} (rest : Carried plan way result) :
    Carried (.attempt command :: plan) ((command, a) :: way) result
  | succeeded {command : String} {a : Option Response} {plan : List Stage} {way : List Exchange}
    {result : Except Error Unit} (done : acknowledgement a = .ok ())
    (rest : Carried plan way result) :
    Carried (.must command :: plan) ((command, a) :: way) result
  | failed {command : String} {a : Option Response} {plan : List Stage} {e : Error}
    (refused : acknowledgement a = .error e) :
    Carried (.must command :: plan) [(command, a)] (.error e)

namespace Carried

variable {plan plan' : List Stage} {way way' : List Exchange} {result result' : Except Error Unit}
  {e : Error}

theorem append (h : Carried plan way result) (through : result = .ok ())
    (h' : Carried plan' way' result') : Carried (plan ++ plan') (way ++ way') result' := by
  induction h with
  | through => exact h'
  | attempted rest ih => exact .attempted (ih through)
  | succeeded done rest ih => exact .succeeded done (ih through)
  | failed refused => cases through

theorem append_failed (h : Carried plan way result) (failed : result = .error e) :
    Carried (plan ++ plan') way (.error e) := by
  induction h with
  | through => cases failed
  | attempted rest ih => exact .attempted (ih failed)
  | succeeded done rest ih => exact .succeeded done (ih failed)
  | failed refused =>
    obtain rfl := Except.error.inj failed
    exact .failed refused

end Carried

section

variable {υ : Type} {plan plan' : List Stage}

/-- Just the commands were sent, with what came of them. -/
def Carries (plan : List Stage) (result : Except Error Unit) (did : List (Doing (Host υ))) : Prop :=
  ∃ way, Carried plan way result ∧ did = way.map .heard

theorem does_attempt (text : String) :
    (Modem.attempt text : Step (Host υ) Unit).run.Does fun result did =>
      result = .ok () ∧ ∃ a, did = [.heard (text, a)] :=
  Step.does_bestEffort ((Step.does_command text).imp fun _ _ ⟨a, hdid, _⟩ => ⟨rfl, a, hdid⟩)

theorem carries_must (text : String) :
    (Step.command text : Step (Host υ) Unit).run.Does (Carries [.must text]) := by
  refine (Step.does_command text).imp ?_
  rintro result _ ⟨a, rfl, ha⟩
  refine ⟨[(text, a)], ?_, rfl⟩
  cases result with
  | ok _ => exact .succeeded ha .through
  | error e => exact .failed ha

theorem carries_attempt (text : String) :
    (Modem.attempt text : Step (Host υ) Unit).run.Does (Carries [.attempt text]) := by
  refine (does_attempt text).imp ?_
  rintro _ _ ⟨rfl, a, rfl⟩
  exact ⟨[(text, a)], .attempted .through, rfl⟩

theorem carries_bind {step next : Step (Host υ) Unit} (h : step.run.Does (Carries plan))
    (h' : next.run.Does (Carries plan')) :
    (step >>= fun _ => next).run.Does (Carries (plan ++ plan')) := by
  refine Step.does_bind h ?_ ?_
  · rintro e _ ⟨way, hway, rfl⟩
    exact ⟨way, hway.append_failed rfl, rfl⟩
  · rintro _ _ ⟨way, hway, rfl⟩
    refine h'.imp ?_
    rintro result _ ⟨way', hway', rfl⟩
    exact ⟨way ++ way', hway.append rfl hway', List.map_append.symm⟩

end

/-! ## The plans of the models -/

namespace Modem

def straightPlan : List Stage :=
  [.attempt "ATE0 +CMEE=1", .attempt "AT#QSS=2", .must "AT+CFUN=4", .attempt "AT#ATDELAY=50",
    .must "AT+CFUN=1"]

/-- The plan behind the level of functionality. A modem in airplane mode need not be sent there. -/
def levelPlan (level : Int) : List Stage :=
  if level = 4 then [.must "AT+CFUN=1", .attempt "AT&C0"]
  else [.must "AT+CFUN=4", .attempt "AT#ATDELAY=30", .must "AT+CFUN=1", .attempt "AT&C0"]

/-- What comes of asking for the level of functionality. -/
def functionality : Option Response → Except Error Int :=
  answerRead (·.decodeSingle "+CFUN:" .integer)

/-- The commands that switch the radio on, with what came of them, and what that came to. -/
inductive RadioOn : Model → List Exchange → Except Error Unit → Prop where
  | straight {model : Model} {way : List Exchange} {result : Except Error Unit}
    (blind : model ≠ .le910v2) (carried : Carried straightPlan way result) :
    RadioOn model way result
  | unread {a b : Option Response} {e : Error} (failed : functionality b = .error e) :
    RadioOn .le910v2 [("ATE0 +CMEE=1", a), ("AT+CFUN?", b)] (.error e)
  | read {a b : Option Response} {level : Int} {way : List Exchange} {result : Except Error Unit}
    (read : functionality b = .ok level) (carried : Carried (levelPlan level) way result) :
    RadioOn .le910v2 (("ATE0 +CMEE=1", a) :: ("AT+CFUN?", b) :: way) result

/-- The commands that have to succeed. -/
def mandatory : List String := ["AT+CFUN?", "AT+CFUN=4", "AT+CFUN=1"]

/-- What came of a command. The level of functionality has to be told as well. -/
def outcome (x : Exchange) : Except Error Unit :=
  if x.1 = "AT+CFUN?" then (functionality x.2).map fun _ => () else acknowledgement x.2

/-- All commands that have to succeed have done so, or the last of all was the first of them to
fail, and this is its error. -/
def Verdict (past : List Exchange) : Except Error Unit → Prop
  | .ok _ => ∀ x ∈ past, x.1 ∈ mandatory → outcome x = .ok ()
  | .error e => ∃ before x, past = before ++ [x] ∧ x.1 ∈ mandatory ∧ outcome x = .error e ∧
    ∀ y ∈ before, y.1 ∈ mandatory → outcome y = .ok ()

namespace Verdict

variable {past : List Exchange} {result : Except Error Unit} {x : Exchange}

theorem ok_iff (h : Verdict past result) :
    result = .ok () ↔ ∀ x ∈ past, x.1 ∈ mandatory → outcome x = .ok () := by
  cases result with
  | ok _ => exact ⟨fun _ => h, fun _ => rfl⟩
  | error e =>
    obtain ⟨before, x, rfl, hmandatory, hx, -⟩ := h
    refine ⟨nofun, fun hall => ?_⟩
    rw [hall x (by simp) hmandatory] at hx
    cases hx

theorem cons (h : Verdict past result) (fine : x.1 ∈ mandatory → outcome x = .ok ()) :
    Verdict (x :: past) result := by
  cases result with
  | ok _ => exact List.forall_mem_cons.mpr ⟨fine, h⟩
  | error e =>
    obtain ⟨before, y, rfl, hmandatory, hy, hbefore⟩ := h
    exact ⟨x :: before, y, rfl, hmandatory, hy, List.forall_mem_cons.mpr ⟨fine, hbefore⟩⟩

theorem failed {e : Error} (needed : x.1 ∈ mandatory) (hx : outcome x = .error e) :
    Verdict [x] (.error e) := ⟨[], x, rfl, needed, hx, nofun⟩

/-- What is tried behind a success is of no importance. -/
theorem append {more : List Exchange} (h : Verdict past (.ok ()))
    (tried : ∀ x ∈ more, x.1 ∉ mandatory) : Verdict (past ++ more) (.ok ()) :=
  List.forall_mem_append.mpr ⟨h, fun x hx hmandatory => absurd hmandatory (tried x hx)⟩

end Verdict

/-- A plan names the level query nowhere, and marks what has to succeed. -/
def Marks : Stage → Prop
  | .attempt command => command ∉ mandatory
  | .must command => command ∈ mandatory ∧ command ≠ "AT+CFUN?"

instance : DecidablePred Marks
  | .attempt command => inferInstanceAs (Decidable (command ∉ mandatory))
  | .must command => inferInstanceAs (Decidable (command ∈ mandatory ∧ command ≠ "AT+CFUN?"))

theorem verdict_of_carried {plan : List Stage} {way : List Exchange} {result : Except Error Unit}
    (h : Carried plan way result) (marks : ∀ stage ∈ plan, Marks stage) : Verdict way result := by
  induction h with
  | through => exact fun _ hx => nomatch hx
  | attempted rest ih =>
    obtain ⟨hmarks, hrest⟩ := List.forall_mem_cons.mp marks
    exact (ih hrest).cons fun needed => absurd needed hmarks
  | succeeded done rest ih =>
    obtain ⟨⟨-, hother⟩, hrest⟩ := List.forall_mem_cons.mp marks
    exact (ih hrest).cons fun _ => (if_neg hother).trans done
  | failed refused =>
    obtain ⟨hneeded, hother⟩ := (List.forall_mem_cons.mp marks).1
    exact .failed hneeded ((if_neg hother).trans refused)

theorem RadioOn.verdict {model : Model} {way : List Exchange} {result : Except Error Unit}
    (h : RadioOn model way result) : Verdict way result := by
  have hecho : "ATE0 +CMEE=1" ∉ mandatory := by decide
  have hneeded : "AT+CFUN?" ∈ mandatory := by decide
  cases h with
  | straight _ carried => exact verdict_of_carried carried (by decide)
  | unread failed =>
    have hlevel : outcome ("AT+CFUN?", _) = .error _ := congrArg (Except.map fun _ => ()) failed
    exact (Verdict.failed hneeded hlevel).cons fun needed => absurd needed hecho
  | @read _ _ level _ _ read carried =>
    have hmarks : ∀ stage ∈ levelPlan level, Marks stage := by
      unfold levelPlan
      split <;> decide
    have hlevel : outcome ("AT+CFUN?", _) = .ok () := congrArg (Except.map fun _ => ()) read
    exact ((verdict_of_carried carried hmarks).cons fun _ => hlevel).cons fun needed =>
      absurd needed hecho

/-! ## Switching on -/

/-- How a status code that the modem sends on its own is taken in. -/
def heedStatus {υ : Type} (i : Nat) (line : Response) : Act (Host υ) Unit :=
  match line.decodeSingle "#QSS:" .integer with
  | .ok code => modify (·.applySimStatus i code)
  | .error _ => pure ()

section

variable {υ : Type}

/-- The status code is asked for, and taken in if it can be read. -/
inductive StatusRead (i : Nat) : List (Doing (Host υ)) → Prop where
  | told {a : Option Response} {code : Int} (read : simStatusQuery.answered a = .ok code) :
    StatusRead i [.heard ("AT#QSS?", a), .changed (·.applySimStatus i code)]
  | untold {a : Option Response} {e : Error} (failed : simStatusQuery.answered a = .error e) :
    StatusRead i [.heard ("AT#QSS?", a)]

/-- What is done once the radio is on. -/
inductive FollowedUp (i : Nat) : Model → List (Doing (Host υ)) → Prop where
  | telitSerial {a : Option Response} : FollowedUp i .telitSerial [.heard ("AT#CSURVNLF=1", a)]
  | ge910 {a : Option Response} {did : List (Doing (Host υ))} (status : StatusRead i did) :
    FollowedUp i .ge910 (.heard ("AT#CSURVNLF=1", a) :: did)
  | le910v2 {a b : Option Response} {did : List (Doing (Host υ))} (status : StatusRead i did) :
    FollowedUp i .le910v2 (.heard ("AT#CSURVNLF=1", a) :: .heard ("AT#QSS=2", b) :: did)

/-- The commands that are sent once the radio is on. -/
def followUps : Model → List String
  | .telitSerial => ["AT#CSURVNLF=1"]
  | .ge910 => ["AT#CSURVNLF=1", "AT#QSS?"]
  | .le910v2 => ["AT#CSURVNLF=1", "AT#QSS=2", "AT#QSS?"]

/-- What is done to switch a modem on, and what that comes to. -/
inductive Enabled (i : Nat) (model : Model) :
    List (Doing (Host υ)) → Except Error Unit → Prop where
  | failed {way : List Exchange} {e : Error} (radio : RadioOn model way (.error e)) :
    Enabled i model (way.map .heard ++ [.changed (·.setPowered i false)]) (.error e)
  | on {way : List Exchange} {id : Option Nat} {did : List (Doing (Host υ))}
    (radio : RadioOn model way (.ok ())) (follow : FollowedUp i model did) :
    Enabled i model (way.map .heard ++ .changed (·.switchedOn i) ::
      .listened "#QSS:" (fun line => (heedStatus i line).routine) id :: did) (.ok ())

theorem does_powerOn (model : Model) :
    (powerOn model : Step (Host υ) Unit).run.Does fun result did =>
      ∃ way, RadioOn model way result ∧ did = way.map .heard := by
  have hstraight : (powerOn .telitSerial : Step (Host υ) Unit).run.Does (Carries straightPlan) :=
    carries_bind (carries_attempt _) <| carries_bind (carries_attempt _) <|
      carries_bind (carries_must _) <| carries_bind (carries_attempt _) (carries_must _)
  have hlevel (level : Int) : (if level = 4 then do
        Step.command "AT+CFUN=1"
        attempt "AT&C0"
      else do
        Step.command "AT+CFUN=4"
        attempt "AT#ATDELAY=30"
        Step.command "AT+CFUN=1"
        attempt "AT&C0" : Step (Host υ) Unit).run.Does (Carries (levelPlan level)) := by
    unfold levelPlan
    split
    · exact carries_bind (carries_must _) (carries_attempt _)
    · exact carries_bind (carries_must _) <| carries_bind (carries_attempt _) <|
        carries_bind (carries_must _) (carries_attempt _)
  cases model with
  | telitSerial =>
    exact hstraight.imp fun _ _ ⟨way, hway, hdid⟩ => ⟨way, .straight nofun hway, hdid⟩
  | ge910 => exact hstraight.imp fun _ _ ⟨way, hway, hdid⟩ => ⟨way, .straight nofun hway, hdid⟩
  | le910v2 =>
    refine Step.does_bind (does_attempt _) (fun _ _ h => nomatch h.1) ?_
    rintro _ _ ⟨-, a, rfl⟩
    refine Step.does_bind (Step.does_queryNumber "AT+CFUN?" "+CFUN:") ?_ ?_
    · rintro e _ ⟨b, rfl, hb⟩
      exact ⟨_, .unread hb, rfl⟩
    · rintro level _ ⟨b, rfl, hb⟩
      refine (hlevel level).imp ?_
      rintro result _ ⟨way, hway, rfl⟩
      exact ⟨_, .read hb hway, rfl⟩

theorem does_readSimStatus (i : Nat) :
    (readSimStatus i : Step (Host υ) Unit).run.Does fun result did =>
      result = .ok () ∧ StatusRead i did := by
  refine (Step.does_transaction simStatusQuery).bind ?_
  rintro result _ ⟨a, rfl, ha⟩
  cases result with
  | ok code =>
    refine (Act.does_modify fun h : Host υ => h.applySimStatus i code).bind ?_
    rintro _ _ rfl
    exact Act.does_pure ⟨rfl, .told ha⟩
  | error e => exact Act.does_pure ⟨rfl, .untold ha⟩

theorem does_afterPowerOn (i : Nat) (model : Model) :
    (afterPowerOn i model : Step (Host υ) Unit).run.Does fun result did => result = .ok () ∧
      ∃ id more, FollowedUp i model more ∧
        did = .listened "#QSS:" (fun line => (heedStatus i line).routine) id :: more := by
  have hfollow : (followSim i : Act (Host υ) Unit).Does fun _ did => ∃ id,
      did = [.listened "#QSS:" (fun line => (heedStatus i line).routine) id] := by
    refine (Act.does_register "#QSS:" (heedStatus i)).bind ?_
    rintro id _ rfl
    exact Act.does_pure ⟨id, rfl⟩
  have hlifted : (ExceptT.lift (followSim i) : Step (Host υ) Unit).run.Does fun result did =>
      result = .ok () ∧ ∃ id,
        did = [.listened "#QSS:" (fun line => (heedStatus i line).routine) id] :=
    Step.does_lift (hfollow.imp fun _ _ hdid => ⟨rfl, hdid⟩)
  refine Step.does_bind hlifted (fun _ _ h => nomatch h.1) ?_
  rintro _ _ ⟨-, id, rfl⟩
  refine Step.does_bind (does_attempt _) (fun _ _ h => nomatch h.1) ?_
  rintro _ _ ⟨-, a, rfl⟩
  cases model with
  | telitSerial => exact Act.does_pure ⟨rfl, id, _, .telitSerial, rfl⟩
  | ge910 =>
    refine (does_readSimStatus i).imp ?_
    rintro result did ⟨hresult, hstatus⟩
    exact ⟨hresult, id, _, .ge910 hstatus, rfl⟩
  | le910v2 =>
    refine Step.does_bind (does_attempt _) (fun _ _ h => nomatch h.1) ?_
    rintro _ _ ⟨-, b, rfl⟩
    refine (does_readSimStatus i).imp ?_
    rintro result did ⟨hresult, hstatus⟩
    exact ⟨hresult, id, _, .le910v2 hstatus, rfl⟩

theorem does_enable (i : Nat) (model : Model) :
    (enable i model : Step (Host υ) Unit).run.Does fun result did =>
      Enabled i model did result := by
  refine (does_powerOn model).bind ?_
  rintro result _ ⟨way, hway, rfl⟩
  cases result with
  | error e =>
    refine (Act.does_modify fun h : Host υ => h.setPowered i false).bind ?_
    rintro _ _ rfl
    exact Act.does_pure (.failed hway)
  | ok _ =>
    refine (Act.does_modify fun h : Host υ => h.switchedOn i).bind ?_
    rintro _ _ rfl
    refine (does_afterPowerOn i model).imp ?_
    rintro _ _ ⟨rfl, id, did, hfollow, rfl⟩
    exact .on hway hfollow

end

end Modem

/-! ## Whether a modem is powered, as the host sees and tells it -/

def Event.powered? : Event → Option Bool
  | .powered on => some on
  | _ => none

namespace Host

variable {υ : Type} {i : Nat} {h h' h'' : Host υ} {flag on : Bool}

def powered? (i : Nat) (h : Host υ) : Option Bool := h.modems[i]?.map Modem.powered

/-- What has been told of modems going on and off. -/
def powerEvents (h : Host υ) : List Bool := h.events.filterMap Event.powered?

/-- All that is seen of the power of a modem. -/
def power (i : Nat) (h : Host υ) : Option Bool × List Bool × Bool :=
  (h.powered? i, h.powerEvents, h.listening)

/-- The modem has been left switched so since, and that has been told if it is a change. -/
structure Switched (i : Nat) (h : Host υ) (on : Bool) (h' : Host υ) : Prop where
  powered : h'.powered? i = some on
  told : h'.powerEvents = h.powerEvents ++
    if h.listening = true ∧ h.powered? i ≠ some on then [on] else []

theorem Switched.congr (switched : Switched i h on h') {g g' : Host υ}
    (before : g.power i = h.power i) (after : g'.power i = h'.power i) : Switched i g on g' := by
  simp only [power, Prod.mk.injEq] at before after
  obtain ⟨hpowered, hevents, hlistening⟩ := before
  obtain ⟨hpowered', hevents', -⟩ := after
  refine ⟨hpowered'.trans switched.powered, ?_⟩
  rw [hevents', hevents, hlistening, hpowered]
  exact switched.told

theorem switched_self (present : h.powered? i = some flag) : Switched i h flag h := by
  refine ⟨present, ?_⟩
  rw [if_neg fun hchange => hchange.2 present, List.append_nil]

theorem powerEvents_emit (h : Host υ) (e : Event) : (h.emit e).powerEvents =
    h.powerEvents ++ if h.listening = true then e.powered?.toList else [] := by
  unfold emit powerEvents
  split
  · rw [List.filterMap_append]
    cases he : e.powered? <;> simp [he]
  · rw [List.append_nil]

theorem power_modifyModem {change : Modem → Modem} (same : ∀ m, (change m).powered = m.powered) :
    (h.modifyModem i change).power i = h.power i := by
  unfold power powered? modifyModem
  rw [List.getElem?_modify_eq]
  cases h.modems[i]? with
  | none => rfl
  | some m => exact congrArg (fun p => (some p, _, _)) (same m)

theorem powered?_modifyModem (present : h.powered? i = some flag) :
    (h.modifyModem i fun m => { m with powered := on }).powered? i = some on := by
  obtain ⟨m, hm, -⟩ := Option.map_eq_some_iff.mp present
  unfold powered? modifyModem
  rw [List.getElem?_modify_eq, hm]
  rfl

theorem setPowered_switched (present : h.powered? i = some flag) (on : Bool) :
    Switched i h on (h.setPowered i on) := by
  obtain ⟨m, hm, hpowered⟩ := Option.map_eq_some_iff.mp present
  unfold setPowered
  rw [hm]
  dsimp only
  split
  · next hsame => exact switched_self (hsame ▸ hpowered ▸ present)
  · next hother =>
    refine ⟨?_, ?_⟩
    · unfold powered?
      rw [modems_emit]
      exact powered?_modifyModem present
    · rw [powerEvents_emit]
      have hchange : h.powered? i ≠ some on := fun hsame =>
        hother (hpowered.trans (Option.some.inj (present.symm.trans hsame)))
      simp only [hchange, ne_eq, not_false_eq_true, and_true]
      rfl

theorem switchedOn_switched (present : h.powered? i = some flag) :
    Switched i h true (h.switchedOn i) := by
  have habsent : (h.modifyModem i fun m => { m with sim := .absent }).power i = h.power i :=
    power_modifyModem fun _ => rfl
  have hpresent : (h.modifyModem i fun m => { m with sim := .absent }).powered? i = some flag :=
    (congrArg Prod.fst habsent).trans present
  exact (setPowered_switched hpresent true).congr habsent.symm rfl

theorem power_emitAll {events : List Event} (others : ∀ e ∈ events, e.powered? = none) :
    (h.emitAll events).power i = h.power i := by
  induction events generalizing h with
  | nil => rfl
  | cons e rest ih =>
    obtain ⟨he, hrest⟩ := List.forall_mem_cons.mp others
    have hevents : (h.emit e).powerEvents = h.powerEvents := by
      rw [powerEvents_emit, he]
      simp
    have hannounces : h.Announces (fun _ => True) (h.emit e) := h.announces_emit trivial
    refine (ih hrest (h := h.emit e)).trans ?_
    unfold power powered?
    rw [modems_emit, hevents, hannounces.listening]

theorem power_applySimStatus (code : Int) : (h.applySimStatus i code).power i = h.power i := by
  have hevents (s : SimStatus) : ∀ e ∈ (s.apply code).2, e.powered? = none := by
    unfold SimStatus.apply
    repeat' split
    all_goals simp [Event.powered?]
  unfold applySimStatus
  split
  · rfl
  · exact (power_emitAll (hevents _)).trans (power_modifyModem fun _ => rfl)

end Host

/-! ## What comes of switching on -/

/-- The host, with what its caller has been told. -/
abbrev Answering : Type := Host (List (Except Error Unit))

def Host.tell (result : Except Error Unit) (h : Answering) : Answering :=
  { h with observed := h.observed ++ [result] }

namespace Modem

section

variable {υ : Type} {i : Nat} {model : Model} {did : List (Doing (Host υ))}
  {result : Except Error Unit}

theorem StatusRead.commands (h : StatusRead i did) :
    (exchanges did).map Prod.fst = ["AT#QSS?"] := by
  cases h <;> rfl

theorem StatusRead.leads (h : StatusRead i did) : leads did = [] := by cases h <;> rfl

theorem FollowedUp.commands (h : FollowedUp i model did) :
    (exchanges did).map Prod.fst = followUps model := by
  cases h with
  | telitSerial => rfl
  | ge910 status => exact congrArg ("AT#CSURVNLF=1" :: ·) status.commands
  | le910v2 status => exact congrArg ("AT#CSURVNLF=1" :: "AT#QSS=2" :: ·) status.commands

theorem FollowedUp.leads (h : FollowedUp i model did) : leads did = [] := by
  cases h with
  | telitSerial => rfl
  | ge910 status => exact status.leads
  | le910v2 status => exact status.leads

theorem FollowedUp.unseen (h : FollowedUp i model did) : Strand.Unseen (Host.power i) did := by
  have hstatus {did : List (Doing (Host υ))} (h : StatusRead i did) :
      Strand.Unseen (Host.power i) did := by
    intro change hchange
    cases h with
    | told read =>
      obtain rfl : change = _ := by simpa using hchange
      exact fun s => Host.power_applySimStatus _
    | untold failed => simp at hchange
  cases h with
  | telitSerial => exact fun _ hchange => by simp at hchange
  | ge910 status => exact fun change hchange => hstatus status change (by simpa using hchange)
  | le910v2 status => exact fun change hchange => hstatus status change (by simpa using hchange)

theorem Enabled.verdict (h : Enabled i model did result) : Verdict (exchanges did) result := by
  have hfollowUps : ∀ command ∈ followUps model, command ∉ mandatory := by
    cases model <;> decide
  cases h with
  | failed radio =>
    rw [exchanges_append, exchanges_heard]
    exact (List.append_nil _).symm ▸ radio.verdict
  | on radio follow =>
    rw [exchanges_append, exchanges_heard]
    refine radio.verdict.append fun x hx => hfollowUps x.1 ?_
    rw [← follow.commands]
    exact List.mem_map_of_mem hx

theorem Enabled.leads (h : Enabled i model did result) :
    leads did = if result = .ok () then ["#QSS:"] else [] := by
  cases h with
  | failed radio => simp [CellModem.leads, Doing.lead?]
  | on radio follow =>
    rw [leads_append, leads_heard, if_pos rfl]
    exact congrArg ("#QSS:" :: ·) follow.leads

/-- A modem that has been switched on has been sent all that follows. -/
theorem Enabled.followed (h : Enabled i model did (.ok ())) : ∃ way, RadioOn model way (.ok ()) ∧
    (exchanges did).map Prod.fst = way.map Prod.fst ++ followUps model := by
  cases h with
  | on radio follow =>
    refine ⟨_, radio, ?_⟩
    rw [exchanges_append, exchanges_heard, List.map_append]
    exact congrArg (_ ++ ·) follow.commands

/-- One change alone bears on the power of the modem. -/
theorem Enabled.switches (h : Enabled i model did result) : ∃ before change after,
    did = before ++ .changed change :: after ∧ Strand.Unseen (Host.power i) before ∧
    Strand.Unseen (Host.power i) after ∧
    ∀ (s : Host υ) flag, s.powered? i = some flag → s.Switched i (result.isOk) (change s) := by
  cases h with
  | failed radio =>
    exact ⟨_, _, [], rfl, Strand.unseen_heard _, nofun, fun s _ present =>
      Host.setPowered_switched present false⟩
  | on radio follow =>
    refine ⟨_, _, _, rfl, Strand.unseen_heard _, fun change hchange => ?_, fun s _ present =>
      Host.switchedOn_switched present⟩
    exact follow.unseen change (by simpa using hchange)

end

/-- Switches the modem on for a caller. -/
def enabling (i : Nat) (model : Model) : Act Answering Unit := do
  let result ← (enable i model).run
  modify (·.tell result)

/-- This is done for the caller, and then the caller is told. -/
def EnabledFor (i : Nat) (model : Model) (did : List (Doing Answering)) : Prop :=
  ∃ all result, Enabled i model all result ∧ did = all ++ [.changed (·.tell result)]

theorem does_enabling (i : Nat) (model : Model) :
    (enabling i model).Does fun _ => EnabledFor i model := by
  refine (does_enable i model).bind fun result all hall => ?_
  refine (Act.does_modify fun h : Answering => h.tell result).imp ?_
  rintro _ _ rfl
  exact ⟨all, result, hall, rfl⟩

section

variable {others : Answering → Answering → Prop} {i : Nat} {model : Model} {h : Answering}
  {w : Strand Answering} {flag : Bool} {all : List (Doing Answering)} {result : Except Error Unit}

theorem exchanges_tell (all : List (Doing Answering)) (result : Except Error Unit) :
    exchanges (all ++ [.changed (·.tell result)]) = exchanges all := by
  rw [exchanges_append]
  exact List.append_nil _

theorem leads_tell (all : List (Doing Answering)) (result : Except Error Unit) :
    leads (all ++ [.changed (·.tell result)]) = leads all := by
  rw [leads_append]
  exact List.append_nil _

/-- What is done for a caller holds one change that bears on the power of the modem. -/
theorem Enabled.told_switches (h : Enabled i model all result) : ∃ before change after,
    all ++ [.changed (·.tell result)] = before ++ .changed change :: after ∧
    Strand.Unseen (Host.power i) before ∧ Strand.Unseen (Host.power i) after ∧
    ∀ (s : Answering) flag, s.powered? i = some flag → s.Switched i result.isOk (change s) := by
  obtain ⟨before, change, after, rfl, hbefore, hafter, hswitches⟩ := h.switches
  refine ⟨before, change, after ++ [.changed (·.tell result)], by simp, hbefore, ?_, hswitches⟩
  intro f hf
  rcases List.mem_append.mp hf with hf | hf
  · exact hafter f hf
  · obtain rfl := Doing.changed.inj (List.mem_singleton.mp hf)
    exact fun s => rfl

variable (run : Strand.Run others (.start h (enabling i model)) w)
  (apart : ∀ s s', others s s' → s'.power i = s.power i) (present : h.powered? i = some flag)

include run apart present

theorem switched_of_told (enabled : Enabled i model all result)
    (did : w.did = all ++ [.changed (·.tell result)]) : h.Switched i result.isOk w.state := by
  obtain ⟨before, change, after, hall, hbefore, hafter, hswitches⟩ := enabled.told_switches
  have hshown := run.shown apart rfl
  rw [did, hall] at hshown
  obtain ⟨s, hs, hstate⟩ := hshown.all hbefore hafter
  exact (hswitches s flag ((congrArg Prod.fst hs).trans present)).congr hs.symm hstate

theorem exists_switched : ∃ on, h.Switched i on w.state := by
  have hfollows := (Strand.follows_start h (does_enabling i model)).run run
  obtain ⟨_, ⟨all, result, henabled, rfl⟩, hbegins, -⟩ := hfollows.begins
  obtain ⟨before, change, after, hall, hbefore, hafter, hswitches⟩ := henabled.told_switches
  rw [hall] at hbegins
  rcases (run.shown apart rfl).once hbegins hbefore hafter with hsame | ⟨s, hs, hstate⟩
  · exact ⟨flag, (Host.switched_self present).congr rfl hsame⟩
  · exact ⟨_, (hswitches s flag ((congrArg Prod.fst hs).trans present)).congr hs.symm hstate⟩

end

/-- A modem is switched on, on whatever channel, while it answers anything, sooner or later, and
other code does anything. The commands of its plan are sent one after the other; the code never
sticks, and ends unless a command is never answered. The caller is then told of a success exactly if
every command that has to succeed has done so. In that case all that follows has been tried, and the
status codes of the SIM are listened for once more. Otherwise it is told the error of the first such
command that failed, which was the last to be sent. If no other code switches the modem, it is
powered exactly after a success; at any moment its power has been told if it is not what it was, and
only then. -/
theorem enabling_decided {others : Answering → Answering → Prop} {i : Nat} {model : Model}
    {h : Answering} {w : Strand Answering}
    (run : Strand.Run others (.start h (enabling i model)) w) :
    (∀ {C : Type → Type} [Channel C] (m : Machine C Answering),
      ∃ w, Strand.Run others (.start m.state (enabling i model)) w ∧ w.place.Rests ∧
        (m.start (enabling i model)).state = w.state) ∧
    (∃ all result, Enabled i model all result ∧ w.did <+: all ++ [.changed (·.tell result)] ∧
      w.sent <+: (exchanges all).map Prod.fst) ∧
    (¬ w.place.Rests → ∃ w', Strand.Step Strand.Alone w w') ∧ w.Halts ∧
    (w.Ended → ∃ all result, Enabled i model all result ∧
      w.did = all ++ [.changed (·.tell result)] ∧ w.sent = w.past.map Prod.fst ∧
      (result = .ok () ↔ ∀ x ∈ w.past, x.1 ∈ mandatory → outcome x = .ok ()) ∧
      (result = .ok () → leads w.did = ["#QSS:"] ∧ ∃ way, RadioOn model way (.ok ()) ∧
        w.past.map Prod.fst = way.map Prod.fst ++ followUps model) ∧
      (∀ e, result = .error e → leads w.did = [] ∧ ∃ before x, w.past = before ++ [x] ∧
        x.1 ∈ mandatory ∧ outcome x = .error e ∧
        ∀ y ∈ before, y.1 ∈ mandatory → outcome y = .ok ()) ∧
      ((∀ s s', others s s' → s'.power i = s.power i) → ∀ flag, h.powered? i = some flag →
        h.Switched i result.isOk w.state)) ∧
    ((∀ s s', others s s' → s'.power i = s.power i) → ∀ flag, h.powered? i = some flag →
      ∃ on, h.Switched i on w.state) := by
  have hfollows := (Strand.follows_start h (does_enabling i model)).run run
  refine ⟨Strand.exists_started (does_enabling i model), ?_, hfollows.goes_on, hfollows.halts,
    fun ended => ?_, fun apart flag => exists_switched run apart⟩
  · obtain ⟨_, ⟨all, result, henabled, rfl⟩, hbegins, hsent⟩ := hfollows.begins
    exact ⟨all, result, henabled, hbegins, exchanges_tell all result ▸ hsent⟩
  obtain ⟨all, result, henabled, hdid⟩ := hfollows.ended ended
  have hpast : w.past = exchanges all := by rw [Strand.past, hdid, exchanges_tell]
  have hleads := henabled.leads
  rw [← leads_tell all result, ← hdid] at hleads
  have hverdict := henabled.verdict
  rw [← hpast] at hverdict
  refine ⟨all, result, henabled, hdid, ended.sent, hverdict.ok_iff, ?_, ?_,
    fun apart flag present => switched_of_told run apart present henabled hdid⟩
  · rintro rfl
    rw [hpast]
    exact ⟨hleads, henabled.followed⟩
  · rintro e rfl
    exact ⟨hleads, hverdict⟩

/-! ### Much that fails, and does not matter -/

def powerless : Answering := ((Host.initial []).addModem .ge910).2

/-- The SIM is seen while the modem is being switched on. -/
def Seen (h h' : Answering) : Prop := ∃ code, h' = h.applySimStatus 0 code

theorem exists_enabled : ∃ w, Strand.Run Seen (.start powerless (enabling 0 .ge910)) w ∧ w.Ended ∧
    w.past = [("ATE0 +CMEE=1", none), ("AT#QSS=2", some (.failure "ERROR")),
      ("AT+CFUN=4", some (.success [])), ("AT#ATDELAY=50", some (.failure "ERROR")),
      ("AT+CFUN=1", some (.success [])), ("AT#CSURVNLF=1", none), ("AT#QSS?", none)] ∧
    w.state.observed = [.ok ()] := by
  have hechoed : Strand.Run Seen (.start powerless (enabling 0 .ge910)) _ :=
    .single (.answer powerless [] _ _ _ none)
  have hwaiting := hechoed.tail (.hold _ _ _ _ _)
  have hseen := hwaiting.tail (.other _ (powerless.applySimStatus 0 1) _ _ ⟨1, rfl⟩)
  have hreported := hseen.tail (.deliver _ _ _ _ (.failure "ERROR"))
  have hairplane := hreported.tail (.answer _ _ _ _ _ (some (.success [])))
  have hdelay := hairplane.tail (.answer _ _ _ _ _ (some (.failure "ERROR")))
  have hon := hdelay.tail (.answer _ _ _ _ _ (some (.success [])))
  have hnoted := hon.tail (.change _ _ _ _)
  have hlistening := hnoted.tail (.register _ _ _ _ _ (some 3))
  have hformat := hlistening.tail (.answer _ _ _ _ _ none)
  have hstatus := hformat.tail (.answer _ _ _ _ _ none)
  have htold := hstatus.tail (.change _ _ _ _)
  exact ⟨_, htold, rfl, rfl, rfl⟩

theorem enabling_decided_ge910 : ∃ w, Strand.Run Seen (.start powerless (enabling 0 .ge910)) w ∧
    w.state.observed = [.ok ()] ∧ leads w.did = ["#QSS:"] ∧ powerless.Switched 0 true w.state := by
  obtain ⟨w, hrun, hended, hpast, htold⟩ := exists_enabled
  obtain ⟨-, -, -, -, hends, -⟩ := enabling_decided hrun
  obtain ⟨all, result, -, -, -, hresult, hon, -, hswitched⟩ := hends hended
  obtain rfl : result = .ok () := hresult.mpr (by rw [hpast]; decide)
  refine ⟨w, hrun, htold, (hon rfl).1, hswitched ?_ false rfl⟩
  rintro s _ ⟨code, rfl⟩
  exact Host.power_applySimStatus code

end Modem

end CellModem
