import CellModem.Operations.Hardware
import CellModem.Operations.Network
import CellModem.Operations.Reporting
import CellModem.Operations.Sim
import CellModem.Operations.Survey
import CellModem.Proofs.Workflow.Tree

/-!
# What operations are made of

The step of an operation sends commands, and may ask the driver for more on the way. It reads and
writes nothing else of the host. What it comes to is planned beforehand from what the driver offers,
and a driver that has everything is not changed by being asked.
-/

namespace CellModem

variable {υ α β : Type}

/-- Asks drivers at the host's expense, and goes on. -/
def Routine.asking (spend : Allowance → Allowance) (next : Allowance → Routine (Host υ)) :
    Routine (Host υ) :=
  .read fun h => .write { h with allowance := spend h.allowance } (next h.allowance)

theorem Host.routine_asking (ask : Ask α) (reply : Except Error α → Routine (Host υ)) :
    (Host.asking ask).routine reply
      = .asking (fun a => (ask.run a).2) fun a => reply (ask.run a).1 := rfl

theorem Driver.run_ask_full (r : Request α) (a : Allowance) :
    (Driver.full.ask r).run a = (.ok r.transaction, a) := rfl

/-! ## Steps -/

namespace Step

/-- The step only sends commands and asks drivers before it hands over its result, so what holds of
every way on from there holds of the step. -/
def Built (step : Step (Host υ) α) : Prop :=
  ∀ (P : Routine (Host υ) → Prop),
    (∀ command leads next, (∀ answer, P (next answer)) → P (.send command leads next)) →
    (∀ spend next, (∀ allowance, P (next allowance)) → P (.asking spend next)) →
    ∀ reply, (∀ result, P (reply result)) → P (step.routine reply)

/-- The step is built from commands and from requests to this driver. -/
def Over (driver : Driver) (step : Step (Host υ) α) : Prop :=
  ∀ (P : Routine (Host υ) → Prop),
    (∀ command leads next, (∀ answer, P (next answer)) → P (.send command leads next)) →
    (∀ {γ : Type} (r : Request γ) next, (∀ result, P (next result)) →
      P ((Host.asking (driver.ask r)).routine next)) →
    ∀ reply, (∀ result, P (reply result)) → P (step.routine reply)

variable {driver : Driver}

theorem Over.built {step : Step (Host υ) α} (h : step.Over driver) : step.Built := by
  intro P send asking reply hreply
  refine h P send (fun r next hnext => ?_) reply hreply
  rw [Host.routine_asking]
  exact asking _ _ fun _ => hnext _

theorem Passes.over {step : Step (Host υ) α} (h : step.Passes) : step.Over driver :=
  fun P send _ => h P send

theorem over_transaction (t : Transaction α) : (transaction t : Step (Host υ) α).Over driver :=
  (passes_transaction t).over

theorem over_pure (value : α) : (pure value : Step (Host υ) α).Over driver :=
  (passes_ready (.ok value)).over

theorem over_throw (e : Error) : (throw e : Step (Host υ) α).Over driver :=
  (passes_ready (.error e)).over

theorem over_asking (r : Request α) : (Host.asking (driver.ask r) : Step (Host υ) _).Over driver :=
  fun _ _ asking => asking r

theorem Over.bind {step : Step (Host υ) α} {next : α → Step (Host υ) β} (h : step.Over driver)
    (hnext : ∀ value, (next value).Over driver) : (step >>= next).Over driver := by
  intro P send asking reply hreply
  rw [routine_bind]
  refine h P send asking _ fun result => ?_
  cases result with
  | ok value => exact hnext value P send asking reply hreply
  | error e => exact hreply _

end Step

/-! ## Plans -/

/-- What the plan comes to, if it comes to something, has the property. A driver that has everything
is asked at no expense. -/
structure Ask.Over (driver : Driver) (P : α → Prop) (ask : Ask α) : Prop where
  yields : ∀ a value, (ask.run a).1 = .ok value → P value
  steady : driver = .full → ∃ result, ∀ a, ask.run a = (result, a)

namespace Ask

variable {driver : Driver} {P : α → Prop} {Q : β → Prop}

theorem over_ready (result : Except Error α) (h : ∀ value, result = .ok value → P value) :
    Ask.Over driver P (ExceptT.mk (pure result)) :=
  ⟨fun _ => h, fun _ => ⟨result, fun _ => rfl⟩⟩

theorem over_pure {value : α} (h : P value) : (pure value : Ask α).Over driver P :=
  over_ready (.ok value) fun _ hvalue => Except.ok.inj hvalue ▸ h

theorem over_throw (e : Error) : (throw e : Ask α).Over driver P :=
  over_ready (.error e) nofun

theorem over_lift (result : Except Error α) :
    (liftM result : Ask α).Over driver fun _ => True := by
  cases result with
  | ok value => exact over_pure trivial
  | error e => exact over_throw e

theorem over_ask (r : Request α) : (driver.ask r).Over driver fun _ => True :=
  ⟨fun _ _ _ => trivial, fun hfull => hfull ▸ ⟨_, Driver.run_ask_full r⟩⟩

theorem run_bind (first : Ask α) (next : α → Ask β) (a : Allowance) :
    (first >>= next).run a = match first.run a with
      | (.ok value, a) => (next value).run a
      | (.error e, a) => (.error e, a) := by
  change ExceptT.bindCont next (first.run a).1 (first.run a).2 = _
  rcases first.run a with ⟨_ | value, a⟩ <;> rfl

theorem Over.bind {first : Ask α} {next : α → Ask β} (h : first.Over driver P)
    (hnext : ∀ value, P value → (next value).Over driver Q) : (first >>= next).Over driver Q := by
  constructor
  · intro a v hv
    rw [run_bind] at hv
    rcases hfirst : first.run a with ⟨_ | value, a'⟩
    · rw [hfirst] at hv
      cases hv
    · rw [hfirst] at hv
      have hvalue := h.yields a value (congrArg Prod.fst hfirst)
      exact (hnext value hvalue).yields a' v hv
  · intro hfull
    obtain ⟨result, hfirst⟩ := h.steady hfull
    cases result with
    | error e => exact ⟨.error e, fun a => by rw [run_bind, hfirst]⟩
    | ok value =>
      have hvalue := h.yields .unlimited value (congrArg Prod.fst (hfirst _))
      obtain ⟨result, hlast⟩ := (hnext value hvalue).steady hfull
      exact ⟨result, fun a => by rw [run_bind, hfirst]; exact hlast a⟩

theorem run_both (first : Ask α) (second : Ask β) (a : Allowance) :
    (first.both second).run a =
      ((do return (← (first.run a).1, ← (second.run (first.run a).2).1)),
        (second.run (first.run a).2).2) := rfl

theorem Over.both {first : Ask α} {second : Ask β} (h : first.Over driver fun _ => True)
    (h' : second.Over driver fun _ => True) : (first.both second).Over driver fun _ => True := by
  refine ⟨fun _ _ _ => trivial, fun hfull => ?_⟩
  obtain ⟨result, hfirst⟩ := h.steady hfull
  obtain ⟨result', hsecond⟩ := h'.steady hfull
  exact ⟨do return (← result, ← result'), fun a => by rw [run_both, hfirst, hsecond]⟩

theorem over_mapM {γ : Type} (ask : γ → Ask α) (h : ∀ x, (ask x).Over driver fun _ => True)
    (list : List γ) : (list.mapM ask).Over driver fun _ => True := by
  induction list with
  | nil => exact over_pure trivial
  | cons x rest ih =>
    rw [List.mapM_cons]
    exact (h x).bind fun _ _ => ih.bind fun _ _ => over_pure trivial

end Ask

namespace Operation

variable {f : Facility} {ρ : Type}

/-- Every step the operation may come to is built so. -/
def Built (op : Operation υ f ρ) : Prop :=
  ∀ vendor driver a step, ((op.plan vendor driver).run a).1 = .ok step → step.Built

theorem Built.carryOut {op : Operation υ f ρ} (h : op.Built) (vendor : Vendor) (driver : Driver) :
    (Host.carryOut op vendor driver).Built := by
  intro P send asking reply hreply
  unfold Host.carryOut
  rw [Step.routine_bind, Host.routine_asking]
  refine asking _ _ fun a => ?_
  cases hasked : ((op.plan vendor driver).run a).1 with
  | error e => exact hreply _
  | ok step => exact h vendor driver a step hasked P send asking reply hreply

/-- The operation is planned, and its step is built, from what the driver offers. -/
def OverDriver (op : Operation υ f ρ) : Prop :=
  ∀ vendor driver, (op.plan vendor driver).Over driver (Step.Over driver)

theorem OverDriver.built {op : Operation υ f ρ} (h : op.OverDriver) : op.Built :=
  fun vendor driver a step hstep => ((h vendor driver).yields a step hstep).built

/-! ## The operations there are -/

theorem over_request (make : Vendor → Except Error (Request α)) (settle : α → Settled f ρ) :
    (request make settle : Operation υ f ρ).OverDriver := by
  intro vendor driver
  refine (Ask.over_lift (make vendor)).bind fun r _ => ?_
  refine (Ask.over_ask r).bind fun transaction _ => Ask.over_pure ?_
  rw [map_eq_pure_bind]
  exact (Step.over_transaction transaction).bind fun value => Step.over_pure (settle value)

theorem over_refused (e : Error) : (refused e : Operation υ f ρ).OverDriver :=
  fun _ _ => Ask.over_throw e

theorem over_radioReport : (radioReport : Operation υ .dataNetwork RadioReport).OverDriver := by
  intro vendor driver
  have hasked : Ask.Over driver (fun _ => True) _ := (Ask.over_ask .queryTechnology).both
    ((Ask.over_ask .queryUmtsReport).both (Ask.over_ask .queryLteReport))
  refine hasked.bind fun (technology, umts, lte) _ => Ask.over_pure ?_
  refine (Step.over_transaction technology).bind fun code => ?_
  split
  · exact (Step.over_transaction lte).bind fun report => Step.over_pure _
  · exact (Step.over_transaction umts).bind fun report => Step.over_pure _
  · exact Step.over_throw _

theorem over_networkProperties :
    (networkProperties : Operation υ .dataNetwork Properties).OverDriver := by
  intro vendor driver
  have hasked : Ask.Over driver (fun _ => True) _ := (Ask.over_ask .queryEnhanced).both
    ((Ask.over_ask .queryAutomatic).both (Ask.over_ask .queryBands))
  refine hasked.bind fun (enhanced, automatic, bands) _ => Ask.over_pure ?_
  refine (Step.over_transaction enhanced).bind fun enhanced => ?_
  refine (Step.over_transaction automatic).bind fun automatic => ?_
  exact (Step.over_transaction bands).bind fun bands => Step.over_pure _

theorem over_setLteBands (lte : UInt32) :
    (setLteBands lte : Operation υ .dataNetwork Unit).OverDriver := by
  intro vendor driver
  refine (Ask.over_ask .queryBands).bind fun query _ => ?_
  refine (Ask.over_ask (.setBands .none)).bind fun _ _ => Ask.over_pure ?_
  refine (Step.over_transaction query).bind fun current => ?_
  refine (Step.over_asking _).bind fun set => ?_
  exact (Step.over_transaction set).bind fun _ => Step.over_pure _

theorem over_setNetworkProperty (name : String) (value : PropertyValue) :
    (setNetworkProperty name value : Operation υ .dataNetwork Unit).OverDriver := by
  unfold setNetworkProperty
  split
  · exact over_request _ _
  · exact over_request _ _
  · exact over_setLteBands _
  · exact over_refused _

theorem over_setProviderProperty (name : String) (value : PropertyValue) :
    (setProviderProperty name value : Operation υ .provider Unit).OverDriver := by
  unfold setProviderProperty
  split
  · split
    · exact over_request _ _
    · exact over_refused _
  · exact over_refused _

theorem over_setPowerProperty (name : String) (value : PropertyValue) :
    (setPowerProperty name value : Operation υ .power Unit).OverDriver := by
  unfold setPowerProperty
  split
  · split
    · exact over_request _ _
    · exact over_refused _
  · exact over_refused _

theorem over_setHardwareProperty (name : String) (value : PropertyValue) :
    (setHardwareProperty name value : Operation υ .hardware Unit).OverDriver := by
  unfold setHardwareProperty
  split
  · split
    · exact over_request _ _
    · exact over_refused _
  · exact over_refused _

theorem over_traceProperties : (traceProperties : Operation υ .trace Properties).OverDriver := by
  intro vendor driver
  have hasked : Ask.Over driver (fun _ => True) _ := (Ask.over_ask (.queryTracing vendor)).both
    ((Ask.over_ask .queryPortConfig).both (Ask.over_ask (.queryTraceMask vendor)))
  refine hasked.bind fun (enabled, portConfig, mask) _ => Ask.over_pure ?_
  refine (Step.over_transaction enabled).bind fun enabled => ?_
  refine (Step.over_transaction portConfig).bind fun portConfig => ?_
  exact (Step.over_transaction mask).bind fun mask => Step.over_pure _

theorem over_setTraceProperty (name : String) (value : PropertyValue) :
    (setTraceProperty name value : Operation υ .trace Unit).OverDriver := by
  unfold setTraceProperty
  split
  · exact over_request _ _
  · exact over_request _ _
  · exact over_request _ _
  · exact over_refused _

theorem over_readSwitches (driver : Driver) (queries : List (Switch × Transaction Bool)) :
    (readSwitches queries : Step (Host υ) (List (Switch × Bool))).Over driver := by
  induction queries with
  | nil => exact Step.over_pure []
  | cons first rest ih =>
    refine (Step.over_transaction first.2).bind fun on => ?_
    exact ih.bind fun readings => Step.over_pure _

theorem over_reportingProperties :
    (reportingProperties : Operation υ .reporting Properties).OverDriver := by
  intro vendor driver
  refine (Ask.over_mapM _ (fun s => Ask.over_ask (.querySwitch s)) Switch.all).bind fun _ _ => ?_
  refine (Ask.over_mapM _ (fun s => ?_) _).bind fun queries _ => Ask.over_pure ?_
  · exact (Ask.over_ask (.querySwitch s)).bind fun _ _ => Ask.over_pure trivial
  · exact (over_readSwitches driver queries).bind fun readings => Step.over_pure _

theorem over_setReportingProperty (name : String) (value : PropertyValue) :
    (setReportingProperty name value : Operation υ .reporting Unit).OverDriver := by
  unfold setReportingProperty
  split
  · exact over_request _ _
  · exact over_refused _

theorem over_survey (band : String) :
    (survey band : Operation υ .survey (List String)).OverDriver := by
  intro vendor driver
  refine (Ask.over_lift (surveyRange band)).bind fun range _ => ?_
  have hasked : Ask.Over driver (fun _ => True) _ :=
    (Ask.over_ask (.setRegistration .deregistered)).both ((Ask.over_ask .prepareSurvey).both
      ((Ask.over_ask (.scan range)).both (Ask.over_ask (.setRegistration .automatic))))
  refine hasked.bind fun (leave, prepare, scan, goBack) _ => Ask.over_pure ?_
  have hact : (do Step.transaction prepare; Step.transaction scan : Step (Host υ) _).Passes :=
    (Step.passes_transaction prepare).bind fun _ => Step.passes_transaction scan
  have hsurvey :=
    (Step.passes_transaction leave).compensated hact (Step.passes_transaction goBack)
  exact hsurvey.over.bind fun cells => Step.over_pure _

end Operation

end CellModem
