import CellModem.Proofs.Operations.Arguments
import CellModem.Proofs.Operations.Service
import CellModem.Proofs.Operations.Ways

/-!
# What operations need of a driver

A driver may hide some of its methods. An operation whose arguments can be used is planned if the
driver hides none of the methods it needs. Its step then begins with a command, and does not fail
for the driver's sake any more.
-/

namespace CellModem

variable {υ ρ α β : Type} {f : Facility}

/-! ## Drivers that hide methods -/

/-- The driver lacks the methods that are hidden, and has the others, at no expense to the
allowance. -/
def Driver.Hides (driver : Driver) (hidden : String → Bool) (a : Allowance) : Prop :=
  ∀ ⦃α : Type⦄ (r : Request α), (driver.ask r).run a
    = (if hidden r.method then .error .notImplemented else .ok r.transaction, a)

namespace Driver

theorem lookup_withheld (methods : List String) (method : String) :
    (methods.map fun name => (name, 0)).lookup method
      = if method ∈ methods then some 0 else none := by
  induction methods with
  | nil => rfl
  | cons name rest ih =>
    rw [List.map_cons, List.lookup_cons, ih]
    by_cases h : method = name
    · simp [h]
    · rw [beq_false_of_ne h]
      simp [h]

/-- Any methods can be hidden. -/
theorem hides_rationed (methods : List String) (probes : Option Nat) :
    rationed.Hides (· ∈ methods) ⟨methods.map fun name => (name, 0), false, probes⟩ := by
  intro α r
  have hlookup := lookup_withheld methods r.method
  change (if _ then pure r.transaction else throw Error.notImplemented : Ask _).run
    (Allowance.spend ⟨methods.map fun name => (name, 0), false, probes⟩ r.method).2 = _
  unfold Allowance.spend
  dsimp only
  rw [hlookup]
  by_cases h : r.method ∈ methods
  · simp only [h]
    rfl
  · simp only [h]
    rfl

end Driver

/-! ## Plans -/

/-- The driver is asked for these methods. If it hides one of them there is no plan, and what comes
of one is as stated. -/
structure Ask.Needs (hidden : String → Bool) (a : Allowance) (methods : List String) (P : α → Prop)
    (ask : Ask α) : Prop where
  lacks : methods.any hidden = true → ask.run a = (.error .notImplemented, a)
  offers : methods.any hidden = false → ∃ value, P value ∧ ask.run a = (.ok value, a)

namespace Ask

variable {hidden : String → Bool} {a : Allowance} {methods methods' : List String} {P : α → Prop}
  {Q : β → Prop} {driver : Driver}

theorem needs_pure {value : α} (h : P value) : (pure value : Ask α).Needs hidden a [] P :=
  ⟨nofun, fun _ => ⟨value, h, rfl⟩⟩

theorem needs_ask (h : driver.Hides hidden a) (r : Request α) :
    (driver.ask r).Needs hidden a [r.method] (· = r.transaction) := by
  constructor
  · intro hhidden
    rw [List.any_cons, List.any_nil, Bool.or_false] at hhidden
    rw [h, if_pos hhidden]
  · intro hoffered
    rw [List.any_cons, List.any_nil, Bool.or_false] at hoffered
    refine ⟨r.transaction, rfl, ?_⟩
    rw [h, hoffered]
    rfl

theorem Needs.bind {first : Ask α} {next : α → Ask β} (h : first.Needs hidden a methods P)
    (hnext : ∀ value, P value → (next value).Needs hidden a methods' Q) :
    (first >>= next).Needs hidden a (methods ++ methods') Q := by
  constructor
  · intro hhidden
    rw [run_bind]
    cases hfirst : methods.any hidden with
    | true => rw [h.lacks hfirst]
    | false =>
      obtain ⟨value, hvalue, hrun⟩ := h.offers hfirst
      rw [List.any_append, hfirst, Bool.false_or] at hhidden
      rw [hrun]
      exact (hnext value hvalue).lacks hhidden
  · intro hoffered
    rw [List.any_append, Bool.or_eq_false_iff] at hoffered
    obtain ⟨value, hvalue, hrun⟩ := h.offers hoffered.1
    rw [run_bind, hrun]
    exact (hnext value hvalue).offers hoffered.2

theorem Needs.both {first : Ask α} {second : Ask β} (h : first.Needs hidden a methods P)
    (h' : second.Needs hidden a methods' Q) :
    (first.both second).Needs hidden a (methods ++ methods')
      fun values => P values.1 ∧ Q values.2 := by
  constructor
  · intro hhidden
    rw [run_both]
    cases hfirst : methods.any hidden with
    | true =>
      rw [h.lacks hfirst]
      cases hsecond : methods'.any hidden with
      | true =>
        rw [h'.lacks hsecond]
        rfl
      | false =>
        obtain ⟨value, -, hrun⟩ := h'.offers hsecond
        rw [hrun]
        rfl
    | false =>
      obtain ⟨value, -, hrun⟩ := h.offers hfirst
      rw [List.any_append, hfirst, Bool.false_or] at hhidden
      rw [hrun, h'.lacks hhidden]
      rfl
  · intro hoffered
    rw [List.any_append, Bool.or_eq_false_iff] at hoffered
    obtain ⟨value, hvalue, hrun⟩ := h.offers hoffered.1
    obtain ⟨value', hvalue', hrun'⟩ := h'.offers hoffered.2
    refine ⟨(value, value'), ⟨hvalue, hvalue'⟩, ?_⟩
    rw [run_both, hrun, hrun']
    rfl

theorem Needs.congr {P' : α → Prop} {ask : Ask α} (h : ask.Needs hidden a methods P)
    (same : methods'.any hidden = methods.any hidden) (weaker : ∀ value, P value → P' value) :
    ask.Needs hidden a methods' P' := by
  refine ⟨fun hhidden => h.lacks (same ▸ hhidden), fun hoffered => ?_⟩
  obtain ⟨value, hvalue, hrun⟩ := h.offers (same ▸ hoffered)
  exact ⟨value, weaker value hvalue, hrun⟩

theorem needs_mapM {γ : Type} {ask : γ → Ask α} {method : γ → String} {R : γ → α → Prop}
    (h : ∀ x, (ask x).Needs hidden a [method x] (R x)) (list : List γ) :
    (list.mapM ask).Needs hidden a (list.map method) (List.Forall₂ R list) := by
  induction list with
  | nil => exact needs_pure .nil
  | cons x rest ih =>
    rw [List.mapM_cons]
    have hall := (h x).bind fun _ hx => ih.bind fun _ hrest =>
      needs_pure (P := List.Forall₂ R (x :: rest)) (.cons hx hrest)
    rw [List.append_nil] at hall
    exact hall

end Ask

/-! ## Steps -/

/-- The four ways in which a call is turned away. -/
def Error.isRefusal : Error → Bool
  | .instanceGone | .busy | .invalidArgument _ | .notImplemented => true
  | _ => false

/-- The result is a success, or a failure other than that the call is turned away. -/
def Undeterred (result : Except Error α) : Prop := ∀ e, result = .error e → e.isRefusal = false

theorem Transaction.not_refusal {t : Transaction α} {answer : Option Response} {e : Error}
    (h : t.answered answer = .error e) : e.isRefusal = false := by
  cases answer with
  | none =>
    obtain rfl := Except.error.inj h
    rfl
  | some response =>
    change t.result response = .error e at h
    unfold Transaction.result at h
    split at h
    · cases hdecoded : t.decode response with
      | ok value =>
        rw [hdecoded] at h
        cases h
      | error cause =>
        rw [hdecoded] at h
        obtain rfl := Except.error.inj h
        rfl
    · obtain rfl := Except.error.inj h
      rfl

namespace Step

variable {allow : Allowance → Prop} {driver : Driver} {hidden : String → Bool}

/-- The step begins with a command. -/
def Opens (step : Step (Host υ) α) : Prop :=
  ∀ reply, ∃ command leads next, step.routine reply = .send command leads next

theorem opens_transaction (t : Transaction α) : (transaction t : Step (Host υ) α).Opens :=
  fun reply => ⟨_, _, _, routine_transaction reply t⟩

theorem Opens.bind {step : Step (Host υ) β} (h : step.Opens) (next : β → Step (Host υ) α) :
    (step >>= next).Opens := by
  intro reply
  rw [routine_bind]
  exact h _

theorem Opens.compensated {deregister : Step (Host υ) Unit} (h : deregister.Opens)
    (act : Step (Host υ) α) (restore : Step (Host υ) Unit) :
    (Step.compensated deregister act restore).Opens := by
  intro reply
  rw [routine_compensated]
  exact h _

/-- The step may fail, but not as if the call were turned away. -/
def Spares (allow : Allowance → Prop) (step : Step (Host υ) α) : Prop :=
  step.Leads allow fun _ result => Undeterred result

theorem spares_pure (value : α) : (pure value : Step (Host υ) α).Spares allow :=
  leads_pure nofun

theorem spares_throw {e : Error} (h : e.isRefusal = false) :
    (throw e : Step (Host υ) α).Spares allow :=
  leads_throw fun _ he => Except.error.inj he ▸ h

theorem spares_transaction (t : Transaction α) : (transaction t : Step (Host υ) α).Spares allow :=
  leads_transaction t fun _ _ he => t.not_refusal he

theorem Spares.bind {step : Step (Host υ) β} {next : β → Step (Host υ) α} (h : step.Spares allow)
    (hnext : ∀ value, (next value).Spares allow) : (step >>= next).Spares allow :=
  Leads.bind h (fun _ _ hfailed _ he => Except.error.inj he ▸ hfailed _ rfl)
    fun _ value _ => hnext value

/-- A driver may be asked again for what it does not hide. -/
theorem spares_asking (r : Request α) (offered : hidden r.method = false) :
    (Host.asking (driver.ask r) : Step (Host υ) _).Spares (driver.Hides hidden) := by
  refine leads_asking _ (fun a ha => ?_) fun a ha e he => ?_
  · rw [ha]
    exact ha
  · rw [ha, offered] at he
    cases he

theorem Spares.compensated {deregister restore : Step (Host υ) Unit} {act : Step (Host υ) α}
    (hderegister : deregister.Spares allow) (hact : act.Spares allow)
    (hrestore : restore.Spares allow) :
    (Step.compensated deregister act restore).Spares allow := by
  refine Leads.compensated hderegister hact hrestore ?_ ?_
  · intro _ e hfailed e' he
    exact Except.error.inj he ▸ hfailed e rfl
  · intro _ _ _ result result' _ hacted hback e he
    cases result with
    | error e' => exact hacted e he
    | ok value =>
      cases result' with
      | ok _ => cases he
      | error e' =>
        obtain rfl := Except.error.inj he
        exact hback _ rfl

end Step

/-! ## Operations -/

/-- Arguments that cannot be used are refused before the driver is asked for anything. With others
the driver is asked for these methods, and if it hides none of them there is a step, which begins
with a command and does not fail as if the call were turned away. -/
structure Operation.Plans (op : Operation υ f ρ) (valid : Prop) (methods : List String) : Prop where
  invalid : ¬ valid → ∀ vendor driver a, ∃ detail,
    (op.plan vendor driver).run a = (.error (.invalidArgument detail), a)
  valid : valid → ∀ vendor driver hidden a, driver.Hides hidden a →
    (op.plan vendor driver).Needs hidden a methods fun step =>
      methods.any hidden = false → step.Opens ∧ step.Spares (driver.Hides hidden)

namespace Operation

theorem plans_request {make : Vendor → Except Error (Request α)} {settle : α → Settled f ρ}
    {valid : Prop} {method : String}
    (checks : ∀ vendor, Except.Checks valid (fun r => r.method = method) (make vendor)) :
    (request make settle : Operation υ f ρ).Plans valid [method] := by
  constructor
  · intro hinvalid vendor driver a
    have hmade := checks vendor
    unfold request
    dsimp only
    generalize make vendor = made at hmade ⊢
    cases hmade with
    | good h => exact absurd h hinvalid
    | bad h detail => exact ⟨detail, rfl⟩
  · intro hvalid vendor driver hidden a hides
    have hmade := checks vendor
    unfold request
    dsimp only
    generalize make vendor = made at hmade ⊢
    cases hmade with
    | bad h => exact absurd hvalid h
    | good h r named =>
      obtain rfl := named
      refine (Ask.needs_ask hides r).bind fun t _ => Ask.needs_pure fun _ => ?_
      rw [map_eq_pure_bind]
      exact ⟨(Step.opens_transaction t).bind _, (Step.spares_transaction t).bind fun value =>
        Step.spares_pure _⟩

/-- Arguments of which none is refused. -/
theorem plans_always {make : Vendor → Request α} {settle : α → Settled f ρ} {method : String}
    (named : ∀ vendor, (make vendor).method = method) :
    (request (fun vendor => .ok (make vendor)) settle : Operation υ f ρ).Plans True [method] :=
  plans_request fun vendor => Except.checks_ok (named vendor)

theorem plans_refused (detail : String) (methods : List String) :
    (refused (.invalidArgument detail) : Operation υ f ρ).Plans False methods :=
  ⟨fun _ _ _ _ => ⟨detail, rfl⟩, False.elim⟩

theorem Plans.congr {op : Operation υ f ρ} {valid valid' : Prop} {methods methods' : List String}
    (h : op.Plans valid methods) (hvalid : valid' ↔ valid)
    (hmethods : valid → ∀ hidden, methods'.any hidden = methods.any hidden) :
    op.Plans valid' methods' := by
  refine ⟨fun hinvalid => h.invalid fun h' => hinvalid (hvalid.mpr h'), fun h' => ?_⟩
  intro vendor driver hidden a hides
  have hsame := hmethods (hvalid.mp h') hidden
  have hneeds := h.valid (hvalid.mp h') vendor driver hidden a hides
  exact hneeds.congr hsame fun step hstep hoffered => hstep (hsame ▸ hoffered)

theorem plans_cannotSet {name : String} {value : PropertyValue} {valid : Prop} (invalid : ¬ valid)
    (methods : List String) : (cannotSet name value : Operation υ f ρ).Plans valid methods :=
  (plans_refused _ methods).congr (iff_false_intro invalid) fun _ _ => rfl

/-! ## Operations of several commands -/

theorem plans_radioReport : (radioReport : Operation υ .dataNetwork RadioReport).Plans True
    ["query_tech", "query_rf_status_umts", "query_rf_status_lte"] := by
  refine ⟨absurd trivial, fun _ vendor driver hidden a hides => ?_⟩
  have hasked := (Ask.needs_ask hides .queryTechnology).both
    ((Ask.needs_ask hides .queryUmtsReport).both (Ask.needs_ask hides .queryLteReport))
  refine hasked.bind ?_
  rintro ⟨technology, umts, lte⟩ -
  refine Ask.needs_pure fun _ => ⟨(Step.opens_transaction technology).bind _, ?_⟩
  refine (Step.spares_transaction technology).bind fun code => ?_
  split
  · exact (Step.spares_transaction lte).bind fun report => Step.spares_pure _
  · exact (Step.spares_transaction umts).bind fun report => Step.spares_pure _
  · exact Step.spares_throw rfl

theorem plans_networkProperties :
    (networkProperties : Operation υ .dataNetwork Properties).Plans True
      ["query_ens", "query_autobnd", "query_bnd"] := by
  refine ⟨absurd trivial, fun _ vendor driver hidden a hides => ?_⟩
  have hasked := (Ask.needs_ask hides .queryEnhanced).both
    ((Ask.needs_ask hides .queryAutomatic).both (Ask.needs_ask hides .queryBands))
  refine hasked.bind ?_
  rintro ⟨enhanced, automatic, bands⟩ -
  refine Ask.needs_pure fun _ => ⟨(Step.opens_transaction enhanced).bind _, ?_⟩
  refine (Step.spares_transaction enhanced).bind fun _ => ?_
  refine (Step.spares_transaction automatic).bind fun _ => ?_
  exact (Step.spares_transaction bands).bind fun _ => Step.spares_pure _

theorem plans_traceProperties : (traceProperties : Operation υ .trace Properties).Plans True
    ["query_status", "query_port_config", "query_config"] := by
  refine ⟨absurd trivial, fun _ vendor driver hidden a hides => ?_⟩
  have hstatus : (Request.queryTracing vendor).method = "query_status" := by cases vendor <;> rfl
  have hmask : (Request.queryTraceMask vendor).method = "query_config" := by cases vendor <;> rfl
  have hasked := (Ask.needs_ask hides (.queryTracing vendor)).both
    ((Ask.needs_ask hides .queryPortConfig).both (Ask.needs_ask hides (.queryTraceMask vendor)))
  rw [hstatus, hmask] at hasked
  refine hasked.bind ?_
  rintro ⟨enabled, portConfig, mask⟩ -
  refine Ask.needs_pure fun _ => ⟨(Step.opens_transaction enabled).bind _, ?_⟩
  refine (Step.spares_transaction enabled).bind fun _ => ?_
  refine (Step.spares_transaction portConfig).bind fun _ => ?_
  exact (Step.spares_transaction mask).bind fun _ => Step.spares_pure _

/-- The request for the bands to be set is asked for once more when those of now are known. -/
theorem plans_setLteBands (lte : UInt32) :
    (setLteBands lte : Operation υ .dataNetwork Unit).Plans True ["query_bnd", "set_bnd"] := by
  refine ⟨absurd trivial, fun _ vendor driver hidden a hides => ?_⟩
  refine (Ask.needs_ask hides .queryBands).bind fun query _ => ?_
  refine (Ask.needs_ask hides (.setBands .none)).bind fun _ _ => ?_
  refine Ask.needs_pure fun hoffered => ⟨(Step.opens_transaction query).bind _, ?_⟩
  have hset : hidden "set_bnd" = false := by
    simpa using List.any_eq_false.mp hoffered "set_bnd" (by simp)
  refine (Step.spares_transaction query).bind fun current => ?_
  refine (Step.spares_asking (.setBands ⟨current.umts, lte⟩) hset).bind fun set => ?_
  exact (Step.spares_transaction set).bind fun _ => Step.spares_pure _

theorem spares_readSwitches {allow : Allowance → Prop}
    (queries : List (Switch × Transaction Bool)) :
    (readSwitches queries : Step (Host υ) (List (Switch × Bool))).Spares allow := by
  induction queries with
  | nil => exact Step.spares_pure []
  | cons first rest ih =>
    exact (Step.spares_transaction first.2).bind fun on => ih.bind fun _ => Step.spares_pure _

theorem opens_readSwitches {queries : List (Switch × Transaction Bool)} (more : queries ≠ []) :
    (readSwitches queries : Step (Host υ) (List (Switch × Bool))).Opens := by
  cases queries with
  | nil => exact absurd rfl more
  | cons first rest => exact (Step.opens_transaction first.2).bind _

/-- The queries that are asked for again are among those asked for before. -/
theorem any_queries (hidden : String → Bool) (vendor : Vendor) :
    (Switch.all.map fun s : Switch => "query:" ++ s.property).any hidden
      = ((Switch.all.map fun s : Switch => "query:" ++ s.property) ++
        (((Switch.queryOrder.filter (Switch.appliesTo · vendor)).map fun s : Switch =>
          "query:" ++ s.property) ++ [])).any hidden := by
  rw [List.append_nil, List.any_append]
  cases hall : (Switch.all.map fun s : Switch => "query:" ++ s.property).any hidden with
  | true => rfl
  | false =>
    symm
    rw [Bool.false_or, List.any_eq_false]
    intro method hmethod
    obtain ⟨s, -, rfl⟩ := List.mem_map.mp hmethod
    have hs : s ∈ Switch.all := by cases s <;> decide
    exact List.any_eq_false.mp hall _ (List.mem_map_of_mem hs)

theorem plans_reportingProperties :
    (reportingProperties : Operation υ .reporting Properties).Plans True
      (Switch.all.map fun s : Switch => "query:" ++ s.property) := by
  refine ⟨absurd trivial, fun _ vendor driver hidden a hides => ?_⟩
  have hall := Ask.needs_mapM (fun s => Ask.needs_ask hides (.querySwitch s)) Switch.all
  have hone : ∀ s, (do return (s, ← driver.ask (.querySwitch s)) :
      Ask (Switch × Transaction Bool)).Needs hidden a ["query:" ++ s.property]
        fun query => query.1 = s :=
    fun s => (Ask.needs_ask hides (.querySwitch s)).bind fun _ _ => Ask.needs_pure rfl
  have hown := Ask.needs_mapM hone (Switch.queryOrder.filter (·.appliesTo vendor))
  refine Ask.Needs.congr ?_ (any_queries hidden vendor) fun step hstep _ => hstep
  refine hall.bind fun _ _ => hown.bind fun queries hqueries => Ask.needs_pure ⟨?_, ?_⟩
  · refine (opens_readSwitches fun hnone => ?_).bind _
    rw [hnone, List.forall₂_nil_right_iff] at hqueries
    have hsim : Switch.simStatus ∈ Switch.queryOrder.filter (·.appliesTo vendor) := by
      cases vendor <;> decide
    rw [hqueries] at hsim
    cases hsim
  · exact (spares_readSwitches queries).bind fun readings => Step.spares_pure _

theorem plans_survey (band : String) : (survey band : Operation υ .survey (List String)).Plans
    ((surveyBands.lookup band).isSome = true) ["set_registration", "configure", "scan"] := by
  have hrange : Except.Checks ((surveyBands.lookup band).isSome = true) (fun _ => True)
      (surveyRange band) := by
    unfold surveyRange
    cases surveyBands.lookup band with
    | some range => exact .good rfl range trivial
    | none => exact .bad nofun _
  constructor
  · intro hinvalid vendor driver a
    unfold survey
    dsimp only
    generalize surveyRange band = made at hrange ⊢
    cases hrange with
    | good h => exact absurd h hinvalid
    | bad h detail => exact ⟨detail, rfl⟩
  · intro hvalid vendor driver hidden a hides
    unfold survey
    dsimp only
    generalize surveyRange band = made at hrange ⊢
    cases hrange with
    | bad h => exact absurd hvalid h
    | good h range =>
      have hasked := (Ask.needs_ask hides (.setRegistration .deregistered)).both
        ((Ask.needs_ask hides .prepareSurvey).both ((Ask.needs_ask hides (.scan range)).both
          (Ask.needs_ask hides (.setRegistration .automatic))))
      have hsame : ["set_registration", "configure", "scan"].any hidden
          = ["set_registration", "configure", "scan", "set_registration"].any hidden := by
        simp only [List.any_cons, List.any_nil, Bool.or_false]
        cases hidden "set_registration" <;> simp
      refine Ask.Needs.congr ?_ hsame fun step hstep _ => hstep
      refine hasked.bind ?_
      rintro ⟨leave, prepare, scan, goBack⟩ -
      have hact : (do Step.transaction prepare; Step.transaction scan : Step (Host υ) _).Spares
          (driver.Hides hidden) :=
        (Step.spares_transaction prepare).bind fun _ => Step.spares_transaction scan
      refine Ask.needs_pure ⟨?_, ?_⟩
      · exact ((Step.opens_transaction leave).compensated _ _).bind _
      · have hsurvey :=
          (Step.spares_transaction leave).compensated hact (Step.spares_transaction goBack)
        exact hsurvey.bind fun cells => Step.spares_pure _

/-! ## Properties set by name -/

theorem plans_setNetworkProperty (name : String) (value : PropertyValue) :
    (setNetworkProperty name value : Operation υ .dataNetwork Unit).Plans
      ((name = "EnhancedNetworkSelection" ∨ name = "AutomaticBandSelection") ∧
          (∃ on, value = .bool on) ∨
        name = "LTEBandSelection" ∧ ∃ lte, value = .uint lte)
      (if name = "EnhancedNetworkSelection" then ["set_ens"]
        else if name = "AutomaticBandSelection" then ["set_autobnd"]
        else ["query_bnd", "set_bnd"]) := by
  unfold setNetworkProperty
  split
  · exact (plans_always fun _ => rfl).congr (iff_true_intro (.inl ⟨.inl rfl, _, rfl⟩))
      fun _ _ => rfl
  · exact (plans_always fun _ => rfl).congr (iff_true_intro (.inl ⟨.inr rfl, _, rfl⟩))
      fun _ _ => rfl
  · exact (plans_setLteBands _).congr (iff_true_intro (.inr ⟨rfl, _, rfl⟩)) fun _ _ => rfl
  · next henhanced hautomatic hlte =>
    refine plans_cannotSet ?_ _
    rintro (⟨rfl | rfl, on, rfl⟩ | ⟨rfl, lte, rfl⟩)
    · exact henhanced on rfl rfl
    · exact hautomatic on rfl rfl
    · exact hlte lte rfl rfl

theorem plans_setPowerProperty (name : String) (value : PropertyValue) :
    (setPowerProperty name value : Operation υ .power Unit).Plans
      (name = "PwMgmState" ∧ ∃ state : PowerState, value = .text state.name) ["set_state"] := by
  unfold setPowerProperty
  split
  · next text =>
    have hchecks := PowerState.checks_ofName text
    generalize PowerState.ofName text = made at hchecks ⊢
    cases hchecks with
    | good h state named =>
      subst named
      exact (plans_always fun _ => rfl).congr (iff_true_intro ⟨rfl, state, rfl⟩) fun _ _ => rfl
    | bad h detail =>
      refine (plans_refused detail _).congr (iff_false_intro ?_) fun _ _ => rfl
      rintro ⟨-, state, htext⟩
      exact h ⟨state, PropertyValue.text.inj htext⟩
  · next hname =>
    refine plans_cannotSet ?_ _
    rintro ⟨rfl, state, rfl⟩
    exact hname _ rfl rfl

theorem plans_setHardwareProperty (name : String) (value : PropertyValue) :
    (setHardwareProperty name value : Operation υ .hardware Unit).Plans
      (name = "SIMDetectionMode" ∧ ∃ mode : SimDetection, value = .text mode.name)
      ["set_simdet"] := by
  unfold setHardwareProperty
  split
  · next text =>
    have hchecks := SimDetection.checks_ofName text
    generalize SimDetection.ofName text = made at hchecks ⊢
    cases hchecks with
    | good h mode named =>
      subst named
      exact (plans_always fun _ => rfl).congr (iff_true_intro ⟨rfl, mode, rfl⟩) fun _ _ => rfl
    | bad h detail =>
      refine (plans_refused detail _).congr (iff_false_intro ?_) fun _ _ => rfl
      rintro ⟨-, mode, htext⟩
      exact h ⟨mode, PropertyValue.text.inj htext⟩
  · next hname =>
    refine plans_cannotSet ?_ _
    rintro ⟨rfl, mode, rfl⟩
    exact hname _ rfl rfl

theorem plans_setTraceMask (mask : String) : (setTraceMask mask : Operation υ .trace Unit).Plans
    (mask.toList.length ≤ TraceSettings.maxMaskLength) ["set_config"] :=
  plans_request fun _ => (Except.checks_length "trace mask" mask _).map fun _ _ => rfl

theorem plans_setTraceProperty (name : String) (value : PropertyValue) :
    (setTraceProperty name value : Operation υ .trace Unit).Plans
      (name = "TraceStatus" ∧ (∃ on, value = .bool on) ∨
        name = "PortConfig" ∧ (∃ config, value = .uint config) ∨
        name = "TraceConfig" ∧ ∃ mask, value = .text mask ∧
          mask.toList.length ≤ TraceSettings.maxMaskLength)
      (if name = "TraceStatus" then ["set_status"]
        else if name = "PortConfig" then ["set_port_config"] else ["set_config"]) := by
  unfold setTraceProperty
  split
  · next on =>
    have hplans : (setTracing on : Operation υ .trace Unit).Plans True ["set_status"] :=
      plans_always fun _ => rfl
    exact hplans.congr (iff_true_intro (.inl ⟨rfl, on, rfl⟩)) fun _ _ => rfl
  · exact (plans_always fun _ => rfl).congr (iff_true_intro (.inr (.inl ⟨rfl, _, rfl⟩)))
      fun _ _ => rfl
  · next mask =>
    refine (plans_setTraceMask mask).congr ?_ fun _ _ => rfl
    simp
  · next hstatus hconfig hmask =>
    refine plans_cannotSet ?_ _
    rintro (⟨rfl, on, rfl⟩ | ⟨rfl, config, rfl⟩ | ⟨rfl, mask, rfl, -⟩)
    · exact hstatus on rfl rfl
    · exact hconfig config rfl rfl
    · exact hmask mask rfl rfl

theorem plans_setReportingProperty (name : String) (value : PropertyValue) :
    (setReportingProperty name value : Operation υ .reporting Unit).Plans
      ((∃ s : Switch, name = s.property) ∧ ∃ on, value = .bool on) ["set:" ++ name] := by
  unfold setReportingProperty
  split
  · next s on hs =>
    have hfound := List.find?_some hs
    obtain rfl : s.property = name := of_decide_eq_true hfound
    exact (plans_always fun _ => rfl).congr (iff_true_intro ⟨⟨s, rfl⟩, on, rfl⟩) fun _ _ => rfl
  · next hother =>
    refine plans_cannotSet ?_ _
    rintro ⟨⟨s, rfl⟩, on, rfl⟩
    exact hother s on (Switch.ofProperty?_property s) rfl

theorem plans_setProviderProperty (name : String) (value : PropertyValue) :
    (setProviderProperty name value : Operation υ .provider Unit).Plans
      (name = verizonProperty ∧ ∃ on, value = .bool on) ["set_verizon_mode"] := by
  unfold setProviderProperty
  split
  · next on =>
    split
    · next hname =>
      exact (plans_always fun _ => rfl).congr (iff_true_intro ⟨hname, on, rfl⟩) fun _ _ => rfl
    · next hname => exact plans_cannotSet (fun h => hname h.1) _
  · next hother =>
    refine plans_cannotSet ?_ _
    rintro ⟨-, on, rfl⟩
    exact hother on rfl

end Operation

/-! ## Every operation there is -/

namespace Service

/-- The arguments can be used. -/
def Valid : Service f ρ → Prop
  | .setProfile cid pdpType apn => Profile.MadeOf cid pdpType apn
  | .deleteProfile cid => Profile.NamedBy cid
  | .setGpio setting => setting.pin ≠ 0
  | .openChannel application => application.toList.length ≤ maxApplicationName
  | .setTraceMask mask => mask.toList.length ≤ TraceSettings.maxMaskLength
  | .survey band => (surveyBands.lookup band).isSome = true
  | .setNetworkProperty name value =>
    (name = "EnhancedNetworkSelection" ∨ name = "AutomaticBandSelection") ∧
        (∃ on, value = .bool on) ∨
      name = "LTEBandSelection" ∧ ∃ lte, value = .uint lte
  | .setPowerProperty name value =>
    name = "PwMgmState" ∧ ∃ state : PowerState, value = .text state.name
  | .setHardwareProperty name value =>
    name = "SIMDetectionMode" ∧ ∃ mode : SimDetection, value = .text mode.name
  | .setTraceProperty name value =>
    name = "TraceStatus" ∧ (∃ on, value = .bool on) ∨
      name = "PortConfig" ∧ (∃ config, value = .uint config) ∨
      name = "TraceConfig" ∧ ∃ mask, value = .text mask ∧
        mask.toList.length ≤ TraceSettings.maxMaskLength
  | .setReportingProperty name value =>
    (∃ s : Switch, name = s.property) ∧ ∃ on, value = .bool on
  | .setProviderProperty name value =>
    name = Operation.verizonProperty ∧ ∃ on, value = .bool on
  | _ => True

/-- What the driver has to have for the operation. -/
def methods : Service f ρ → List String
  | .queryRadioMode => ["query_rat_mode"]
  | .setRadioMode _ => ["set_rat_mode"]
  | .setProfile .. => ["set_profile"]
  | .deleteProfile _ => ["delete_profile"]
  | .queryProfiles => ["query_profiles"]
  | .queryReleaseCause => ["query_ceer"]
  | .queryNetworkCause => ["query_ceernet"]
  | .radioReport => ["query_tech", "query_rf_status_umts", "query_rf_status_lte"]
  | .networkProperties => ["query_ens", "query_autobnd", "query_bnd"]
  | .setEnhanced _ => ["set_ens"]
  | .setAutomatic _ => ["set_autobnd"]
  | .setLteBands _ => ["query_bnd", "set_bnd"]
  | .setNetworkProperty name _ =>
    if name = "EnhancedNetworkSelection" then ["set_ens"]
    else if name = "AutomaticBandSelection" then ["set_autobnd"] else ["query_bnd", "set_bnd"]
  | .powerProperties => ["query_state"]
  | .setPower _ | .setPowerProperty .. => ["set_state"]
  | .setGpio _ => ["set_gpio"]
  | .queryGpios => ["query_gpios"]
  | .hardwareProperties => ["query_simdet"]
  | .setSimDetection _ | .setHardwareProperty .. => ["set_simdet"]
  | .openChannel _ => ["open_logical_channel"]
  | .closeChannel _ => ["close_logical_channel"]
  | .exchange .. => ["logical_channel_access"]
  | .reboot => ["reboot"]
  | .traceProperties => ["query_status", "query_port_config", "query_config"]
  | .setTracing _ => ["set_status"]
  | .setPortConfig _ => ["set_port_config"]
  | .setTraceMask _ => ["set_config"]
  | .setTraceProperty name _ =>
    if name = "TraceStatus" then ["set_status"]
    else if name = "PortConfig" then ["set_port_config"] else ["set_config"]
  | .reportingProperties => Switch.all.map fun s => "query:" ++ s.property
  | .setSwitch s _ => ["set:" ++ s.property]
  | .setReportingProperty name _ => ["set:" ++ name]
  | .providerProperties => ["query_verizon_mode"]
  | .setVerizon _ | .setProviderProperty .. => ["set_verizon_mode"]
  | .survey _ => ["set_registration", "configure", "scan"]

theorem plans (s : Service f ρ) : (s.operation : Operation υ f ρ).Plans s.Valid s.methods := by
  cases s with
  | setProfile cid pdpType apn =>
    exact Operation.plans_request fun _ => (Profile.checks_parse cid pdpType apn).map fun _ _ => rfl
  | deleteProfile cid =>
    exact Operation.plans_request fun _ => (Profile.checks_parseCid cid).map fun _ _ => rfl
  | setGpio setting =>
    exact Operation.plans_request fun _ => setting.checks_checked.map fun _ _ => rfl
  | openChannel application =>
    exact Operation.plans_request fun _ =>
      (Except.checks_length "DF name" application _).map fun _ _ => rfl
  | radioReport => exact Operation.plans_radioReport
  | networkProperties => exact Operation.plans_networkProperties
  | setLteBands lte => exact Operation.plans_setLteBands lte
  | setNetworkProperty name value => exact Operation.plans_setNetworkProperty name value
  | setPowerProperty name value => exact Operation.plans_setPowerProperty name value
  | setHardwareProperty name value => exact Operation.plans_setHardwareProperty name value
  | traceProperties => exact Operation.plans_traceProperties
  | setTraceMask mask => exact Operation.plans_setTraceMask mask
  | setTraceProperty name value => exact Operation.plans_setTraceProperty name value
  | reportingProperties => exact Operation.plans_reportingProperties
  | setReportingProperty name value => exact Operation.plans_setReportingProperty name value
  | setProviderProperty name value => exact Operation.plans_setProviderProperty name value
  | survey band => exact Operation.plans_survey band
  | _ => exact Operation.plans_always fun _ => rfl

end Service

end CellModem
