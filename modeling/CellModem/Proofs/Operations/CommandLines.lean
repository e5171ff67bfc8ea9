import CellModem.Proofs.Conduct.Channels
import CellModem.Proofs.Lifetime.Callers
import CellModem.Proofs.Operations.Needs
import CellModem.Proofs.Operations.Ways

/-!
# Command lines

A command is written to the serial line with a carriage return behind it, so it is one line if it has
no end of a line in it. Commands are made of fixed texts, numbers, and texts from callers. Of a text
from a caller nothing is checked but its length and that it has no quotes where it is put between
them. So a command has just the ends of lines that the texts of its caller have.
-/

namespace CellModem

open scoped List

variable {υ α β : Type}

/-- The carriage returns and line feeds of a text, in order. -/
def Text.lineEnds (text : String) : List Char := text.toList.filter fun c => c = '\r' ∨ c = '\n'

open Text

/-! ## The ends of lines in numbers -/

namespace Text

theorem lineEnds_append (a b : String) : lineEnds (a ++ b) = lineEnds a ++ lineEnds b := by
  unfold lineEnds
  rw [String.toList_append, List.filter_append]

theorem lineEnds_joined {a b : String} (ha : lineEnds a = []) (hb : lineEnds b = []) :
    lineEnds (a ++ b) = [] := by
  rw [lineEnds_append, ha, hb]
  rfl

theorem lineEnds_nat (n : Nat) : lineEnds (toString n) = [] := by
  change (String.ofList (Nat.toDigits 10 n)).toList.filter _ = []
  rw [String.toList_ofList, List.filter_eq_nil_iff]
  intro c hc hend
  have hdigit := Nat.isDigit_of_mem_toDigits (by decide) (by decide) hc
  rcases of_decide_eq_true hend with rfl | rfl
  · cases hdigit
  · cases hdigit

theorem lineEnds_uint32 (n : UInt32) : lineEnds (toString n) = [] := lineEnds_nat n.toNat

theorem lineEnds_int (i : Int) : lineEnds (toString i) = [] := by
  cases i with
  | ofNat n => exact lineEnds_nat n
  | negSucc n =>
    change lineEnds ("-" ++ toString (n + 1)) = []
    rw [lineEnds_append, lineEnds_nat]
    rfl

end Text

/-! ## The commands of a step -/

namespace Step

variable {may : String → Prop} {post : α → Prop} {mid : β → Prop}

/-- Every command that the step sends is such, and so is what it succeeds with. -/
def Sends (may : String → Prop) (post : α → Prop) (step : Step (Host υ) α) : Prop :=
  step.Leads (fun _ => True) fun way result =>
    (∀ x ∈ way, may x.1) ∧ ∀ value, result = .ok value → post value

theorem Sends.mono {may' : String → Prop} {step : Step (Host υ) α} (h : step.Sends may post)
    (weaker : ∀ command, may command → may' command) : step.Sends may' post := fun reply =>
  (h reply).imp fun _ _ hway => ⟨fun x hx => weaker _ (hway.1 x hx), hway.2⟩

theorem sends_pure {value : α} (h : post value) : (pure value : Step (Host υ) α).Sends may post :=
  leads_pure ⟨nofun, fun _ hvalue => Except.ok.inj hvalue ▸ h⟩

theorem sends_throw (e : Error) : (throw e : Step (Host υ) α).Sends may post :=
  leads_throw ⟨nofun, fun _ hvalue => nomatch hvalue⟩

theorem sends_transaction (t : Transaction α) (h : may t.command) :
    (transaction t : Step (Host υ) α).Sends may fun _ => True :=
  leads_transaction t fun _ => ⟨List.forall_mem_singleton.mpr h, fun _ _ => trivial⟩

theorem sends_asking {ask : Ask α} (h : ask.Yields post) :
    (Host.asking ask : Step (Host υ) α).Sends may post :=
  leads_asking ask (fun _ => id) fun a _ => ⟨nofun, fun value => h a value⟩

theorem Sends.bind {step : Step (Host υ) β} {next : β → Step (Host υ) α} (h : step.Sends may mid)
    (hnext : ∀ value, mid value → (next value).Sends may post) : (step >>= next).Sends may post := by
  refine Leads.bind h (fun way e hmid => ⟨hmid.1, fun _ hvalue => nomatch hvalue⟩) ?_
  rintro way value ⟨hway, hmid⟩ reply
  refine (hnext value (hmid value rfl) reply).imp fun more result hmore => ?_
  exact ⟨List.forall_mem_append.mpr ⟨hway, hmore.1⟩, hmore.2⟩

theorem Sends.compensated {leave goBack : Step (Host υ) Unit} {act : Step (Host υ) α}
    (hleave : leave.Sends may fun _ => True) (hact : act.Sends may fun _ => True)
    (hgoBack : goBack.Sends may fun _ => True) :
    (Step.compensated leave act goBack).Sends may fun _ => True := by
  refine Leads.compensated hleave hact hgoBack (fun _ _ hway => ⟨hway.1, fun _ _ => trivial⟩) ?_
  intro way way' way'' _ _ hway hway' hway''
  refine ⟨List.forall_mem_append.mpr ⟨hway.1, ?_⟩, fun _ _ => trivial⟩
  exact List.forall_mem_append.mpr ⟨hway'.1, hway''.1⟩

/-- What holds of every way on from the result holds of the step, if commands like those it sends
keep it so. -/
theorem Sends.made {step : Step (Host υ) α} (h : step.Sends may post) :
    step.run.Made Host.Use may := by
  intro P sends changes _ next hnext
  have hways : ∀ {goal : List Exchange → Except Error α → Prop} {r : Routine (Host υ)},
      Routine.Comes (fun _ => True) next goal r →
      (∀ way result, goal way result → ∀ x ∈ way, may x.1) → P r := by
    intro goal r comes hgoal
    induction comes with
    | reply result _ => exact hnext result
    | ask spend next _ _ ih =>
      exact changes (fun h => (h.allowance, { h with allowance := spend h.allowance })) next
        (fun h => .spent h _) fun a => ih a trivial hgoal
    | send command leads next h ih =>
      -- The command is on some way to a result.
      obtain ⟨way, result, hway⟩ := (h none).exists_way
      refine sends command leads next (hgoal _ result hway _ List.mem_cons_self) fun answer => ?_
      exact ih answer fun way result hway x hx => hgoal _ result hway x (List.mem_cons_of_mem _ hx)
  exact hways (h next) fun _ _ hway => hway.1

end Step

/-! ## The commands of an operation -/

namespace Operation

variable {f : Facility} {ρ : Type} {may : String → Prop}

/-- Every command that the operation may come to send is such. -/
def Carries (op : Operation υ f ρ) (may : String → Prop) : Prop :=
  ∀ vendor driver, (op.plan vendor driver).Yields (Step.Sends may fun _ => True)

theorem Carries.carryOut {op : Operation υ f ρ} (h : op.Carries may) (vendor : Vendor)
    (driver : Driver) : (Host.carryOut op vendor driver).Sends may fun _ => True :=
  (Step.sends_asking (h vendor driver)).bind fun _ hstep => hstep

theorem Carries.mono {may' : String → Prop} {op : Operation υ f ρ} (h : op.Carries may)
    (weaker : ∀ command, may command → may' command) : op.Carries may' :=
  fun vendor driver a step hstep => (h vendor driver a step hstep).mono weaker

theorem carries_request {make : Vendor → Except Error (Request α)} {settle : α → Settled f ρ}
    {valid : Prop}
    (checks : ∀ vendor, Except.Checks valid (fun r => may r.transaction.command) (make vendor)) :
    (request make settle : Operation υ f ρ).Carries may := by
  intro vendor driver
  have hmade := checks vendor
  unfold request
  dsimp only
  generalize make vendor = made at hmade ⊢
  cases hmade with
  | bad _ detail => exact Ask.yields_throw _
  | good _ r hmay =>
    refine (Ask.yields_ask driver r).bind ?_
    rintro _ rfl
    rw [map_eq_pure_bind]
    refine Ask.yields_pure ((Step.sends_transaction _ hmay).bind fun _ _ => ?_)
    exact Step.sends_pure trivial

theorem carries_always {make : Vendor → Request α} {settle : α → Settled f ρ}
    (h : ∀ vendor, may (make vendor).transaction.command) :
    (request (fun vendor => .ok (make vendor)) settle : Operation υ f ρ).Carries may :=
  carries_request fun vendor => Except.checks_ok (h vendor)

theorem carries_refused (e : Error) : (refused e : Operation υ f ρ).Carries may :=
  fun _ _ => Ask.yields_throw e

end Operation

/-! ## The commands without texts of callers -/

namespace Request

/-- There is no end of a line in the command. -/
def Plain (r : Request α) : Prop := lineEnds r.transaction.command = []

theorem plain_queryRadioMode (vendor : Vendor) : (queryRadioMode vendor).Plain := by
  cases vendor <;> rfl

theorem plain_setRadioMode (mode : RadioMode) : (setRadioMode mode).Plain := by
  cases mode <;> rfl

theorem plain_deleteProfile (cid : UInt32) : (deleteProfile cid).Plain :=
  lineEnds_joined rfl (lineEnds_uint32 cid)

theorem plain_setEnhanced (on : Bool) : (setEnhanced on).Plain := by
  cases on <;> rfl

theorem plain_setAutomatic (on : Bool) : (setAutomatic on).Plain := by
  cases on <;> rfl

theorem plain_setBands (bands : BandMasks) : (setBands bands).Plain :=
  lineEnds_joined (lineEnds_joined (lineEnds_joined rfl (lineEnds_uint32 bands.umts)) rfl)
    (lineEnds_uint32 bands.lte)

theorem plain_setPower (state : PowerState) : (setPower state).Plain := by
  cases state <;> rfl

theorem plain_setGpio (setting : GpioSetting) : (setGpio setting).Plain := by
  have hpin := lineEnds_joined (lineEnds_uint32 setting.pin) (b := ",") rfl
  have hmode := lineEnds_joined (lineEnds_joined hpin (lineEnds_uint32 setting.mode)) (b := ",") rfl
  have hdirection :=
    lineEnds_joined (lineEnds_joined hmode (lineEnds_uint32 setting.direction)) (b := ",") rfl
  exact lineEnds_joined rfl (lineEnds_joined hdirection (lineEnds_nat setting.save.toNat))

theorem plain_setSimDetection (mode : SimDetection) : (setSimDetection mode).Plain := by
  cases mode <;> rfl

theorem plain_closeChannel (session : Int) : (closeChannel session).Plain :=
  lineEnds_joined rfl (lineEnds_int session)

theorem plain_queryTracing (vendor : Vendor) : (queryTracing vendor).Plain := by
  cases vendor <;> rfl

theorem lineEnds_listingOn : lineEnds TraceSettings.listingOn = [] := by
  unfold TraceSettings.listingOn
  rw [lineEnds_append, lineEnds_append, lineEnds_append, lineEnds_append, lineEnds_append,
    lineEnds_append, lineEnds_append]
  rfl

theorem plain_setTracing (vendor : Vendor) (on : Bool) : (setTracing vendor on).Plain := by
  cases vendor with
  | le910v2 =>
    cases on with
    | true => exact lineEnds_listingOn
    | false => rfl
  | default | telitSerial => cases on <;> rfl

theorem plain_setPortConfig (config : UInt32) : (setPortConfig config).Plain :=
  lineEnds_joined rfl (lineEnds_uint32 config)

theorem plain_queryTraceMask (vendor : Vendor) : (queryTraceMask vendor).Plain := by
  cases vendor <;> rfl

theorem plain_querySwitch (s : Switch) : (querySwitch s).Plain := by
  cases s <;> rfl

theorem plain_setSwitch (s : Switch) (on : Bool) : (setSwitch s on).Plain := by
  cases s <;> cases on <;> rfl

theorem plain_setVerizon (on : Bool) : (setVerizon on).Plain := by
  cases on <;> rfl

theorem plain_setRegistration (r : Registration) : (setRegistration r).Plain := by
  cases r <;> rfl

theorem plain_scan (range : Option (UInt32 × UInt32)) : (scan range).Plain := by
  change lineEnds (surveyCommand range) = []
  unfold surveyCommand
  split
  · split
    · exact lineEnds_joined (lineEnds_joined (lineEnds_joined rfl (lineEnds_uint32 _)) rfl)
        (lineEnds_uint32 _)
    · rfl
  · rfl

end Request

/-! ## Every operation -/

namespace Operation

variable {may : String → Prop} (plain : ∀ command, lineEnds command = [] → may command)

include plain

theorem carries_radioReport :
    (radioReport : Operation υ .dataNetwork RadioReport).Carries may := by
  intro vendor driver
  have hasked := (Ask.yields_ask driver .queryTechnology).both
    ((Ask.yields_ask driver .queryUmtsReport).both (Ask.yields_ask driver .queryLteReport))
  refine hasked.bind ?_
  rintro ⟨_, _, _⟩ ⟨rfl, rfl, rfl⟩
  refine Ask.yields_pure ((Step.sends_transaction _ (plain _ rfl)).bind fun code _ => ?_)
  split
  · exact (Step.sends_transaction _ (plain _ rfl)).bind fun _ _ => Step.sends_pure trivial
  · exact (Step.sends_transaction _ (plain _ rfl)).bind fun _ _ => Step.sends_pure trivial
  · exact Step.sends_throw _

theorem carries_networkProperties :
    (networkProperties : Operation υ .dataNetwork Properties).Carries may := by
  intro vendor driver
  have hasked := (Ask.yields_ask driver .queryEnhanced).both
    ((Ask.yields_ask driver .queryAutomatic).both (Ask.yields_ask driver .queryBands))
  refine hasked.bind ?_
  rintro ⟨_, _, _⟩ ⟨rfl, rfl, rfl⟩
  refine Ask.yields_pure ((Step.sends_transaction _ (plain _ rfl)).bind fun _ _ => ?_)
  refine (Step.sends_transaction _ (plain _ rfl)).bind fun _ _ => ?_
  exact (Step.sends_transaction _ (plain _ rfl)).bind fun _ _ => Step.sends_pure trivial

theorem carries_setLteBands (lte : UInt32) :
    (setLteBands lte : Operation υ .dataNetwork Unit).Carries may := by
  intro vendor driver
  refine (Ask.yields_ask driver .queryBands).bind ?_
  rintro _ rfl
  refine (Ask.yields_ask driver (.setBands .none)).bind fun _ _ => Ask.yields_pure ?_
  refine (Step.sends_transaction _ (plain _ rfl)).bind fun current _ => ?_
  refine (Step.sends_asking (Ask.yields_ask driver (.setBands ⟨current.umts, lte⟩))).bind ?_
  rintro _ rfl
  have hset := plain _ (Request.plain_setBands ⟨current.umts, lte⟩)
  exact (Step.sends_transaction _ hset).bind fun _ _ => Step.sends_pure trivial

theorem carries_traceProperties :
    (traceProperties : Operation υ .trace Properties).Carries may := by
  intro vendor driver
  have hasked := (Ask.yields_ask driver (.queryTracing vendor)).both
    ((Ask.yields_ask driver .queryPortConfig).both (Ask.yields_ask driver (.queryTraceMask vendor)))
  refine hasked.bind ?_
  rintro ⟨_, _, _⟩ ⟨rfl, rfl, rfl⟩
  have htracing := plain _ (Request.plain_queryTracing vendor)
  have hmask := plain _ (Request.plain_queryTraceMask vendor)
  refine Ask.yields_pure ((Step.sends_transaction _ htracing).bind fun _ _ => ?_)
  refine (Step.sends_transaction _ (plain _ rfl)).bind fun _ _ => ?_
  exact (Step.sends_transaction _ hmask).bind fun _ _ => Step.sends_pure trivial

theorem sends_readSwitches {switches : List Switch} {queries : List (Switch × Transaction Bool)}
    (queried : List.Forall₂ (fun s query => query = (s, (Request.querySwitch s).transaction))
      switches queries) :
    (readSwitches queries : Step (Host υ) _).Sends may fun _ => True := by
  induction queried with
  | nil => exact Step.sends_pure trivial
  | @cons s _ _ _ hquery _ ih =>
    obtain rfl := hquery
    refine (Step.sends_transaction _ (plain _ (Request.plain_querySwitch s))).bind fun _ _ => ?_
    exact ih.bind fun _ _ => Step.sends_pure trivial

theorem carries_reportingProperties :
    (reportingProperties : Operation υ .reporting Properties).Carries may := by
  intro vendor driver
  have hall := Ask.yields_mapM (fun s => Ask.yields_ask driver (.querySwitch s)) Switch.all
  have hqueries := Ask.yields_mapM (Ask.yields_switchQuery driver)
    (Switch.queryOrder.filter (·.appliesTo vendor))
  refine hall.bind fun _ _ => hqueries.bind fun queries hqueries => Ask.yields_pure ?_
  exact (sends_readSwitches plain hqueries).bind fun _ _ => Step.sends_pure trivial

theorem carries_survey (band : String) :
    (survey band : Operation υ .survey (List String)).Carries may := by
  intro vendor driver
  have hrange : (liftM (surveyRange band) : Ask _).Yields fun _ => True :=
    Ask.yields_lift fun _ _ => trivial
  refine hrange.bind fun range _ => ?_
  have hasked := (Ask.yields_ask driver (.setRegistration .deregistered)).both
    ((Ask.yields_ask driver .prepareSurvey).both
      ((Ask.yields_ask driver (.scan range)).both
        (Ask.yields_ask driver (.setRegistration .automatic))))
  refine hasked.bind ?_
  rintro ⟨_, _, _, _⟩ ⟨rfl, rfl, rfl, rfl⟩
  have hact : (do
      Step.transaction Request.prepareSurvey.transaction
      Step.transaction (Request.scan range).transaction : Step (Host υ) _).Sends may fun _ => True :=
    (Step.sends_transaction _ (plain _ rfl)).bind fun _ _ =>
      Step.sends_transaction _ (plain _ (Request.plain_scan range))
  have hleave (r : Registration) :
      (Step.transaction (Request.setRegistration r).transaction : Step (Host υ) Unit).Sends may
        fun _ => True :=
    Step.sends_transaction _ (plain _ (Request.plain_setRegistration r))
  have hsurvey := (hleave .deregistered).compensated hact (hleave .automatic)
  exact Ask.yields_pure (hsurvey.bind fun _ _ => Step.sends_pure trivial)

theorem carries_setNetworkProperty (name : String) (value : PropertyValue) :
    (setNetworkProperty name value : Operation υ .dataNetwork Unit).Carries may := by
  unfold setNetworkProperty
  split
  · exact carries_always fun _ => plain _ (Request.plain_setEnhanced _)
  · exact carries_always fun _ => plain _ (Request.plain_setAutomatic _)
  · exact carries_setLteBands plain _
  · exact carries_refused _

theorem carries_setPowerProperty (name : String) (value : PropertyValue) :
    (setPowerProperty name value : Operation υ .power Unit).Carries may := by
  unfold setPowerProperty
  split
  · split
    · exact carries_always fun _ => plain _ (Request.plain_setPower _)
    · exact carries_refused _
  · exact carries_refused _

theorem carries_setHardwareProperty (name : String) (value : PropertyValue) :
    (setHardwareProperty name value : Operation υ .hardware Unit).Carries may := by
  unfold setHardwareProperty
  split
  · split
    · exact carries_always fun _ => plain _ (Request.plain_setSimDetection _)
    · exact carries_refused _
  · exact carries_refused _

theorem carries_setReportingProperty (name : String) (value : PropertyValue) :
    (setReportingProperty name value : Operation υ .reporting Unit).Carries may := by
  unfold setReportingProperty
  split
  · exact carries_always fun _ => plain _ (Request.plain_setSwitch _ _)
  · exact carries_refused _

theorem carries_setProviderProperty (name : String) (value : PropertyValue) :
    (setProviderProperty name value : Operation υ .provider Unit).Carries may := by
  unfold setProviderProperty
  split
  · split
    · exact carries_always fun _ => plain _ (Request.plain_setVerizon _)
    · exact carries_refused _
  · exact carries_refused _

end Operation

/-! ## The texts of callers -/

namespace Request

theorem lineEnds_setProfile (p : Profile) : lineEnds (setProfile p).transaction.command =
    lineEnds p.pdpType ++ lineEnds p.apn := by
  have hlead : lineEnds "AT+CGDCONT=" = [] := rfl
  have hopen : lineEnds ",\"" = [] := rfl
  have hbetween : lineEnds "\",\"" = [] := rfl
  have hclose : lineEnds "\"" = [] := rfl
  change lineEnds ("AT+CGDCONT=" ++
    (toString p.cid ++ ",\"" ++ p.pdpType ++ "\",\"" ++ p.apn ++ "\"")) = _
  simp only [lineEnds_append, lineEnds_uint32, hlead, hopen, hbetween, hclose, List.nil_append,
    List.append_nil]

theorem lineEnds_openChannel (application : String) :
    lineEnds (openChannel application).transaction.command = lineEnds application :=
  (lineEnds_append "AT+CCHO=" application).trans rfl

theorem lineEnds_exchange (session : Int) (length : Nat) (command : String) :
    lineEnds (exchange session length command).transaction.command = lineEnds command := by
  have hlead : lineEnds "AT+CGLA=" = [] := rfl
  have hcomma : lineEnds "," = [] := rfl
  change lineEnds ("AT+CGLA=" ++ toString session ++ "," ++ toString length ++ "," ++ command) = _
  simp only [lineEnds_append, lineEnds_int, lineEnds_nat, hlead, hcomma, List.nil_append]

theorem lineEnds_setTraceMask (vendor : Vendor) (mask : String) :
    lineEnds (setTraceMask vendor mask).transaction.command = lineEnds mask := by
  cases vendor with
  | le910v2 => exact (lineEnds_append "AT#RTDE=" mask).trans rfl
  | default | telitSerial => exact (lineEnds_append "AT+XTRACECONFIG=0,4," mask).trans rfl

end Request

namespace Service

variable {f : Facility} {ρ : Type} {may : String → Prop}

/-- The texts from the caller that the operation puts into commands. -/
def texts : Service f ρ → List String
  | .setProfile _ pdpType apn => [pdpType, apn]
  | .openChannel application => [application]
  | .exchange _ _ command => [command]
  | .setTraceMask mask | .setTraceProperty _ (.text mask) => [mask]
  | _ => []

/-- The command has the ends of lines that these texts have, and no others. -/
def EndsLinesAs (texts : List String) (command : String) : Prop :=
  lineEnds command = texts.flatMap lineEnds

theorem endsLinesAs_single {text command : String} (h : lineEnds command = lineEnds text) :
    EndsLinesAs [text] command :=
  h.trans (List.append_nil _).symm

theorem carries_setTraceMask (mask : String) :
    (Operation.setTraceMask mask : Operation υ .trace Unit).Carries (EndsLinesAs [mask]) :=
  Operation.carries_request fun vendor => (Except.checks_length "trace mask" mask _).map fun _ _ =>
    endsLinesAs_single (Request.lineEnds_setTraceMask vendor mask)

theorem carries_setTraceProperty (name : String) (value : PropertyValue) :
    (Operation.setTraceProperty name value : Operation υ .trace Unit).Carries
      (EndsLinesAs (Service.setTraceProperty name value).texts) := by
  unfold Operation.setTraceProperty
  split
  · exact Operation.carries_always fun vendor => Request.plain_setTracing vendor _
  · exact Operation.carries_always fun _ => Request.plain_setPortConfig _
  · exact carries_setTraceMask _
  · exact Operation.carries_refused _

theorem carries (s : Service f ρ) :
    (s.operation : Operation υ f ρ).Carries (EndsLinesAs s.texts) := by
  cases s with
  | setProfile cid pdpType apn =>
    refine Operation.carries_request fun _ => (Profile.checks_parse cid pdpType apn).map ?_
    rintro p ⟨-, rfl, rfl⟩
    refine (Request.lineEnds_setProfile p).trans ?_
    exact congrArg (lineEnds p.pdpType ++ ·) (List.append_nil _).symm
  | deleteProfile cid =>
    exact Operation.carries_request fun _ => (Profile.checks_parseCid cid).map fun cid _ =>
      Request.plain_deleteProfile cid
  | setGpio setting =>
    exact Operation.carries_request fun _ => setting.checks_checked.map fun setting _ =>
      Request.plain_setGpio setting
  | openChannel application =>
    exact Operation.carries_request fun _ => (Except.checks_length "DF name" application _).map
      fun _ _ => endsLinesAs_single (Request.lineEnds_openChannel application)
  | exchange session length command =>
    exact Operation.carries_always fun _ =>
      endsLinesAs_single (Request.lineEnds_exchange session length command)
  | radioReport => exact Operation.carries_radioReport fun _ => id
  | networkProperties => exact Operation.carries_networkProperties fun _ => id
  | setRadioMode mode => exact Operation.carries_always fun _ => Request.plain_setRadioMode mode
  | setEnhanced on => exact Operation.carries_always fun _ => Request.plain_setEnhanced on
  | setAutomatic on => exact Operation.carries_always fun _ => Request.plain_setAutomatic on
  | setLteBands lte => exact Operation.carries_setLteBands (fun _ => id) lte
  | setNetworkProperty name value =>
    exact Operation.carries_setNetworkProperty (fun _ => id) name value
  | setPower state => exact Operation.carries_always fun _ => Request.plain_setPower state
  | setPowerProperty name value =>
    exact Operation.carries_setPowerProperty (fun _ => id) name value
  | setSimDetection mode =>
    exact Operation.carries_always fun _ => Request.plain_setSimDetection mode
  | setHardwareProperty name value =>
    exact Operation.carries_setHardwareProperty (fun _ => id) name value
  | closeChannel session => exact Operation.carries_always fun _ => Request.plain_closeChannel session
  | traceProperties => exact Operation.carries_traceProperties fun _ => id
  | setTracing on => exact Operation.carries_always fun vendor => Request.plain_setTracing vendor on
  | setPortConfig config => exact Operation.carries_always fun _ => Request.plain_setPortConfig config
  | setTraceMask mask => exact carries_setTraceMask mask
  | setTraceProperty name value => exact carries_setTraceProperty name value
  | reportingProperties => exact Operation.carries_reportingProperties fun _ => id
  | setSwitch s on => exact Operation.carries_always fun _ => Request.plain_setSwitch s on
  | setReportingProperty name value =>
    exact Operation.carries_setReportingProperty (fun _ => id) name value
  | setVerizon on => exact Operation.carries_always fun _ => Request.plain_setVerizon on
  | setProviderProperty name value =>
    exact Operation.carries_setProviderProperty (fun _ => id) name value
  | survey band => exact Operation.carries_survey (fun _ => id) band
  | queryRadioMode => exact Operation.carries_always fun vendor => Request.plain_queryRadioMode vendor
  | queryProfiles | queryReleaseCause | queryNetworkCause | powerProperties
  | queryGpios | hardwareProperties | reboot | providerProperties =>
    exact Operation.carries_always fun _ => rfl

/-- Only an operation whose arguments can be used sends anything. -/
theorem carries_valid (s : Service f ρ) :
    (s.operation : Operation υ f ρ).Carries fun command => s.Valid ∧ EndsLinesAs s.texts command := by
  by_cases hvalid : s.Valid
  · exact s.carries.mono fun _ h => ⟨hvalid, h⟩
  · intro vendor driver a step hstep
    obtain ⟨detail, hrefused⟩ := s.plans.invalid hvalid vendor driver a
    rw [hrefused] at hstep
    cases hstep

/-- Such an operation is asked for, of some instance. -/
inductive Asked (which : ∀ f ρ, Service f ρ → Prop) : (α : Type) → Step (Host υ) α → Prop where
  | perform {f : Facility} {ρ : Type} (n : Nat) (s : Service f ρ) (among : which f ρ s) :
    Asked which ρ (Host.perform n s.operation)

theorem Asked.tame {which : ∀ f ρ, Service f ρ → Prop} {step : Step (Host υ) α}
    (asked : Asked which α step) : step.run.Tame Host.Use fun command =>
      ∃ (f : Facility) (ρ : Type) (s : Service f ρ), which f ρ s ∧ s.Valid ∧
        EndsLinesAs s.texts command := by
  cases asked with
  | perform n s among =>
    refine (Host.made_perform (fun vendor driver => ?_) n).tame
    have hcarries : (s.operation : Operation υ _ _).Carries fun command =>
        ∃ (f : Facility) (ρ : Type) (s : Service f ρ), which f ρ s ∧ s.Valid ∧
          EndsLinesAs s.texts command :=
      s.carries_valid.mono fun _ h => ⟨_, _, s, among, h⟩
    exact (hcarries.carryOut vendor driver).made

end Service

/-- Whatever operations are asked for on a serial line, and whatever happens on it: each command that
is given to it is written as it is and with a carriage return behind, at most once and in order. It
comes from an operation whose arguments can be used, and has just the ends of lines that the texts of
its caller have; so it is one line exactly when these have none. -/
theorem SerialPort.line_ends_of_texts {which : ∀ f ρ, Service f ρ → Prop}
    {m now : Machine SerialPort (Host υ)} {given : List String}
    (nobody : Attended.waiting m.channel = []) (unheard : Attended.handlers m.channel = [])
    (course : Machine.Course (Routine.OfClient (Service.Asked which)) m given now) :
    (∃ sent, sent <+ given ∧
      Channel.traffic now.channel = Channel.traffic m.channel ++ sent.map (· ++ "\r")) ∧
    ∀ command ∈ given, ∃ (f : Facility) (ρ : Type) (s : Service f ρ), which f ρ s ∧ s.Valid ∧
      lineEnds (command ++ "\r") = s.texts.flatMap lineEnds ++ ['\r'] ∧
      (lineEnds (command ++ "\r") = ['\r'] ↔ ∀ text ∈ s.texts, lineEnds text = []) := by
  constructor
  · obtain ⟨sent, htraffic, hsent⟩ := course.onward
    have hqueue : Attended.backlog m.channel = [] := by
      have hwaiting : m.channel.queue.map (·.waiting) = [] := (List.append_eq_nil_iff.mp nobody).2
      exact List.map_eq_nil_iff.mpr (List.map_eq_nil_iff.mp hwaiting)
    rw [hqueue] at hsent
    exact ⟨sent, (List.sublist_append_left sent _).trans hsent, htraffic⟩
  · intro command hcommand
    have hstable : Stable Host.Use fun _ : Host υ => True := fun _ _ _ _ => trivial
    obtain ⟨-, -, hgiven⟩ := course.attends
      (fun r client s hs => client.keeps (fun _ _ asked => asked.tame) hstable hs) trivial
      (.vacant nobody unheard)
    obtain ⟨f, ρ, s, among, valid, hends⟩ := hgiven command hcommand
    have hwritten : lineEnds (command ++ "\r") = s.texts.flatMap lineEnds ++ ['\r'] := by
      rw [lineEnds_append, hends]
      rfl
    refine ⟨f, ρ, s, among, valid, hwritten, ?_⟩
    rw [hwritten, List.append_left_eq_self, List.flatMap_eq_nil_iff]

namespace SerialPort

/-- An idle serial line, and an instance for packet data. -/
def dialing : Machine SerialPort (Host Unit) where
  channel := SerialPort.opened
  state :=
    let added := ((Host.initial ()).addInstance .dataNetwork .default).2
    (added.bindInstance .dataNetwork 0 ⟨0, driverName, .full⟩).showInstance .dataNetwork 0

/-- A profile whose access point has a command line of its own in its name. -/
def profiling : Service .dataNetwork Unit := .setProfile "1" "IP" "net\rAT+CFUN=4\r"

/-- It is to be set. -/
def asked : Routine (Host Unit) := (Act.calling (Host.perform 0 profiling.operation)).routine

theorem line_ends_of_texts_profiling :
    asked.given dialing = ["AT+CGDCONT=1,\"IP\",\"net\rAT+CFUN=4\r\""] ∧
    ∀ command ∈ asked.given dialing, lineEnds (command ++ "\r") = ['\r', '\r', '\r'] := by
  let which (f : Facility) (ρ : Type) (s : Service f ρ) : Prop := s.texts = profiling.texts
  have among : which _ _ profiling := rfl
  obtain ⟨-, hlines⟩ := line_ends_of_texts (m := dialing) rfl rfl
    (Machine.Course.refl.start asked (Routine.ofClient_calling (.perform 0 profiling among)))
  refine ⟨by rfl, fun command hcommand => ?_⟩
  obtain ⟨f, ρ, s, hsame, -, hends, -⟩ := hlines command (List.mem_append_right _ hcommand)
  rw [hends, hsame]
  rfl

/-- The name is taken, and what is written in one go is a line for the profile, one that switches the
radio off, and the rest. -/
theorem three_lines_at_once :
    profiling.Valid ∧
    Channel.traffic (asked.exec dialing).channel
      = ["AT+CGDCONT=1,\"IP\",\"net\rAT+CFUN=4\r\"\r"] ∧
    lineEnds "AT+CGDCONT=1,\"IP\",\"net\rAT+CFUN=4\r\"\r" = ['\r', '\r', '\r'] := by
  refine ⟨?_, by rfl, by rfl⟩
  unfold profiling Service.Valid Profile.MadeOf Profile.NamedBy
  decide

end SerialPort

end CellModem
