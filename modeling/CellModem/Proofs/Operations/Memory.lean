import CellModem.Proofs.Operations.Arguments
import CellModem.Proofs.Operations.Service
import CellModem.Proofs.Operations.Ways

/-!
# What facilities remember

What a facility remembers is seen through its properties; for network selection there are also the
bands of UMTS, which are no property. An operation that succeeds has had every command acknowledged.
A setter stores its own property only, and announces it. An operation that reads the properties
stores what it read. The others store nothing.
-/

namespace CellModem

variable {υ ρ α : Type} {f : Facility}

namespace Facility

def remembered : (f : Facility) → f.Cache → Properties
  | .radioSettings, (mode? : Option RadioMode) =>
    mode?.toList.map fun mode => ("TechnologyPreference", .text mode.name)
  | .dataNetwork, (settings : NetworkSettings) => settings.properties
  | .power, (state? : Option PowerState) =>
    state?.toList.map fun state => ("PwMgmState", .text state.name)
  | .hardware, (mode? : Option SimDetection) =>
    mode?.toList.map fun mode => ("SIMDetectionMode", .text mode.name)
  | .logicalChannels, _ => []
  | .trace, (settings : TraceSettings) => settings.properties
  | .reporting, (readings : SwitchReadings) => readings.properties
  | .provider, (on : Bool) => [(Operation.verizonProperty, .bool on)]
  | .survey, _ => []

def property? (f : Facility) (cache : f.Cache) (name : String) : Option PropertyValue :=
  (f.remembered cache).lookup name

/-- The bands of UMTS, which are remembered for when those of LTE are set. -/
def umtsBands : (f : Facility) → f.Cache → Option UInt32
  | .dataNetwork, (settings : NetworkSettings) => some settings.bands.umts
  | _, _ => none

end Facility

/-- The exchange is this request, and its answer is worth the value. -/
def Request.Gives (q : Request α) (x : Exchange) (value : α) : Prop :=
  x.1 = q.transaction.command ∧ q.transaction.answered x.2 = .ok value

/-- The exchanges read everything the facility remembers. -/
def Facility.Reads : (f : Facility) → Vendor → List Exchange → f.Cache → Prop
  | .radioSettings, vendor, way, cache => ∃ x mode, way = [x] ∧
    (Request.queryRadioMode vendor).Gives x mode ∧ cache = some mode
  | .dataNetwork, _, way, cache => ∃ x y z enhanced automatic bands, way = [x, y, z] ∧
    Request.queryEnhanced.Gives x enhanced ∧ Request.queryAutomatic.Gives y automatic ∧
    Request.queryBands.Gives z bands ∧ cache = (⟨enhanced, automatic, bands⟩ : NetworkSettings)
  | .power, _, way, cache => ∃ x state, way = [x] ∧ Request.queryPower.Gives x state ∧
    cache = some state
  | .hardware, _, way, cache => ∃ x mode, way = [x] ∧ Request.querySimDetection.Gives x mode ∧
    cache = some mode
  | .trace, vendor, way, cache => ∃ x y z enabled portConfig mask, way = [x, y, z] ∧
    (Request.queryTracing vendor).Gives x enabled ∧ Request.queryPortConfig.Gives y portConfig ∧
    (Request.queryTraceMask vendor).Gives z mask ∧
    cache = (⟨enabled, portConfig, mask⟩ : TraceSettings)
  | .reporting, vendor, way, cache => ∃ values : List (Switch × Bool),
    values.map (·.1) = Switch.queryOrder.filter (·.appliesTo vendor) ∧
    List.Forall₂ (fun x value => (Request.querySwitch value.1).Gives x value.2) way values ∧
    cache = SwitchReadings.ofList values
  | .provider, _, way, cache => ∃ x on, way = [x] ∧ Request.queryVerizon.Gives x on ∧ cache = on
  | .logicalChannels, _, _, _ | .survey, _, _, _ => False

/-- The property gets the value, and all else that is remembered stays. The bands of UMTS stay too,
unless it is the bands of LTE that are set; then they are those just read. -/
def Facility.SetsOnly (f : Facility) (name : String) (value : PropertyValue) (way : List Exchange)
    (store : f.Cache → f.Cache) : Prop :=
  ∀ cache, (∀ other, f.property? (store cache) other
      = if other = name then some value else f.property? cache other) ∧
    if name = "LTEBandSelection" then ∃ x y bands, way = [x, y] ∧
      Request.queryBands.Gives x bands ∧ f.umtsBands (store cache) = some bands.umts
    else f.umtsBands (store cache) = f.umtsBands cache

/-- Every answer to the exchanges is an acknowledgement. -/
def Acknowledged (way : List Exchange) : Prop :=
  ∀ x ∈ way, ∃ response, x.2 = some response ∧ response.ok = true

/-- What may come of an operation that succeeds. -/
structure Settled.Follows (settled : Settled f ρ) (sets : Option (String × PropertyValue))
    (gets : Bool) (vendor : Vendor) (way : List Exchange) : Prop where
  acknowledged : Acknowledged way
  change : settled.change = sets
  set : ∀ name value, sets = some (name, value) → f.SetsOnly name value way settled.store
  got : gets = true → ∃ read, f.Reads vendor way read ∧ ∀ cache, settled.store cache = read
  kept : sets = none → gets = false → ∀ cache, settled.store cache = cache

/-! ## Looking properties up -/

namespace Facility

theorem lookup_cons (property : String × PropertyValue) (rest : Properties) (name : String) :
    List.lookup name (property :: rest)
      = if name = property.1 then some property.2 else rest.lookup name := by
  by_cases h : name = property.1
  · rw [List.lookup_cons, if_pos h, beq_iff_eq.mpr h]
  · rw [List.lookup_cons, if_neg h, beq_false_of_ne h]

/-- A facility that remembers one property at most. -/
theorem lookup_single {α : Type} (known : Option α) (property : String) (value : α → PropertyValue)
    (name : String) : (known.toList.map fun x => (property, value x)).lookup name
      = if name = property then known.map value else none := by
  cases known with
  | none => exact (ite_self _).symm
  | some x => exact lookup_cons (property, value x) [] name

theorem property?_network (settings : NetworkSettings) (name : String) :
    property? .dataNetwork settings name =
      if name = "EnhancedNetworkSelection" then some (.bool settings.enhanced)
      else if name = "AutomaticBandSelection" then some (.bool settings.automatic)
      else if name = "LTEBandSelection" then some (.uint settings.bands.lte) else none := by
  unfold property? remembered NetworkSettings.properties
  simp only [lookup_cons, List.lookup_nil]

theorem property?_trace (settings : TraceSettings) (name : String) :
    property? .trace settings name =
      if name = "TraceStatus" then some (.bool settings.enabled)
      else if name = "PortConfig" then some (.uint settings.portConfig)
      else if name = "TraceConfig" then some (.text settings.mask) else none := by
  unfold property? remembered TraceSettings.properties
  simp only [lookup_cons, List.lookup_nil]

theorem property_inj {s t : Switch} (h : s.property = t.property) : s = t := by
  have hs := Switch.ofProperty?_property s
  rw [h, Switch.ofProperty?_property] at hs
  exact (Option.some.inj hs).symm

theorem lookup_readings (readings : SwitchReadings) (s : Switch) (switches : List Switch) :
    (switches.filterMap fun t =>
      (readings t).map fun on => (t.property, PropertyValue.bool on)).lookup s.property
        = if s ∈ switches then (readings s).map .bool else none := by
  induction switches with
  | nil => rfl
  | cons t rest ih =>
    cases ht : readings t with
    | none =>
      rw [List.filterMap_cons_none (by rw [ht]; rfl), ih]
      by_cases hs : s = t
      · subst hs
        simp [ht]
      · simp [hs]
    | some on =>
      rw [List.filterMap_cons_some (by rw [ht]; rfl), lookup_cons, ih]
      by_cases hs : s = t
      · subst hs
        simp [ht]
      · rw [if_neg fun h => hs (property_inj h)]
        simp [hs]

theorem property?_reporting (readings : SwitchReadings) (s : Switch) :
    property? .reporting readings s.property = (readings s).map .bool := by
  have hall : s ∈ Switch.all := by cases s <;> decide
  exact (lookup_readings readings s Switch.all).trans (if_pos hall)

theorem property?_reporting_of_ne (readings : SwitchReadings) {name : String}
    (h : ∀ s : Switch, name ≠ s.property) : property? .reporting readings name = none := by
  refine List.lookup_eq_none_iff.mpr fun property hproperty => ?_
  obtain ⟨s, -, hs⟩ := List.mem_filterMap.mp hproperty
  obtain ⟨on, -, rfl⟩ := Option.map_eq_some_iff.mp hs
  simpa using h s

/-- A facility that remembers one property at most, whose values are told apart. -/
theorem single_ext {α : Type} {known known' : Option α} {property : String}
    {value : α → PropertyValue} (injective : Function.Injective value)
    (recalled : ∀ name, (known.toList.map fun x => (property, value x)).lookup name
      = (known'.toList.map fun x => (property, value x)).lookup name) : known = known' := by
  have hvalue := recalled property
  rw [lookup_single, lookup_single, if_pos rfl, if_pos rfl] at hvalue
  exact Option.map_injective injective hvalue

/-- Nothing is remembered besides. -/
theorem cache_ext {cache cache' : f.Cache}
    (recalled : ∀ name, f.property? cache name = f.property? cache' name)
    (bands : f.umtsBands cache = f.umtsBands cache') : cache = cache' := by
  cases f with
  | radioSettings => exact single_ext (by rintro ⟨⟩ ⟨⟩ <;> simp [RadioMode.name]) recalled
  | power => exact single_ext (by rintro ⟨⟩ ⟨⟩ <;> simp [PowerState.name]) recalled
  | hardware => exact single_ext (by rintro ⟨⟩ ⟨⟩ <;> simp [SimDetection.name]) recalled
  | logicalChannels => rfl
  | survey => rfl
  | provider => exact PropertyValue.bool.inj (Option.some.inj (recalled Operation.verizonProperty))
  | reporting =>
    funext s
    have hs := (property?_reporting cache s).symm.trans
      ((recalled s.property).trans (property?_reporting cache' s))
    exact Option.map_injective (fun _ _ => PropertyValue.bool.inj) hs
  | trace =>
    have hsame name := (property?_trace cache name).symm.trans
      ((recalled name).trans (property?_trace cache' name))
    obtain ⟨enabled, config, mask⟩ := cache
    obtain ⟨enabled', config', mask'⟩ := cache'
    obtain rfl : enabled = enabled' := by simpa using hsame "TraceStatus"
    obtain rfl : config = config' := by simpa using hsame "PortConfig"
    obtain rfl : mask = mask' := by simpa using hsame "TraceConfig"
    rfl
  | dataNetwork =>
    have hsame name := (property?_network cache name).symm.trans
      ((recalled name).trans (property?_network cache' name))
    obtain ⟨enhanced, automatic, umts, lte⟩ := cache
    obtain ⟨enhanced', automatic', umts', lte'⟩ := cache'
    obtain rfl : enhanced = enhanced' := by simpa using hsame "EnhancedNetworkSelection"
    obtain rfl : automatic = automatic' := by simpa using hsame "AutomaticBandSelection"
    obtain rfl : lte = lte' := by simpa using hsame "LTEBandSelection"
    obtain rfl : umts = umts' := Option.some.inj bands
    rfl

/-! ## Setters -/

variable {way : List Exchange}

theorem setsOnly_of_property? {name : String} {value : PropertyValue} {store : f.Cache → f.Cache}
    (hname : name ≠ "LTEBandSelection") (hproperty : ∀ cache other, f.property? (store cache) other
      = if other = name then some value else f.property? cache other)
    (hbands : ∀ cache, f.umtsBands (store cache) = f.umtsBands cache) :
    f.SetsOnly name value way store := by
  intro cache
  rw [if_neg hname]
  exact ⟨hproperty cache, hbands cache⟩

theorem setsOnly_single (known : f.Cache → Option α) (property : String)
    (value : α → PropertyValue) (x : α) {store : f.Cache → f.Cache}
    (hname : property ≠ "LTEBandSelection")
    (hremembered : ∀ cache,
      f.remembered cache = (known cache).toList.map fun x => (property, value x))
    (hstored : ∀ cache, known (store cache) = some x)
    (hbands : ∀ cache, f.umtsBands (store cache) = f.umtsBands cache) :
    f.SetsOnly property (value x) way store := by
  refine setsOnly_of_property? hname (fun cache other => ?_) hbands
  unfold property?
  rw [hremembered, hremembered, lookup_single, lookup_single, hstored]
  by_cases hother : other = property
  · rw [if_pos hother, if_pos hother]
    rfl
  · rw [if_neg hother, if_neg hother, if_neg hother]

theorem setsOnly_radioMode (mode : RadioMode) :
    SetsOnly .radioSettings "TechnologyPreference" (.text mode.name) way fun _ => some mode :=
  setsOnly_single (f := .radioSettings) id "TechnologyPreference" (fun mode => .text mode.name) mode
    (by decide) (fun _ => rfl) (fun _ => rfl) fun _ => rfl

theorem setsOnly_power (state : PowerState) :
    SetsOnly .power "PwMgmState" (.text state.name) way fun _ => some state :=
  setsOnly_single (f := .power) id "PwMgmState" (fun state => .text state.name) state (by decide)
    (fun _ => rfl) (fun _ => rfl) fun _ => rfl

theorem setsOnly_simDetection (mode : SimDetection) :
    SetsOnly .hardware "SIMDetectionMode" (.text mode.name) way fun _ => some mode :=
  setsOnly_single (f := .hardware) id "SIMDetectionMode" (fun mode => .text mode.name) mode
    (by decide) (fun _ => rfl) (fun _ => rfl) fun _ => rfl

theorem setsOnly_verizon (on : Bool) :
    SetsOnly .provider Operation.verizonProperty (.bool on) way fun _ => on :=
  setsOnly_single (f := .provider) some Operation.verizonProperty .bool on (by decide)
    (fun _ => rfl) (fun _ => rfl) fun _ => rfl

theorem setsOnly_enhanced (on : Bool) :
    SetsOnly .dataNetwork "EnhancedNetworkSelection" (.bool on) way
      fun (s : NetworkSettings) => { s with enhanced := on } := by
  refine setsOnly_of_property? (by decide) (fun (settings : NetworkSettings) other => ?_)
    fun _ => rfl
  rw [property?_network, property?_network]
  grind

theorem setsOnly_automatic (on : Bool) :
    SetsOnly .dataNetwork "AutomaticBandSelection" (.bool on) way
      fun (s : NetworkSettings) => { s with automatic := on } := by
  refine setsOnly_of_property? (by decide) (fun (settings : NetworkSettings) other => ?_)
    fun _ => rfl
  rw [property?_network, property?_network]
  grind

/-- The bands of UMTS are set to what they are, and so stored anew. -/
theorem setsOnly_lteBands (lte : UInt32) {x y : Exchange} {current : BandMasks}
    (query : Request.queryBands.Gives x current) :
    SetsOnly .dataNetwork "LTEBandSelection" (.uint lte) [x, y]
      fun (s : NetworkSettings) => { s with bands := ⟨current.umts, lte⟩ } := by
  intro (settings : NetworkSettings)
  refine ⟨fun other => ?_, ?_⟩
  · rw [property?_network, property?_network]
    grind
  · rw [if_pos rfl]
    exact ⟨x, y, current, rfl, query, rfl⟩

theorem setsOnly_tracing (on : Bool) :
    SetsOnly .trace "TraceStatus" (.bool on) way
      fun (s : TraceSettings) => { s with enabled := on } := by
  refine setsOnly_of_property? (by decide) (fun (settings : TraceSettings) other => ?_) fun _ => rfl
  rw [property?_trace, property?_trace]
  grind

theorem setsOnly_portConfig (config : UInt32) :
    SetsOnly .trace "PortConfig" (.uint config) way
      fun (s : TraceSettings) => { s with portConfig := config } := by
  refine setsOnly_of_property? (by decide) (fun (settings : TraceSettings) other => ?_) fun _ => rfl
  rw [property?_trace, property?_trace]
  grind

theorem setsOnly_traceMask (mask : String) :
    SetsOnly .trace "TraceConfig" (.text mask) way
      fun (s : TraceSettings) => { s with mask := mask } := by
  refine setsOnly_of_property? (by decide) (fun (settings : TraceSettings) other => ?_) fun _ => rfl
  rw [property?_trace, property?_trace]
  grind

theorem setsOnly_switch (s : Switch) (on : Bool) :
    SetsOnly .reporting s.property (.bool on) way fun (r : SwitchReadings) => r.set s on := by
  refine setsOnly_of_property? (by cases s <;> decide) (fun (readings : SwitchReadings) other => ?_)
    fun _ => rfl
  by_cases hother : ∃ t : Switch, other = t.property
  · obtain ⟨t, rfl⟩ := hother
    rw [property?_reporting, property?_reporting, SwitchReadings.set]
    by_cases ht : t = s
    · subst ht
      rw [if_pos rfl, if_pos rfl]
      rfl
    · rw [if_neg ht, if_neg fun h => ht (property_inj h)]
  · have hne : ∀ t : Switch, other ≠ t.property := fun t ht => hother ⟨t, ht⟩
    rw [property?_reporting_of_ne _ hne, property?_reporting_of_ne _ hne, if_neg (hne s)]

end Facility
/-! ## Operations that succeed -/

theorem acknowledged_nil : Acknowledged [] := nofun

theorem Acknowledged.cons {t : Transaction α} {answer : Option Response} {value : α}
    {way : List Exchange} (h : t.answered answer = .ok value) (rest : Acknowledged way) :
    Acknowledged ((t.command, answer) :: way) :=
  List.forall_mem_cons.mpr ⟨Transaction.acknowledged h, rest⟩

theorem Acknowledged.append {way more : List Exchange} (h : Acknowledged way)
    (h' : Acknowledged more) : Acknowledged (way ++ more) :=
  fun x hx => (List.mem_append.mp hx).elim (h x) (h' x)

namespace Settled

variable {vendor : Vendor} {way : List Exchange}

theorem follows_passing (answer : ρ) (h : Acknowledged way) :
    (passing answer : Settled f ρ).Follows none false vendor way where
  acknowledged := h
  change := rfl
  set := nofun
  got := nofun
  kept _ _ _ := rfl

theorem follows_learned {read : f.Cache} (answer : ρ) (h : Acknowledged way)
    (reads : f.Reads vendor way read) :
    (learned (fun _ => read) answer : Settled f ρ).Follows none true vendor way where
  acknowledged := h
  change := rfl
  set := nofun
  got _ := ⟨read, reads, fun _ => rfl⟩
  kept := nofun

theorem follows_changed {store : f.Cache → f.Cache} {name : String} {value : PropertyValue}
    (h : Acknowledged way) (only : f.SetsOnly name value way store) :
    (changed store name value).Follows (some (name, value)) false vendor way where
  acknowledged := h
  change := rfl
  set name' value' hset := by
    obtain ⟨rfl, rfl⟩ := Prod.mk.inj (Option.some.inj hset)
    exact only
  got := nofun
  kept := nofun

end Settled

namespace Operation

/-- Whatever the operation succeeds with is as stated. -/
def Follows (op : Operation υ f ρ) (sets : Option (String × PropertyValue)) (gets : Bool) : Prop :=
  ∀ vendor driver, (op.plan vendor driver).Yields fun step =>
    step.Succeeds fun way settled => settled.Follows sets gets vendor way

theorem follows_request {make : Vendor → Except Error (Request α)} {settle : α → Settled f ρ}
    {sets : Option (String × PropertyValue)} {gets : Bool}
    (h : ∀ vendor r answer value, make vendor = .ok r → r.transaction.answered answer = .ok value →
      (settle value).Follows sets gets vendor [(r.transaction.command, answer)]) :
    (request make settle : Operation υ f ρ).Follows sets gets := by
  intro vendor driver
  have hmade : (liftM (make vendor) : Ask (Request α)).Yields fun r => make vendor = .ok r :=
    Ask.yields_lift fun r hr => hr
  refine hmade.bind fun r hr => (Ask.yields_ask driver r).bind ?_
  rintro _ rfl
  rw [map_eq_pure_bind]
  refine Ask.yields_pure (Step.succeeds_transaction_bind _ fun answer value hvalue => ?_)
  exact Step.succeeds_pure (h vendor r answer value hr hvalue)

theorem follows_refused (e : Error) (sets : Option (String × PropertyValue)) (gets : Bool) :
    (refused e : Operation υ f ρ).Follows sets gets := fun _ _ => Ask.yields_throw e

theorem follows_passing (make : Vendor → Except Error (Request ρ)) :
    (request make .passing : Operation υ f ρ).Follows none false :=
  follows_request fun _ _ _ value _ hvalue =>
    Settled.follows_passing value (.cons hvalue acknowledged_nil)

theorem follows_learned {make : Vendor → Request α} {read : α → f.Cache} {answer : α → ρ}
    (h : ∀ vendor x value, (make vendor).Gives x value → f.Reads vendor [x] (read value)) :
    (request (fun vendor => .ok (make vendor)) fun value =>
      .learned (fun _ => read value) (answer value) : Operation υ f ρ).Follows none true := by
  refine follows_request fun vendor r reply value hr hvalue => ?_
  obtain rfl := Except.ok.inj hr
  exact Settled.follows_learned (answer value) (.cons hvalue acknowledged_nil)
    (h vendor _ value ⟨rfl, hvalue⟩)

theorem follows_changed {make : Vendor → Except Error (Request Unit)} {store : f.Cache → f.Cache}
    {name : String} {value : PropertyValue} (h : ∀ way, f.SetsOnly name value way store) :
    (request make fun () => .changed store name value : Operation υ f Unit).Follows
      (some (name, value)) false :=
  follows_request fun _ _ _ _ _ hvalue =>
    Settled.follows_changed (.cons hvalue acknowledged_nil) (h _)

/-- The step of the whole operation, from where its instance was taken. -/
theorem Follows.carryOut {op : Operation υ f ρ} {sets : Option (String × PropertyValue)}
    {gets : Bool} (h : op.Follows sets gets) (vendor : Vendor) (driver : Driver) :
    (Host.carryOut op vendor driver).Succeeds fun way settled =>
      settled.Follows sets gets vendor way := by
  have hplanned : (Host.asking (op.plan vendor driver) : Step (Host υ) _).Succeeds fun way step =>
      way = [] ∧ step.Succeeds fun way settled => settled.Follows sets gets vendor way :=
    Step.succeeds_asking fun a step hstep => ⟨rfl, h vendor driver a step hstep⟩
  refine hplanned.bind ?_
  rintro _ step ⟨rfl, hstep⟩
  exact hstep

/-! ## Operations of several commands -/

theorem follows_networkProperties :
    (networkProperties : Operation υ .dataNetwork Properties).Follows none true := by
  intro vendor driver
  have hasked := (Ask.yields_ask driver .queryEnhanced).both
    ((Ask.yields_ask driver .queryAutomatic).both (Ask.yields_ask driver .queryBands))
  refine hasked.bind ?_
  rintro ⟨_, _, _⟩ ⟨rfl, rfl, rfl⟩
  refine Ask.yields_pure (Step.succeeds_transaction_bind _ fun x enhanced hx => ?_)
  refine Step.succeeds_transaction_bind _ fun y automatic hy => ?_
  refine Step.succeeds_transaction_bind _ fun z bands hz => Step.succeeds_pure ?_
  exact Settled.follows_learned _ (.cons hx (.cons hy (.cons hz acknowledged_nil)))
    ⟨_, _, _, enhanced, automatic, bands, rfl, ⟨rfl, hx⟩, ⟨rfl, hy⟩, ⟨rfl, hz⟩, rfl⟩

theorem follows_traceProperties :
    (traceProperties : Operation υ .trace Properties).Follows none true := by
  intro vendor driver
  have hasked := (Ask.yields_ask driver (.queryTracing vendor)).both
    ((Ask.yields_ask driver .queryPortConfig).both (Ask.yields_ask driver (.queryTraceMask vendor)))
  refine hasked.bind ?_
  rintro ⟨_, _, _⟩ ⟨rfl, rfl, rfl⟩
  refine Ask.yields_pure (Step.succeeds_transaction_bind _ fun x enabled hx => ?_)
  refine Step.succeeds_transaction_bind _ fun y portConfig hy => ?_
  refine Step.succeeds_transaction_bind _ fun z mask hz => Step.succeeds_pure ?_
  exact Settled.follows_learned _ (.cons hx (.cons hy (.cons hz acknowledged_nil)))
    ⟨_, _, _, enabled, portConfig, mask, rfl, ⟨rfl, hx⟩, ⟨rfl, hy⟩, ⟨rfl, hz⟩, rfl⟩

theorem follows_radioReport :
    (radioReport : Operation υ .dataNetwork RadioReport).Follows none false := by
  intro vendor driver
  have hasked := (Ask.yields_ask driver .queryTechnology).both
    ((Ask.yields_ask driver .queryUmtsReport).both (Ask.yields_ask driver .queryLteReport))
  refine hasked.bind ?_
  rintro ⟨_, _, _⟩ ⟨rfl, rfl, rfl⟩
  refine Ask.yields_pure (Step.succeeds_transaction_bind _ fun x code hx => ?_)
  split
  · refine Step.succeeds_transaction_bind _ fun y report hy => Step.succeeds_pure ?_
    exact Settled.follows_passing _ (.cons hx (.cons hy acknowledged_nil))
  · refine Step.succeeds_transaction_bind _ fun y report hy => Step.succeeds_pure ?_
    exact Settled.follows_passing _ (.cons hx (.cons hy acknowledged_nil))
  · exact Step.succeeds_throw _

theorem follows_setLteBands (lte : UInt32) :
    (setLteBands lte : Operation υ .dataNetwork Unit).Follows
      (some ("LTEBandSelection", .uint lte)) false := by
  intro vendor driver
  refine (Ask.yields_ask driver .queryBands).bind ?_
  rintro _ rfl
  refine (Ask.yields_ask driver (.setBands .none)).bind fun _ _ => Ask.yields_pure ?_
  refine Step.succeeds_transaction_bind _ fun x current hx => ?_
  have hasking : (Host.asking (driver.ask (.setBands ⟨current.umts, lte⟩)) :
      Step (Host υ) _).Succeeds fun way t =>
        way = [] ∧ t = (Request.setBands ⟨current.umts, lte⟩).transaction :=
    Step.succeeds_asking fun a t ht => ⟨rfl, Ask.yields_ask driver _ a t ht⟩
  refine hasking.bind ?_
  rintro _ _ ⟨rfl, rfl⟩
  refine Step.succeeds_transaction_bind _ fun y _ hy => Step.succeeds_pure ?_
  exact Settled.follows_changed (.cons hx (.cons hy acknowledged_nil))
    (Facility.setsOnly_lteBands lte ⟨rfl, hx⟩)

/-- The exchanges read these switches. -/
def ReadsSwitches (way : List Exchange) (values : List (Switch × Bool)) : Prop :=
  List.Forall₂ (fun x value => (Request.querySwitch value.1).Gives x value.2) way values

theorem succeeds_readSwitches (switches : List Switch) (queries : List (Switch × Transaction Bool))
    (queried : List.Forall₂ (fun s query => query = (s, (Request.querySwitch s).transaction))
      switches queries) :
    (readSwitches queries : Step (Host υ) (List (Switch × Bool))).Succeeds fun way values =>
      Acknowledged way ∧ values.map (·.1) = switches ∧ ReadsSwitches way values := by
  induction queried with
  | nil => exact Step.succeeds_pure ⟨acknowledged_nil, rfl, .nil⟩
  | @cons s _ switches queries hquery _ ih =>
    obtain rfl := hquery
    refine Step.succeeds_transaction_bind _ fun x on hx => ih.bind fun way rest hrest => ?_
    obtain ⟨hway, hswitches, hreads⟩ := hrest
    refine Step.succeeds_pure ?_
    rw [List.append_nil]
    exact ⟨.cons hx hway, congrArg (s :: ·) hswitches, .cons ⟨rfl, hx⟩ hreads⟩

theorem follows_reportingProperties :
    (reportingProperties : Operation υ .reporting Properties).Follows none true := by
  intro vendor driver
  have hall := Ask.yields_mapM (fun s => Ask.yields_ask driver (.querySwitch s)) Switch.all
  have hqueries := Ask.yields_mapM (Ask.yields_switchQuery driver)
    (Switch.queryOrder.filter (·.appliesTo vendor))
  refine hall.bind fun _ _ => hqueries.bind fun queries hqueries => Ask.yields_pure ?_
  refine (succeeds_readSwitches _ queries hqueries).bind fun way values hread => ?_
  obtain ⟨hway, hswitches, hreads⟩ := hread
  refine Step.succeeds_pure ?_
  rw [List.append_nil]
  exact Settled.follows_learned _ hway ⟨values, hswitches, hreads, rfl⟩

theorem follows_survey (band : String) :
    (survey band : Operation υ .survey (List String)).Follows none false := by
  intro vendor driver
  have hrange : (liftM (surveyRange band) : Ask _).Yields fun _ => True :=
    Ask.yields_lift fun _ _ => trivial
  refine hrange.bind fun range _ => ?_
  have hasked := (Ask.yields_ask driver (.setRegistration .deregistered)).both
    ((Ask.yields_ask driver .prepareSurvey).both
      ((Ask.yields_ask driver (.scan range)).both
        (Ask.yields_ask driver (.setRegistration .automatic))))
  refine hasked.bind ?_
  rintro ⟨leave, prepare, scan, goBack⟩ -
  have hone : ∀ {β : Type} (t : Transaction β),
      (Step.transaction t : Step (Host υ) β).Succeeds fun way _ => Acknowledged way :=
    fun t => Step.succeeds_transaction t fun _ _ h => .cons h acknowledged_nil
  have hact : (do Step.transaction prepare; Step.transaction scan : Step (Host υ) _).Succeeds
      fun way _ => Acknowledged way :=
    Step.succeeds_transaction_bind _ fun x _ hx => Step.succeeds_transaction _ fun y _ hy =>
      .cons hx (.cons hy acknowledged_nil)
  have hsurvey : (Step.compensated (Step.transaction leave)
      (do Step.transaction prepare; Step.transaction scan) (Step.transaction goBack) :
      Step (Host υ) _).Succeeds fun way _ => Acknowledged way :=
    (hone leave).compensated hact (hone goBack) fun _ _ _ _ h h' h'' => h.append (h'.append h'')
  refine Ask.yields_pure (hsurvey.bind fun way cells hway => Step.succeeds_pure ?_)
  rw [List.append_nil]
  exact Settled.follows_passing cells hway

/-! ## Properties set by name -/

theorem follows_setNetworkProperty (name : String) (value : PropertyValue) :
    (setNetworkProperty name value : Operation υ .dataNetwork Unit).Follows
      (some (name, value)) false := by
  unfold setNetworkProperty
  split
  · exact follows_changed fun _ => Facility.setsOnly_enhanced _
  · exact follows_changed fun _ => Facility.setsOnly_automatic _
  · exact follows_setLteBands _
  · exact follows_refused _ _ _

theorem follows_setPowerProperty (name : String) (value : PropertyValue) :
    (setPowerProperty name value : Operation υ .power Unit).Follows (some (name, value)) false := by
  unfold setPowerProperty
  split
  · next text =>
    have hnamed := PowerState.checks_ofName text
    generalize PowerState.ofName text = named at hnamed ⊢
    cases hnamed with
    | good _ state named =>
      rw [named]
      exact follows_changed fun _ => Facility.setsOnly_power state
    | bad => exact follows_refused _ _ _
  · exact follows_refused _ _ _

theorem follows_setHardwareProperty (name : String) (value : PropertyValue) :
    (setHardwareProperty name value : Operation υ .hardware Unit).Follows
      (some (name, value)) false := by
  unfold setHardwareProperty
  split
  · next text =>
    have hnamed := SimDetection.checks_ofName text
    generalize SimDetection.ofName text = named at hnamed ⊢
    cases hnamed with
    | good _ mode named =>
      rw [named]
      exact follows_changed fun _ => Facility.setsOnly_simDetection mode
    | bad => exact follows_refused _ _ _
  · exact follows_refused _ _ _

theorem follows_setTraceProperty (name : String) (value : PropertyValue) :
    (setTraceProperty name value : Operation υ .trace Unit).Follows (some (name, value)) false := by
  unfold setTraceProperty
  split
  · exact follows_changed fun _ => Facility.setsOnly_tracing _
  · exact follows_changed fun _ => Facility.setsOnly_portConfig _
  · exact follows_changed fun _ => Facility.setsOnly_traceMask _
  · exact follows_refused _ _ _

theorem follows_setReportingProperty (name : String) (value : PropertyValue) :
    (setReportingProperty name value : Operation υ .reporting Unit).Follows
      (some (name, value)) false := by
  unfold setReportingProperty
  split
  · next s on hs =>
    have hname := List.find?_some hs
    rw [← of_decide_eq_true hname]
    exact follows_changed fun _ => Facility.setsOnly_switch s on
  · exact follows_refused _ _ _

theorem follows_setProviderProperty (name : String) (value : PropertyValue) :
    (setProviderProperty name value : Operation υ .provider Unit).Follows
      (some (name, value)) false := by
  unfold setProviderProperty
  split
  · split
    · next hname =>
      rw [hname]
      exact follows_changed fun _ => Facility.setsOnly_verizon _
    · exact follows_refused _ _ _
  · exact follows_refused _ _ _

end Operation

/-- What may come of any operation that succeeds. -/
theorem Service.follows (s : Service f ρ) :
    (s.operation : Operation υ f ρ).Follows s.sets s.gets := by
  cases s with
  | queryRadioMode => exact Operation.follows_learned fun _ x mode h => ⟨x, mode, rfl, h, rfl⟩
  | setRadioMode mode => exact Operation.follows_changed fun _ => Facility.setsOnly_radioMode mode
  | radioReport => exact Operation.follows_radioReport
  | networkProperties => exact Operation.follows_networkProperties
  | setEnhanced on => exact Operation.follows_changed fun _ => Facility.setsOnly_enhanced on
  | setAutomatic on => exact Operation.follows_changed fun _ => Facility.setsOnly_automatic on
  | setLteBands lte => exact Operation.follows_setLteBands lte
  | setNetworkProperty name value => exact Operation.follows_setNetworkProperty name value
  | powerProperties => exact Operation.follows_learned fun _ x state h => ⟨x, state, rfl, h, rfl⟩
  | setPower state => exact Operation.follows_changed fun _ => Facility.setsOnly_power state
  | setPowerProperty name value => exact Operation.follows_setPowerProperty name value
  | hardwareProperties => exact Operation.follows_learned fun _ x mode h => ⟨x, mode, rfl, h, rfl⟩
  | setSimDetection mode =>
    exact Operation.follows_changed fun _ => Facility.setsOnly_simDetection mode
  | setHardwareProperty name value => exact Operation.follows_setHardwareProperty name value
  | traceProperties => exact Operation.follows_traceProperties
  | setTracing on => exact Operation.follows_changed fun _ => Facility.setsOnly_tracing on
  | setPortConfig config =>
    exact Operation.follows_changed fun _ => Facility.setsOnly_portConfig config
  | setTraceMask mask => exact Operation.follows_changed fun _ => Facility.setsOnly_traceMask mask
  | setTraceProperty name value => exact Operation.follows_setTraceProperty name value
  | reportingProperties => exact Operation.follows_reportingProperties
  | setSwitch s on => exact Operation.follows_changed fun _ => Facility.setsOnly_switch s on
  | setReportingProperty name value => exact Operation.follows_setReportingProperty name value
  | providerProperties => exact Operation.follows_learned fun _ x on h => ⟨x, on, rfl, h, rfl⟩
  | setVerizon on => exact Operation.follows_changed fun _ => Facility.setsOnly_verizon on
  | setProviderProperty name value => exact Operation.follows_setProviderProperty name value
  | survey band => exact Operation.follows_survey band
  | _ => exact Operation.follows_passing _

end CellModem
