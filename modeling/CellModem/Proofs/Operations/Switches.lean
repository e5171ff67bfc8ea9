import CellModem.Proofs.Operations.Reports

/-!
# Every switch is reported as its own query has it

The switches are queried in one order and reported in another. What is reported of a switch, and
remembered of it, is read from the answer to its query all the same.
-/

namespace CellModem

namespace Switch

def query (s : Switch) : String := "AT" ++ s.commandName ++ "?"

theorem query_inj {s t : Switch} (h : s.query = t.query) : s = t := by
  cases s <;> cases t <;> first | rfl | exact absurd h (by decide)

/-- The switches that the modules of a vendor have. -/
def queried (vendor : Vendor) : List Switch := queryOrder.filter (·.appliesTo vendor)

theorem nodup_queried (vendor : Vendor) : (queried vendor).Nodup :=
  List.Pairwise.filter _ (by decide)

theorem mem_queried_iff {s : Switch} {vendor : Vendor} :
    s ∈ queried vendor ↔ s.appliesTo vendor = true := by
  have horder : s ∈ queryOrder := by cases s <;> decide
  rw [queried, List.mem_filter, and_iff_right horder]

/-- What the levels mean; RSSI control has one more of them. -/
def ofLevel (s : Switch) (level : Int) : Except DecodeError Bool :=
  if level = 0 then .ok false
  else if level = 1 ∨ level = 2 ∨ level = 3 ∧ s = .rssiControl then .ok true
  else .error (.unknownCode level)

theorem ofResponse_eq (s : Switch) (r : Response) :
    s.ofResponse r = r.decodeSingle s.lead .integer >>= s.ofLevel := by
  refine congrArg (r.decodeSingle s.lead .integer >>= ·) (funext fun level => ?_)
  unfold lookupCode ofLevel
  by_cases hlevel : level = 0 ∨ level = 1 ∨ level = 2 ∨ level = 3
  · rcases hlevel with rfl | rfl | rfl | rfl <;> cases s <;> rfl
  · simp only [not_or] at hlevel
    have hnone : s.levels.lookup level = none := by
      refine List.lookup_eq_none_iff.mpr fun entry hentry => ?_
      cases s <;> simp [levels] at hentry <;> grind
    simp [hnone, hlevel]

end Switch

/-! ## Queries in a row -/

/-- The switches are queried in turn, up to the first query that fails. -/
inductive SwitchesRead :
    List Switch → List Exchange → Except Error (List (Switch × Bool)) → Prop where
  | done : SwitchesRead [] [] (.ok [])
  | failed {s : Switch} {rest : List Switch} {a : Option Response} {e : Error}
    (failed : answerRead s.ofResponse a = .error e) :
    SwitchesRead (s :: rest) [(s.query, a)] (.error e)
  | read {s : Switch} {rest : List Switch} {a : Option Response} {on : Bool} {way : List Exchange}
    {result : Except Error (List (Switch × Bool))} (read : answerRead s.ofResponse a = .ok on)
    (more : SwitchesRead rest way result) :
    SwitchesRead (s :: rest) ((s.query, a) :: way) (result.map ((s, on) :: ·))

namespace SwitchesRead

variable {switches : List Switch} {way : List Exchange}
  {result : Except Error (List (Switch × Bool))} {values : List (Switch × Bool)}

theorem map_ok_iff {α β ε : Type} {x : Except ε α} {f : α → β} {value : β} :
    x.map f = .ok value ↔ ∃ v, x = .ok v ∧ f v = value := by
  cases x with
  | error e => exact ⟨nofun, nofun⟩
  | ok v => simp [Except.map]

/-- Nothing else is queried. -/
theorem sent (h : SwitchesRead switches way result) :
    way.map Prod.fst <+: switches.map Switch.query := by
  induction h with
  | done => exact List.prefix_rfl
  | failed => exact List.cons_prefix_cons.mpr ⟨rfl, List.nil_prefix⟩
  | read _ _ ih => exact List.cons_prefix_cons.mpr ⟨rfl, ih⟩

theorem sent_all (h : SwitchesRead switches way (.ok values)) :
    way.map Prod.fst = switches.map Switch.query ∧ values.map Prod.fst = switches := by
  generalize hresult : Except.ok values = result at h
  induction h generalizing values with
  | done =>
    obtain rfl := Except.ok.inj hresult
    exact ⟨rfl, rfl⟩
  | failed => cases hresult
  | read _ _ ih =>
    obtain ⟨values', rfl, rfl⟩ := map_ok_iff.mp hresult.symm
    obtain ⟨hway, hvalues⟩ := ih rfl
    exact ⟨congrArg (_ :: ·) hway, congrArg (_ :: ·) hvalues⟩

/-- A switch is found with what its own query was answered. -/
theorem lookup_iff (h : SwitchesRead switches way (.ok values)) (distinct : switches.Nodup)
    (s : Switch) (on : Bool) : values.lookup s = some on ↔ ∃ response,
      (s.query, some response) ∈ way ∧ response.ok = true ∧ s.ofResponse response = .ok on := by
  generalize hresult : Except.ok values = result at h
  induction h generalizing values with
  | done =>
    obtain rfl := Except.ok.inj hresult
    exact ⟨nofun, nofun⟩
  | failed => cases hresult
  | @read t rest a on' way result read more ih =>
    obtain ⟨values', rfl, rfl⟩ := map_ok_iff.mp hresult.symm
    obtain ⟨ht, hrest⟩ := List.nodup_cons.mp distinct
    have hway := (sent_all more).1
    by_cases hs : s = t
    · subst hs
      have hunasked : ∀ answer, (s.query, answer) ∉ way := by
        intro answer hmem
        have hquery : s.query ∈ way.map Prod.fst := List.mem_map.mpr ⟨_, hmem, rfl⟩
        rw [hway, List.mem_map] at hquery
        obtain ⟨t, hmem', ht'⟩ := hquery
        exact ht (Switch.query_inj ht' ▸ hmem')
      rw [List.lookup_cons_self]
      constructor
      · intro hon
        obtain rfl := Option.some.inj hon
        obtain ⟨response, rfl, hok, hdecode⟩ := answerRead_ok_iff.mp read
        exact ⟨response, List.mem_cons_self, hok, hdecode⟩
      · rintro ⟨response, hmem, hok, hdecode⟩
        obtain hsame | hmem := List.mem_cons.mp hmem
        · obtain ⟨-, rfl⟩ := Prod.mk.inj hsame
          have hread := answerRead_ok_iff.mpr ⟨response, rfl, hok, hdecode⟩
          rw [read] at hread
          exact congrArg some (Except.ok.inj hread)
        · exact absurd hmem (hunasked _)
    · have hbeq : (s == t) = false := beq_false_of_ne hs
      have hquery : s.query ≠ t.query := fun h => hs (Switch.query_inj h)
      simp [List.lookup_cons, hbeq, hquery, ih hrest rfl]

/-- The switches that were queried are known, and no others. -/
theorem known_iff (h : SwitchesRead switches way (.ok values)) (s : Switch) :
    (SwitchReadings.ofList values s).isSome ↔ s ∈ switches := by
  rw [← h.sent_all.2, SwitchReadings.ofList, List.lookup_isSome_iff]
  simp

/-- The query that fails is the last one. -/
theorem failure {e : Error} (h : SwitchesRead switches way (.error e)) :
    ∃ (before : List Exchange) (s : Switch) (a : Option Response),
      way = before ++ [(s.query, a)] ∧ answerRead s.ofResponse a = .error e ∧
      ∀ x ∈ before, ∃ (t : Switch) (on : Bool), x.1 = t.query ∧
        answerRead t.ofResponse x.2 = .ok on := by
  generalize hresult : Except.error e = result at h
  induction h with
  | done => cases hresult
  | @failed s _ a _ failed =>
    obtain rfl := Except.error.inj hresult
    exact ⟨[], s, a, rfl, failed, nofun⟩
  | @read t _ a on _ result read _ ih =>
    cases result with
    | ok values => cases hresult
    | error e' =>
      obtain ⟨before, s, a', rfl, hfailed, hbefore⟩ := ih hresult
      exact ⟨(t.query, a) :: before, s, a', rfl, hfailed,
        List.forall_mem_cons.mpr ⟨⟨t, on, rfl, read⟩, hbefore⟩⟩

end SwitchesRead

theorem SwitchReadings.names (readings : SwitchReadings) : readings.properties.map Prod.fst
    = (Switch.all.filter fun s => (readings s).isSome).map Switch.property := by
  unfold properties
  induction Switch.all with
  | nil => rfl
  | cons s rest ih => cases hs : readings s <;> simp [hs, ih]

/-! ## The ways of the operation -/

section

variable {υ : Type} {allow : Allowance → Prop}

/-- What the instance makes of what it has read. -/
def switchesSettled (values : List (Switch × Bool)) : Settled .reporting Properties :=
  .learned (fun _ => SwitchReadings.ofList values) (SwitchReadings.ofList values).properties

def queries (switches : List Switch) : List (Switch × Transaction Bool) :=
  switches.map fun s => (s, (Request.querySwitch s).transaction)

theorem run_plan_reportingProperties (vendor : Vendor) (a : Allowance) :
    ((Operation.reportingProperties : Operation υ .reporting Properties).plan vendor .full).run a
      = (.ok (switchesSettled <$> Operation.readSwitches (queries (Switch.queried vendor))),
        a) := by
  have hall : (Switch.all.mapM fun s => Driver.full.ask (.querySwitch s) : Ask _)
      = pure (Switch.all.map fun s => (Request.querySwitch s).transaction) := List.mapM_pure
  have hqueries : ((Switch.queryOrder.filter (·.appliesTo vendor)).mapM fun s =>
      (do return (s, ← Driver.full.ask (.querySwitch s)) : Ask (Switch × Transaction Bool)))
      = pure (queries (Switch.queried vendor)) := List.mapM_pure
  unfold Operation.reportingProperties
  dsimp only
  rw [hall, hqueries, map_eq_pure_bind]
  rfl

theorem routine_readSwitches_cons (s : Switch) (rest : List Switch)
    (reply : Except Error (List (Switch × Bool)) → Routine (Host υ)) :
    (Operation.readSwitches (queries (s :: rest))).routine reply
      = .send s.query [s.lead] fun a => match answerRead s.ofResponse a with
        | .ok on => (Operation.readSwitches (queries rest)).routine fun read =>
          reply (read.map ((s, on) :: ·))
        | .error e => reply (.error e) := by
  have hdecode : (Request.querySwitch s).transaction.decode = s.ofResponse := rfl
  refine (Step.routine_transaction_bind _ _ _).trans ?_
  rw [Transaction.answered_eq, hdecode]
  refine congrArg (Routine.send _ _) (funext fun a => ?_)
  cases answerRead s.ofResponse a with
  | error e => rfl
  | ok on =>
    refine (Step.routine_bind _ _ _).trans (congrArg _ (funext fun read => ?_))
    cases read <;> rfl

theorem leads_readSwitches (switches : List Switch) :
    (Operation.readSwitches (queries switches) : Step (Host υ) _).Leads allow
      (SwitchesRead switches) := by
  induction switches with
  | nil => exact Step.leads_pure .done
  | cons s rest ih =>
    have hread (a : Option Response) :
        (Request.querySwitch s).transaction.answered a = answerRead s.ofResponse a :=
      congrFun (Transaction.answered_eq _) a
    refine Step.leads_transaction_bind _ (fun a e ha => .failed (hread a ▸ ha)) fun a on ha => ?_
    refine ih.bind (fun way e hway => ?_) fun way values hway => Step.leads_pure ?_
    · exact .read (hread a ▸ ha) hway
    · rw [List.append_nil]
      exact .read (hread a ▸ ha) hway

theorem leads_reportingProperties (vendor : Vendor) :
    (Host.carryOut Operation.reportingProperties vendor .full : Step (Host υ) _).Leads allow
      fun way result => ∃ read, SwitchesRead (Switch.queried vendor) way read ∧
        result = read.map switchesSettled := by
  refine Host.leads_carryOut (run_plan_reportingProperties vendor) nofun fun step hstep => ?_
  obtain rfl := Except.ok.inj hstep
  exact (leads_readSwitches _).map _ fun way read hread => ⟨read, hread, rfl⟩

end

/-! ## Reading the switches among other calls -/

variable {ι : Type} {α : ι → Type}

/-- The calls with one more, which reads the switches. -/
def Services.withSwitches (services : Services α) (number : Nat) :
    Services fun call : Option ι => call.elim Properties α :=
  services.adding number .reportingProperties

theorem goes_reportingProperties (services : Services α) (number : Nat) (vendor : Vendor) :
    Calls.Goes (services.withSwitches number).calls none
      (fun way result => ∃ read, SwitchesRead (Switch.queried vendor) way read ∧
        result = read.map switchesSettled) []
      ((services.withSwitches number).calls.working none (vendor, .full)) :=
  leads_reportingProperties vendor _

theorem working_reportingProperties (services : Services α) (number : Nat) (vendor : Vendor) :
    (services.withSwitches number).calls.working none (vendor, .full) = .asking id fun _ =>
      (Operation.readSwitches (queries (Switch.queried vendor))).routine fun read =>
        (services.withSwitches number).calls.settling none (read.map switchesSettled) := by
  have hplan (a : Allowance) :
      (((services.withSwitches number).calls.operation none).plan vendor .full).run a = _ :=
    run_plan_reportingProperties vendor a
  rw [Calls.working_eq]
  simp only [hplan]
  refine congrArg (Routine.asking id) (funext fun _ => ?_)
  refine (Step.routine_map _ _ _).trans (congrArg _ (funext fun read => ?_))
  cases read <;> rfl

namespace Calls.World

variable [DecidableEq ι] {w w' : World fun call : Option ι => call.elim Properties α}
  {vendor : Vendor} {past : List Exchange}

/-- Reading the switches is followed from where it was given its instance. The switches that the
modules of the vendor have are queried in turn, up to the first query that fails, and its error is
the answer then. If none fails, the answer has these switches in the order of reporting, and every
switch has the value that was read from the answer to its own query. The instance remembers this and
nothing else once the call has succeeded, and the caller is told next. -/
theorem switches_reported (services : Services α) (number : Nat)
    (engaged : Engaged (services.withSwitches number).calls none (vendor, .full) w past) :
    Partway (SwitchesRead (Switch.queried vendor)) past (belonging none w.commands) ∧
    belonging none w.commands <+: (Switch.queried vendor).map Switch.query ∧
    w.answers none ≤ 1 ∧
    (∀ result : Except Error Properties, (⟨none, result⟩ : Reply _) ∈ w.host.observed →
      belonging none w.commands = past.map Prod.fst ∧
      ∃ read, SwitchesRead (Switch.queried vendor) past read ∧
        result = read.map fun values => (SwitchReadings.ofList values).properties) ∧
    ((∀ frame ∈ w.stack, frame.1 ≠ none) → (∀ completion ∈ w.held, completion.1 ≠ none) →
      none ∉ w.dropped →
      ∃ result : Except Error Properties, (⟨none, result⟩ : Reply _) ∈ w.host.observed) ∧
    (∀ e, SwitchesRead (Switch.queried vendor) past (.error e) →
      ∃ (before : List Exchange) (s : Switch) (a : Option Response),
        past = before ++ [(s.query, a)] ∧ answerRead s.ofResponse a = .error e ∧
        ∀ x ∈ before, ∃ (t : Switch) (on : Bool), x.1 = t.query ∧
          answerRead t.ofResponse x.2 = .ok on) ∧
    (∀ values, SwitchesRead (Switch.queried vendor) past (.ok values) →
      past.map Prod.fst = (Switch.queried vendor).map Switch.query ∧
      (∀ s on, SwitchReadings.ofList values s = some on ↔ ∃ response,
        (s.query, some response) ∈ past ∧ response.ok = true ∧ s.ofResponse response = .ok on) ∧
      (SwitchReadings.ofList values).properties.map Prod.fst
        = (Switch.all.filter (·.appliesTo vendor)).map Switch.property ∧
      ∀ s : Switch, (SwitchReadings.ofList values).properties.lookup s.property
        = (SwitchReadings.ofList values s).map .bool) ∧
    (∀ properties w', Succeeds (services.withSwitches number).calls none w properties w' →
      ∃ values, SwitchesRead (Switch.queried vendor) past (.ok values) ∧
        properties = (SwitchReadings.ofList values).properties ∧
        w'.host.cache? .reporting number = some (SwitchReadings.ofList values) ∧
        (∀ f n, ¬ (f = .reporting ∧ n = number) → w'.host.cache? f n = w.host.cache? f n) ∧
        w'.host.events = w.host.events ∧
        ∀ w'', Step (services.withSwitches number).calls w' w'' →
          w''.host = w'.host.note ⟨none, .ok properties⟩) ∧
    (∀ properties : Properties, (⟨none, .ok properties⟩ : Reply _) ∈ w.host.observed → ∃ w₁ w₂,
      Engaged (services.withSwitches number).calls none (vendor, .full) w₁ past ∧
      Succeeds (services.withSwitches number).calls none w₁ properties w₂ ∧
      Run (services.withSwitches number).calls w₂ w) ∧
    (∀ w', Step (services.withSwitches number).calls w w' →
      (∀ i answer, ¬ Succeeds (services.withSwitches number).calls i w answer w') →
      w.Elsewhere w' ∨ w.host.Silent w'.host) ∧
    ∀ (s : Switch) r, s.ofResponse r = r.decodeSingle s.lead .integer >>= s.ofLevel := by
  obtain ⟨hsound, hbooked, -⟩ := run_keeps engaged.run
  have hthere := engaged.followed (goes_reportingProperties services number vendor)
  obtain ⟨⟨way, _, ⟨read, hread, -⟩, hpast, hsent⟩, hheard, hwaits⟩ := hthere.partway hsound
  refine ⟨⟨⟨way, read, hread, hpast, hsent⟩, hheard, hwaits⟩, hsent.trans hread.sent,
    hsound.answers_le none, fun result told => ?_, hsound.answered hthere.claimed,
    fun e => SwitchesRead.failure, fun values hvalues => ⟨hvalues.sent_all.1,
      hvalues.lookup_iff (Switch.nodup_queried vendor), ?_, Facility.property?_reporting _⟩,
    fun properties w' hsucceeds => ?_, fun properties => engaged.succeeded, fun w' => silent_step,
    Switch.ofResponse_eq⟩
  · obtain ⟨hsent, _, ⟨read, hread, rfl⟩, rfl⟩ := hthere.told result told
    refine ⟨hsent, read, hread, ?_⟩
    cases read <;> rfl
  · rw [SwitchReadings.names]
    refine congrArg (List.map Switch.property) (List.filter_congr fun s _ => ?_)
    rw [Bool.eq_iff_iff, hvalues.known_iff, Switch.mem_queried_iff]
  · obtain ⟨settled, ⟨read, hread, hsettled⟩, hanswer, hhost⟩ := hthere.succeeds hsucceeds
    cases read with
    | error e => cases hsettled
    | ok values =>
      obtain rfl : settled = switchesSettled values := Except.ok.inj hsettled
      obtain ⟨heard, hrecorded⟩ := exists_recorded engaged.run
      obtain ⟨_, _, houtcome, -⟩ := hrecorded.traced.outcome hsound hbooked hsucceeds
      obtain ⟨cache, hcache, -⟩ := houtcome.stored
      refine ⟨values, hread, hanswer.symm, ?_, houtcome.others,
        houtcome.announced.trans (List.append_nil _), fun w'' => hsucceeds.told⟩
      rw [hhost]
      refine (Host.cache?_settle_ok _ _ _).trans ?_
      exact congrArg (Option.map _) hcache

/-! ### Any answers -/

omit [DecidableEq ι] in
/-- The modem may answer the queries in any way. -/
theorem run_readSwitches (services : Services α) {number : Nat} {switches : List Switch}
    {read : Except Error (List (Switch × Bool))}
    (reply : Except Error (List (Switch × Bool)) →
      Routine (Logged fun call : Option ι => call.elim Properties α))
    (h : SwitchesRead switches past read)
    (top : w.stack = [(none, (Operation.readSwitches (queries switches)).routine reply)]) :
    Run (services.withSwitches number).calls w
      { w with
        stack := [(none, reply read)]
        commands := w.commands ++ past.map fun x => (none, x.1) } := by
  induction h generalizing w reply with
  | done =>
    obtain ⟨host, stack, held, started, claimed, settled, dropped, commands⟩ := w
    obtain rfl : stack = [(none, reply (.ok []))] := top
    simp only [List.map_nil, List.append_nil]
    exact .refl
  | @failed s rest a e failed =>
    rw [routine_readSwitches_cons] at top
    have hstep : Step (services.withSwitches number).calls w _ := .answer w none [] _ _ _ a top
    rw [failed] at hstep
    exact .single hstep
  | @read s rest a on way read hread _ ih =>
    rw [routine_readSwitches_cons] at top
    have hstep : Step (services.withSwitches number).calls w _ := .answer w none [] _ _ _ a top
    rw [hread] at hstep
    have hmore := ih (fun read => reply (read.map ((s, on) :: ·)))
      (w := { w with
        stack := [(none, (Operation.readSwitches (queries rest)).routine fun read =>
          reply (read.map ((s, on) :: ·)))]
        commands := w.commands ++ [(none, s.query)] }) rfl
    rw [List.append_assoc] at hmore
    exact hmore.head hstep

/-- A host with an instance for reporting, of a module behind a serial multiplexer. -/
def multiplexed : Logged fun call : Option Empty => call.elim Properties Empty.elim :=
  ((Host.initial []).addInstance .reporting .telitSerial).2.bindInstance .reporting 0
    ⟨0, "telitmodem", .full⟩

/-- RSSI control has a level that no other switch has. -/
theorem exists_switched : ∃ past values, SwitchesRead (Switch.queried .telitSerial) past
      (.ok values) ∧
    (SwitchReadings.ofList values).properties = [("NetworkStatus", .bool false),
      ("GPRSStatus", .bool true), ("GPRSEvents", .bool false), ("RSSIControl", .bool true),
      ("SIMStatus", .bool true)] := by
  have hsim : answerRead Switch.simStatus.ofResponse (some (.success ["#QSS: 1,1"]))
      = .ok true := by decide
  have hrssi : answerRead Switch.rssiControl.ofResponse (some (.success ["+CMER: 3,0,0,2"]))
      = .ok true := by decide
  have hevents : answerRead Switch.gprsEvents.ofResponse (some (.success ["+CGEREP: 0"]))
      = .ok false := by decide
  have hgprs : answerRead Switch.gprsStatus.ofResponse (some (.success ["+CGREG: 2,1"]))
      = .ok true := by decide
  have hnetwork : answerRead Switch.networkStatus.ofResponse (some (.success ["+CREG: 0,1"]))
      = .ok false := by decide
  exact ⟨_, _, .read hsim (.read hrssi (.read hevents (.read hgprs (.read hnetwork .done)))), rfl⟩

theorem exists_settled {values : List (Switch × Bool)}
    (h : SwitchesRead (Switch.queried .telitSerial) past (.ok values)) :
    ∃ w w', Run (unused.withSwitches 0).calls
      (({ empty with host := multiplexed } : World _).given (unused.withSwitches 0).calls none
        (.telitSerial, .full) ((unused.withSwitches 0).calls.claim none multiplexed).2) w ∧
      Succeeds (unused.withSwitches 0).calls none w (switchesSettled values).answer w' := by
  have hworking := working_reportingProperties unused 0 .telitSerial
  have hasked : Run (unused.withSwitches 0).calls _ _ := .single
    (.ask (({ empty with host := multiplexed } : World _).given (unused.withSwitches 0).calls
      none (.telitSerial, .full) ((unused.withSwitches 0).calls.claim none multiplexed).2)
      none [] _ _ (congrArg (fun r => [(none, r)]) hworking))
  have hanswered := hasked.trans (run_readSwitches unused
    (fun read => (unused.withSwitches 0).calls.settling none (read.map switchesSettled)) h rfl)
  exact ⟨_, _, hanswered,
    @Succeeds.settle _ _ (unused.withSwitches 0).calls none _ [] (switchesSettled values) rfl⟩

theorem switches_reported_multiplexed : ∃ w w' past values,
    Engaged (unused.withSwitches 0).calls none (.telitSerial, .full) w past ∧
    Succeeds (unused.withSwitches 0).calls none w
      [("NetworkStatus", .bool false), ("GPRSStatus", .bool true), ("GPRSEvents", .bool false),
        ("RSSIControl", .bool true), ("SIMStatus", .bool true)] w' ∧
    SwitchesRead (Switch.queried .telitSerial) past (.ok values) ∧
    w'.host.cache? .reporting 0 = some (SwitchReadings.ofList values) := by
  have hmultiplexed : (Host.initial [] : Logged _).Apart multiplexed :=
    (Host.apart_addInstance _ _ _).trans (Host.apart_bindInstance _ _ _ _)
  have hready : Run (unused.withSwitches 0).calls .empty _ :=
    .single (.other _ multiplexed nofun hmultiplexed)
  obtain ⟨way, values, hread, hproperties⟩ := exists_switched
  obtain ⟨w, w', hrun, hsettled⟩ := exists_settled hread
  obtain ⟨past, hengaged⟩ := exists_engaged hready nofun nofun rfl hrun
  obtain ⟨-, -, -, -, -, -, -, hsuccess, -⟩ := switches_reported unused 0 hengaged
  obtain ⟨values', hread', -, hcache, -⟩ := hsuccess _ _ hsettled
  rw [show (switchesSettled values).answer = _ from hproperties] at hsettled
  exact ⟨w, w', past, values', hengaged, hsettled, hread', hcache⟩

end Calls.World

end CellModem
