import CellModem.Proofs.Operations.Following

/-!
# A survey leaves the modem on the network

A survey takes the modem off the network, and puts it back whatever comes of the survey.
-/

namespace CellModem

/-! ## What comes of a survey -/

/-- What comes of a command of which only the acknowledgement matters. -/
def acknowledgement : Option Response → Except Error Unit
  | none => .error .rejected
  | some response => if response.ok then .ok () else .error (.protocol response.status)

/-- What comes of the scan. -/
def cellsFound : Option Response → Except Error (List String)
  | none => .error .rejected
  | some response =>
    if response.ok then (decodeSurvey response).mapError .decode
    else .error (.protocol response.status)

/-- The commands of a survey with their answers, and what the survey comes to. -/
inductive Surveyed (range : Option (UInt32 × UInt32)) :
    List Exchange → Except Error (List String) → Prop where
  | stays {a : Option Response} {e : Error} (refused : acknowledgement a = .error e) :
    Surveyed range [("AT+COPS=2", a)] (.error e)
  | unprepared {a b d : Option Response} {e : Error} (left : acknowledgement a = .ok ())
    (refused : acknowledgement b = .error e) :
    Surveyed range [("AT+COPS=2", a), ("AT#ATDELAY=50", b), ("AT+COPS=0", d)] (.error e)
  | unscanned {a b c d : Option Response} {e : Error} (left : acknowledgement a = .ok ())
    (prepared : acknowledgement b = .ok ()) (failed : cellsFound c = .error e) :
    Surveyed range [("AT+COPS=2", a), ("AT#ATDELAY=50", b), (surveyCommand range, c),
      ("AT+COPS=0", d)] (.error e)
  | stranded {a b c d : Option Response} {cells : List String} {e : Error}
    (left : acknowledgement a = .ok ()) (prepared : acknowledgement b = .ok ())
    (scanned : cellsFound c = .ok cells) (refused : acknowledgement d = .error e) :
    Surveyed range [("AT+COPS=2", a), ("AT#ATDELAY=50", b), (surveyCommand range, c),
      ("AT+COPS=0", d)] (.error e)
  | surveyed {a b c d : Option Response} {cells : List String}
    (left : acknowledgement a = .ok ()) (prepared : acknowledgement b = .ok ())
    (scanned : cellsFound c = .ok cells) (back : acknowledgement d = .ok ()) :
    Surveyed range [("AT+COPS=2", a), ("AT#ATDELAY=50", b), (surveyCommand range, c),
      ("AT+COPS=0", d)] (.ok cells)

variable {range : Option (UInt32 × UInt32)}

theorem acknowledgement_eq : acknowledgement = answerRead fun _ => .ok () := by
  funext a
  cases a <;> rfl

theorem acknowledged_of_ok {a : Option Response} (h : acknowledgement a = .ok ()) :
    ∃ response, a = some response ∧ response.ok = true := by
  rw [acknowledgement_eq] at h
  obtain ⟨response, ha, hok, -⟩ := answerRead_ok_iff.mp h
  exact ⟨response, ha, hok⟩

/-! ## The scan -/

theorem surveyCommand_lead (range : Option (UInt32 × UInt32)) :
    ∃ rest, (surveyCommand range).toList = "AT#CSURV".toList ++ rest := by
  unfold surveyCommand
  split
  · next start stop =>
    split
    · refine ⟨"=".toList ++ (toString start ++ "," ++ toString stop).toList, ?_⟩
      change ("AT#CSURV=" ++ toString start ++ "," ++ toString stop).toList = _
      simp only [String.toList_append, List.append_assoc]
      rfl
    · exact ⟨[], rfl⟩
  · exact ⟨[], rfl⟩

theorem surveyCommand_ne_leave : surveyCommand range ≠ "AT+COPS=2" := by
  obtain ⟨rest, hlead⟩ := surveyCommand_lead range
  intro hsame
  have hthird : (surveyCommand range).toList[2]? = some '#' := by
    rw [hlead]
    rfl
  rw [hsame] at hthird
  exact absurd hthird (by decide)

/-- Where there is a scan among the commands, the modem has left the network before. -/
theorem Surveyed.left {way past : List Exchange} {result : Except Error (List String)}
    {sent : List String} (h : Surveyed range way result) (heard : past <+: way)
    (begins : sent <+: way.map Prod.fst) (waits : sent.length ≤ past.length + 1)
    (scans : surveyCommand range ∈ sent) :
    ∃ response, ("AT+COPS=2", some response) ∈ past ∧ response.ok = true := by
  obtain ⟨a, rest, rfl, hack⟩ : ∃ a rest, way = ("AT+COPS=2", a) :: rest ∧
      (surveyCommand range ∈ rest.map Prod.fst → acknowledgement a = .ok ()) := by
    cases h with
    | stays refused => exact ⟨_, _, rfl, nofun⟩
    | unprepared left => exact ⟨_, _, rfl, fun _ => left⟩
    | unscanned left => exact ⟨_, _, rfl, fun _ => left⟩
    | stranded left => exact ⟨_, _, rfl, fun _ => left⟩
    | surveyed left => exact ⟨_, _, rfl, fun _ => left⟩
  have hrest : surveyCommand range ∈ rest.map Prod.fst :=
    (List.mem_cons.mp (begins.mem scans)).resolve_left surveyCommand_ne_leave
  obtain ⟨response, rfl, hok⟩ := acknowledged_of_ok (hack hrest)
  refine ⟨response, ?_, hok⟩
  cases past with
  | cons x past =>
    rw [(List.cons_prefix_cons.mp heard).1]
    exact List.mem_cons_self
  | nil =>
    -- Nothing has been heard, so no more than the first command has been sent.
    cases sent with
    | nil => cases scans
    | cons command sent =>
      have hnone : sent = [] :=
        List.eq_nil_of_length_eq_zero (Nat.le_zero.mp (by simpa using waits))
      rw [(List.cons_prefix_cons.mp begins).1, hnone] at scans
      exact absurd (List.mem_singleton.mp scans) surveyCommand_ne_leave

/-! ## The ways of the operation -/

section

variable {υ : Type} {allow : Allowance → Prop}

theorem leads_order (method command : String) :
    (Step.transaction (Request.order method command).transaction : Step (Host υ) Unit).Leads allow
      fun way result => ∃ a, way = [(command, a)] ∧ acknowledgement a = result :=
  Step.leads_transaction _ fun a => ⟨a, rfl, by cases a <;> rfl⟩

/-- What a survey does while the modem is off the network. -/
def scanning (range : Option (UInt32 × UInt32)) : Step (Host υ) (List String) := do
  Step.transaction Request.prepareSurvey.transaction
  Step.transaction (Request.scan range).transaction

def surveying (range : Option (UInt32 × UInt32)) : Step (Host υ) (List String) :=
  Step.compensated (Step.transaction (Request.setRegistration .deregistered).transaction)
    (scanning range) (Step.transaction (Request.setRegistration .automatic).transaction)

theorem leads_scanning (range : Option (UInt32 × UInt32)) :
    (scanning range : Step (Host υ) _).Leads allow fun way result =>
      (∃ b e, way = [("AT#ATDELAY=50", b)] ∧ acknowledgement b = .error e ∧ result = .error e) ∨
      ∃ b c, way = [("AT#ATDELAY=50", b), (surveyCommand range, c)] ∧
        acknowledgement b = .ok () ∧ cellsFound c = result := by
  refine (leads_order "configure" "AT#ATDELAY=50").bind ?_ ?_
  · rintro _ e ⟨b, rfl, hb⟩
    exact .inl ⟨b, e, rfl, hb, rfl⟩
  · rintro _ _ ⟨b, rfl, hb⟩
    exact Step.leads_transaction _ fun c => .inr ⟨b, c, rfl, hb, by cases c <;> rfl⟩

theorem leads_surveying (range : Option (UInt32 × UInt32)) :
    (surveying range : Step (Host υ) _).Leads allow (Surveyed range) := by
  refine Step.Leads.compensated (leads_order _ "AT+COPS=2") (leads_scanning range)
    (leads_order _ "AT+COPS=0") ?_ ?_
  · rintro _ e ⟨a, rfl, ha⟩
    exact .stays ha
  · rintro _ _ _ result result' ⟨a, rfl, ha⟩ hacted ⟨d, rfl, hd⟩
    rcases hacted with ⟨b, e, rfl, hb, rfl⟩ | ⟨b, c, rfl, hb, hc⟩
    · exact .unprepared ha hb
    · cases result with
      | error e => exact .unscanned ha hb hc
      | ok cells =>
        cases result' with
        | error e => exact .stranded ha hb hc hd
        | ok _ => exact .surveyed ha hb hc hd

theorem plan_survey {band : String} (known : surveyBands.lookup band = some range)
    (vendor : Vendor) :
    (Operation.survey band : Operation υ .survey (List String)).plan vendor .full = pure (do
      let cells ← surveying range
      return .passing cells) := by
  have hrange : surveyRange band = .ok range := by rw [surveyRange, known]
  unfold Operation.survey
  dsimp only
  rw [hrange]
  rfl

theorem leads_survey {band : String} (known : surveyBands.lookup band = some range)
    (vendor : Vendor) :
    (Host.carryOut (Operation.survey band) vendor .full : Step (Host υ) _).Leads (fun _ => True)
      fun way result => Surveyed range way (result.map Settled.answer) := by
  have hplan (a : Allowance) : ((Operation.survey band).plan vendor .full).run a =
      (.ok (do return .passing (← surveying range) : Step (Host υ) _), a) := by
    rw [plan_survey known vendor]
    rfl
  refine Host.leads_carryOut hplan nofun fun step hstep => ?_
  obtain rfl := Except.ok.inj hstep
  refine (leads_surveying range).bind (fun _ _ h => h) fun way cells h => Step.leads_pure ?_
  rw [List.append_nil]
  exact h

end

/-! ## A survey among other calls -/

variable {ι : Type} {α : ι → Type}

/-- The calls with one more, which has a band surveyed. -/
def Services.withSurvey (services : Services α) (number : Nat) (band : String) :
    Services fun call : Option ι => call.elim (List String) α :=
  services.adding number (.survey band)

section

variable (services : Services α) (number : Nat) {band : String}
  (known : surveyBands.lookup band = some range) (vendor : Vendor)

include known

theorem working_survey :
    (services.withSurvey number band).calls.working none (vendor, .full) = .asking id fun _ =>
      (surveying range).routine fun result =>
        (services.withSurvey number band).calls.settling none (result.map Settled.passing) := by
  have hplan : ((services.withSurvey number band).calls.operation none).plan vendor .full = _ :=
    plan_survey known vendor
  rw [Calls.working_eq, hplan]
  refine congrArg (Routine.asking id) (funext fun _ => ?_)
  refine (Step.routine_bind _ _ _).trans (congrArg _ (funext fun result => ?_))
  cases result <;> rfl

theorem goes_survey : Calls.Goes (services.withSurvey number band).calls none
      (fun way result => Surveyed range way (result.map Settled.answer)) []
      ((services.withSurvey number band).calls.working none (vendor, .full)) :=
  leads_survey known vendor _

end

namespace Calls.World

/-- A survey is followed from where it was given its instance. Whatever the modem answers, sooner or
later, whatever other calls do meanwhile, and though the instance may be removed at any time, what
the survey has sent and heard is the beginning of one of the ways of a survey: it leaves the network,
and unless that fails it prepares the survey, scans if that succeeds, and goes back, each when it has
heard what came of the command before. Only a modem that has left the network is told to scan. The
survey is answered at most once, when it has heard all of its way, with what comes of the way, and it
is answered unless it is still at work, or the channel has its completion or has dropped it. -/
theorem survey_restores [DecidableEq ι] (services : Services α) (number : Nat) {band : String}
    {range : Option (UInt32 × UInt32)} (known : surveyBands.lookup band = some range)
    {w₀ w : World fun call : Option ι => call.elim (List String) α} {vendor : Vendor}
    {host : Logged fun call : Option ι => call.elim (List String) α} {past : List Exchange}
    (run : Run (services.withSurvey number band).calls .empty w₀) (fresh : none ∉ w₀.started)
    (opened : w₀.Open)
    (claims : (services.withSurvey number band).calls.claim none w₀.host
      = (.ok (vendor, .full), host))
    (onward : Onward (services.withSurvey number band).calls none
      (w₀.given (services.withSurvey number band).calls none (vendor, .full) host) w past) :
    Partway (Surveyed range) past (belonging none w.commands) ∧
    (surveyCommand range ∈ belonging none w.commands →
      ∃ response, ("AT+COPS=2", some response) ∈ past ∧ response.ok = true) ∧
    w.answers none ≤ 1 ∧
    (∀ result : Except Error (List String), (⟨none, result⟩ : Reply _) ∈ w.host.observed →
      Surveyed range past result ∧ belonging none w.commands = past.map Prod.fst) ∧
    ((∀ frame ∈ w.stack, frame.1 ≠ none) → (∀ completion ∈ w.held, completion.1 ≠ none) →
      none ∉ w.dropped →
      ∃ result : Except Error (List String), (⟨none, result⟩ : Reply _) ∈ w.host.observed) := by
  obtain ⟨hgiven, hfollowed⟩ := followed_given run fresh opened claims
    (goes_survey services number known vendor)
  have hsound := hgiven.run onward.run
  have hthere := onward.followed hgiven hfollowed
  have hpartway := hthere.partway hsound
  obtain ⟨way, result, hway, hpast, hsent⟩ := hpartway.begins
  refine ⟨⟨⟨way, _, hway, hpast, hsent⟩, hpartway.heard, hpartway.waits⟩,
    hway.left hpast hsent hpartway.waits, hsound.answers_le none, fun result hresult => ?_,
    hsound.answered hthere.claimed⟩
  obtain ⟨hsent, result', hway, hresult⟩ := hthere.told result hresult
  exact ⟨hresult ▸ hway, hsent⟩

/-! ### A survey whose instance is removed -/

/-- Nothing else is asked of the facilities. -/
def unused : Services (Empty.elim : Empty → Type) where
  facility := nofun
  number := nofun
  service := nofun

/-- A host with an instance for surveys. -/
def equipped : Logged fun call : Option Empty => call.elim (List String) Empty.elim :=
  ((((Host.initial []).addInstance .survey .default).2.bindInstance .survey 0
    ⟨0, "telitmodem", .full⟩).showInstance .survey 0)

theorem lookup_lte20 : surveyBands.lookup "LTE-20" = some (some (6150, 6449)) := by decide

/-- The instance is removed while the modem prepares the survey, and then the scan fails. -/
theorem exists_unsurveyed : ∃ w, Run (unused.withSurvey 0 "LTE-20").calls
      (({ empty with host := equipped } : World _).given (unused.withSurvey 0 "LTE-20").calls none
        (.default, .full) ((unused.withSurvey 0 "LTE-20").calls.claim none equipped).2) w ∧
    (w.host.instance? .survey 0).map (·.life.state) = some .removed ∧
    belonging none w.commands
      = ["AT+COPS=2", "AT#ATDELAY=50", "AT#CSURV=6150,6449", "AT+COPS=0"] ∧
    w.host.observed = [⟨none, .error (.protocol "ERROR")⟩] := by
  have hworking := working_survey unused 0 lookup_lte20 .default
  have hasked : Run (unused.withSurvey 0 "LTE-20").calls _ _ := .single
    (.ask (({ empty with host := equipped } : World _).given (unused.withSurvey 0 "LTE-20").calls
      none (.default, .full) ((unused.withSurvey 0 "LTE-20").calls.claim none equipped).2)
      none [] _ _ (congrArg (fun r => [(none, r)]) hworking))
  have hleft := hasked.tail (.answer _ none [] _ _ _ (some (.success [])) rfl)
  have hheld := hleft.tail (.hold _ none [] _ _ _ rfl)
  have hremoved := hheld.tail (.other _ _ nofun (Host.apart_removeInstance _ .survey 0))
  have hprepared := hremoved.tail (.deliver _ none [] [] _ (.success []) nofun rfl)
  have hscanned := hprepared.tail (.answer _ none [] _ _ _ (some (.failure "ERROR")) rfl)
  have hback := hscanned.tail (.answer _ none [] _ _ _ none rfl)
  have hsettled := hback.tail (.settle _ none [] (.error (.protocol "ERROR")) rfl)
  have hreplied := hsettled.tail (.reply _ none [] (.error (.protocol "ERROR")) rfl)
  exact ⟨_, hreplied, rfl, rfl, rfl⟩

theorem survey_restores_removed : ∃ w past,
    Run (unused.withSurvey 0 "LTE-20").calls .empty w ∧
    (w.host.instance? .survey 0).map (·.life.state) = some .removed ∧ w.answers none = 1 ∧
    past.map Prod.fst = ["AT+COPS=2", "AT#ATDELAY=50", "AT#CSURV=6150,6449", "AT+COPS=0"] ∧
    Surveyed (some (6150, 6449)) past (.error (.protocol "ERROR")) := by
  have hequipped : (Host.initial [] : Logged _).Apart equipped :=
    ((Host.apart_addInstance _ _ _).trans (Host.apart_bindInstance _ _ _ _)).trans
      (Host.apart_showInstance _ _ _)
  have hready : Run (unused.withSurvey 0 "LTE-20").calls .empty _ :=
    .single (.other _ equipped nofun hequipped)
  obtain ⟨w, hrun, hremoved, hsent, htold⟩ := exists_unsurveyed
  obtain ⟨past, honward⟩ := exists_onward (i := none) hrun
  obtain ⟨-, -, -, hreplies, -⟩ :=
    survey_restores unused 0 lookup_lte20 hready nofun nofun rfl honward
  obtain ⟨hsurveyed, hheard⟩ := hreplies (.error (.protocol "ERROR")) (htold ▸ List.mem_cons_self)
  refine ⟨w, past, (hready.tail (.grant _ none _ _ nofun nofun rfl)).trans hrun, hremoved, ?_,
    hheard ▸ hsent, hsurveyed⟩
  rw [answers, htold]
  rfl

end Calls.World

end CellModem
