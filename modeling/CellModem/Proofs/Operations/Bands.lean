import CellModem.Proofs.Decoding.Places
import CellModem.Proofs.Operations.Survey

/-!
# The LTE bands are set and the UMTS bands are kept

The bands of all technologies are set together. So the modem is asked for its bands first, and those
of UMTS are sent back to it as it has reported them.
-/

namespace CellModem

/-! ## Masks in a line -/

namespace BandMasks

/-- The masks as `AT#BND=` takes them. -/
def argument (bands : BandMasks) : String := s!"0,{bands.umts},{bands.lte}"

theorem command_setBands (bands : BandMasks) :
    (Request.setBands bands).transaction.command = "AT#BND=" ++ bands.argument := by
  apply String.toList_injective
  simp [Request.setBands, Request.order, Transaction.plain, argument, toString]

/-- The GSM bands as they are set. -/
theorem first_gsm (rest : Option (List Char)) : Fields.First [' ', '0'] rest := by
  have hblank : ∀ c ∈ [' '], Text.isBlank c = true := List.forall_mem_singleton.mpr (by decide)
  have hbare : ∀ c ∈ ['0'].head?, Text.isBlank c = false ∧ c ≠ '"' := by
    intro c hc
    obtain rfl := Option.some.inj hc
    decide
  exact .plain hblank hbare (by decide) rest

theorem run_skip_gsm (rest : Option (List Char)) :
    FieldReader.skip.run ⟨some ([' ', '0'] ++ Fields.tail rest), 0⟩ = (.ok (), ⟨rest, 1⟩) := by
  rw [FieldReader.run_skip, Fields.skip, Fields.take]
  dsimp only
  rw [(Fields.splitField_first (first_gsm rest)).1 (by decide)]

/-- The text that sets the masks reads as these masks. -/
theorem ofResponse_argument (bands : BandMasks) :
    ofResponse (.success ["#BND: " ++ bands.argument]) = .ok bands := by
  have hline : "#BND: " ++ bands.argument = "#BND:" ++ String.ofList ([' ', '0'] ++ Fields.tail
      (some ((toString bands.umts).toList ++ Fields.tail
        (some ((toString bands.lte).toList ++ Fields.tail Option.none))))) := by
    apply String.toList_injective
    simp [argument, Fields.tail, toString]
  have hnone : ∀ line ∈ ([] : List String), Text.startsWith line "#BND:" = false :=
    fun _ h => absurd h List.not_mem_nil
  have hlines : (Response.success ["#BND: " ++ bands.argument]).lines = [] ++ _ :: [] :=
    congrArg (· :: []) hline
  rw [ofResponse, Response.decodeSingle_first hlines hnone, run_bind, Fields.ofText,
    String.toList_ofList, run_skip_gsm]
  dsimp only
  rw [run_bind, FieldReader.run_uint32_spelled (Fields.spells_uint32 bands.umts),
    FieldReader.fitUInt32_toNat]
  dsimp only
  rw [run_bind, FieldReader.run_uint32_spelled (Fields.spells_uint32 bands.lte),
    FieldReader.fitUInt32_toNat]
  rfl

open Fields

variable {r : Response} {text : String}

theorem ofResponse_eq (h : r.Carries "#BND:" text) : ofResponse r = do
    (place text 0).skip.1
    let umts ← (FieldReader.uint32.run (place text 1)).1
    let lte ← (FieldReader.uint32.run (place text 2)).1
    return ⟨umts, lte⟩ := by
  rw [ofResponse, h.decodeSingle, FieldReader.run_bind_place 1 (FieldReader.run_skip_snd _)]
  refine bind_congr fun _ => ?_
  rw [FieldReader.run_bind_place 1 (FieldReader.run_uint32_snd _)]
  refine bind_congr fun umts => ?_
  rw [FieldReader.run_bind_place 1 (FieldReader.run_uint32_snd _)]
  rfl

/-- What comes of a mask that is out of range: it is named, unless it is too large to be read. -/
def refusal (number : Nat) (n : Int) : DecodeError :=
  if Number.IsInt64 n then .outOfRange n 0xFFFFFFFF else .fieldMismatch number .integer

theorem uint32_place_outside {number : Nat} {n : Int} (reached : Reached text number)
    (told : Tells text number n) (outside : n < 0 ∨ 0xFFFFFFFF < n) :
    (FieldReader.uint32.run (place text number)).1 = .error (refusal number n) := by
  rw [uint32_place_told reached told, refusal, FieldReader.fitUInt32_outside outside]
  split <;> rfl

theorem uint32_place_inside {number : Nat} {mask : UInt32} (reached : Reached text number)
    (told : Tells text number mask.toNat) :
    (FieldReader.uint32.run (place text number)).1 = .ok mask :=
  uint32_place_iff.mpr ⟨reached, holds_uint32_iff.mpr told⟩

section

variable (h : r.Carries "#BND:" text) (reached : Reached text 1)
include h reached

theorem ofResponse_reached : ofResponse r = do
    let umts ← (FieldReader.uint32.run (place text 1)).1
    let lte ← (FieldReader.uint32.run (place text 2)).1
    return ⟨umts, lte⟩ := by
  have hskip : (place text 0).skip.1 = .ok () :=
    skip_place_iff.mpr ⟨reached.mono (Nat.zero_le 1), List.length_pos_of_ne_nil (cut_ne_nil _ _)⟩
  rw [ofResponse_eq h, hskip]
  rfl

theorem ofResponse_umts {n : Int} (told : Tells text 1 n) (outside : n < 0 ∨ 0xFFFFFFFF < n) :
    ofResponse r = .error (refusal 1 n) := by
  rw [ofResponse_reached h reached, uint32_place_outside reached told outside]
  rfl

theorem ofResponse_lte {umts : UInt32} (first : Tells text 1 umts.toNat) {n : Int}
    (told : Tells text 2 n) (outside : n < 0 ∨ 0xFFFFFFFF < n) :
    ofResponse r = .error (refusal 2 n) := by
  rw [ofResponse_reached h reached, uint32_place_inside reached first,
    uint32_place_outside (reached.next first) told outside]
  rfl

theorem ofResponse_iff (bands : BandMasks) : ofResponse r = .ok bands ↔
    Tells text 1 bands.umts.toNat ∧ Tells text 2 bands.lte.toNat := by
  rw [ofResponse_reached h reached]
  constructor
  · intro hread
    obtain ⟨umts, humts, hread⟩ := bind_ok_iff.mp hread
    obtain ⟨lte, hlte, hread⟩ := bind_ok_iff.mp hread
    obtain rfl : ⟨umts, lte⟩ = bands := Except.ok.inj hread
    exact ⟨holds_uint32_iff.mp (uint32_place_iff.mp humts).2,
      holds_uint32_iff.mp (uint32_place_iff.mp hlte).2⟩
  · rintro ⟨humts, hlte⟩
    rw [uint32_place_inside reached humts, uint32_place_inside (reached.next humts) hlte]
    rfl

end

end BandMasks

/-! ## What comes of setting the bands -/

/-- What comes of asking for the bands. -/
def bandsRead : Option Response → Except Error BandMasks
  | none => .error .rejected
  | some response =>
    if response.ok then (BandMasks.ofResponse response).mapError .decode
    else .error (.protocol response.status)

theorem bandsRead_eq : bandsRead = answerRead BandMasks.ofResponse := by
  funext a
  cases a <;> rfl

theorem bandsRead_error {r : Response} (acknowledged : r.ok = true) {e : DecodeError}
    (h : BandMasks.ofResponse r = .error e) : bandsRead (some r) = .error (.decode e) := by
  rw [bandsRead_eq]
  exact answerRead_error acknowledged h

theorem bandsRead_ok {a : Option Response} {bands : BandMasks} : bandsRead a = .ok bands ↔
    ∃ response, a = some response ∧ response.ok = true ∧
      BandMasks.ofResponse response = .ok bands := by
  rw [bandsRead_eq]
  exact answerRead_ok_iff

theorem bandsRead_ok_iff {r : Response} (acknowledged : r.ok = true) {bands : BandMasks} :
    bandsRead (some r) = .ok bands ↔ BandMasks.ofResponse r = .ok bands := by
  simp [bandsRead_ok, acknowledged]

/-- The commands with their answers, and the masks that the modem has taken then. -/
inductive BandsSet (lte : UInt32) : List Exchange → Except Error BandMasks → Prop where
  | unread {a : Option Response} {e : Error} (failed : bandsRead a = .error e) :
    BandsSet lte [("AT#BND?", a)] (.error e)
  | refused {a b : Option Response} {reported : BandMasks} {e : Error}
    (read : bandsRead a = .ok reported) (failed : acknowledgement b = .error e) :
    BandsSet lte [("AT#BND?", a), ("AT#BND=" ++ BandMasks.argument ⟨reported.umts, lte⟩, b)]
      (.error e)
  | set {a b : Option Response} {reported : BandMasks} (read : bandsRead a = .ok reported)
    (acknowledged : acknowledgement b = .ok ()) :
    BandsSet lte [("AT#BND?", a), ("AT#BND=" ++ BandMasks.argument ⟨reported.umts, lte⟩, b)]
      (.ok ⟨reported.umts, lte⟩)

variable {lte : UInt32}

/-- What two answers come to. -/
def banded (lte : UInt32) (a b : Option Response) : Except Error BandMasks := do
  let reported ← bandsRead a
  acknowledgement b
  return ⟨reported.umts, lte⟩

theorem BandsSet.eq {way : List Exchange} {result : Except Error BandMasks}
    (h : BandsSet lte way result) :
    result = banded lte (way[0]?.bind Prod.snd) (way[1]?.bind Prod.snd) := by
  unfold banded
  cases h with
  | unread failed =>
    dsimp only [List.getElem?_cons_zero, Option.bind_some]
    rw [failed]
    rfl
  | refused read failed =>
    dsimp only [List.getElem?_cons_zero, List.getElem?_cons_succ, Option.bind_some]
    rw [read, failed]
    rfl
  | set read acknowledged =>
    dsimp only [List.getElem?_cons_zero, List.getElem?_cons_succ, Option.bind_some]
    rw [read, acknowledged]
    rfl

/-- The modem has reported these bands. -/
def BandsReported (past : List Exchange) (bands : BandMasks) : Prop :=
  ∃ response, past[0]? = some ("AT#BND?", some response) ∧ response.ok = true ∧
    BandMasks.ofResponse response = .ok bands

/-- The UMTS mask is sent back as it was reported. -/
def SentBack (lte : UInt32) (x : Exchange) (command : String) : Prop :=
  ∃ reported, x.1 = "AT#BND?" ∧ bandsRead x.2 = .ok reported ∧
    command = "AT#BND=" ++ BandMasks.argument ⟨reported.umts, lte⟩

theorem SentBack.reported {past : List Exchange} {x : Exchange} {command : String}
    (h : SentBack lte x command) (first : past[0]? = some x) :
    ∃ reported, BandsReported past reported ∧
      command = "AT#BND=" ++ BandMasks.argument ⟨reported.umts, lte⟩ := by
  obtain ⟨asked, a⟩ := x
  obtain ⟨reported, rfl, hread, hcommand⟩ := h
  obtain ⟨response, rfl, hok, hbands⟩ := bandsRead_ok.mp hread
  exact ⟨reported, ⟨response, first, hok, hbands⟩, hcommand⟩

theorem BandsReported.sentBack {past : List Exchange} {reported : BandMasks}
    (h : BandsReported past reported) (lte : UInt32) : ∃ x, past[0]? = some x ∧
      SentBack lte x ("AT#BND=" ++ BandMasks.argument ⟨reported.umts, lte⟩) := by
  obtain ⟨response, hfirst, hok, hbands⟩ := h
  exact ⟨_, hfirst, reported, rfl, (bandsRead_ok_iff hok).mpr hbands, rfl⟩

/-- There is a second command when the modem has reported its bands. -/
theorem BandsSet.second {way : List Exchange} {result : Except Error BandMasks}
    (h : BandsSet lte way result) (command : String) :
    (way.map Prod.fst)[1]? = some command ↔ ∃ x, way[0]? = some x ∧ SentBack lte x command := by
  cases h with
  | unread failed =>
    constructor
    · exact nofun
    · rintro ⟨x, hx, reported, -, hread, -⟩
      obtain rfl := Option.some.inj hx
      cases failed.symm.trans hread
  | refused read failed | set read acknowledged =>
    constructor
    · intro hcommand
      exact ⟨_, rfl, _, rfl, read, (Option.some.inj hcommand).symm⟩
    · rintro ⟨x, hx, reported, -, hread, rfl⟩
      obtain rfl := Option.some.inj hx
      obtain rfl := Except.ok.inj (read.symm.trans hread)
      rfl

/-- What the instance makes of a success. -/
def bandsSettled (lte : UInt32) (bands : BandMasks) : Settled .dataNetwork Unit :=
  .changed (fun (s : NetworkSettings) => { s with bands }) "LTEBandSelection" (.uint lte)

section

variable {υ : Type} {allow : Allowance → Prop}

def settingBands (lte : UInt32) : Step (Host υ) (Settled .dataNetwork Unit) := do
  let current ← Step.transaction Request.queryBands.transaction
  let bands : BandMasks := { umts := current.umts, lte }
  Step.transaction (← Host.asking (Driver.full.ask (.setBands bands)))
  return bandsSettled lte bands

theorem run_plan_setLteBands (lte : UInt32) (vendor : Vendor) (a : Allowance) :
    ((Operation.setLteBands lte : Operation υ .dataNetwork Unit).plan vendor .full).run a
      = (.ok (settingBands lte), a) := rfl

/-- The masks that the modem reported are sent back to it with the LTE mask asked for. -/
def sendingBack (lte : UInt32)
    (reply : Except Error (Settled .dataNetwork Unit) → Routine (Host υ)) :
    Except Error BandMasks → Routine (Host υ)
  | .error e => reply (.error e)
  | .ok reported => .asking id fun _ =>
    .send ("AT#BND=" ++ BandMasks.argument ⟨reported.umts, lte⟩) [] fun b =>
      reply ((acknowledgement b).map fun _ => bandsSettled lte ⟨reported.umts, lte⟩)

theorem sendingBack_ok (lte : UInt32)
    (reply : Except Error (Settled .dataNetwork Unit) → Routine (Host υ))
    {read : Except Error BandMasks} {reported : BandMasks} (h : read = .ok reported) :
    sendingBack lte reply read = .asking id fun _ =>
      .send ("AT#BND=" ++ BandMasks.argument ⟨reported.umts, lte⟩) [] fun b =>
        reply ((acknowledgement b).map fun _ => bandsSettled lte ⟨reported.umts, lte⟩) := by
  rw [h, sendingBack]

theorem routine_settingBands (lte : UInt32)
    (reply : Except Error (Settled .dataNetwork Unit) → Routine (Host υ)) :
    (settingBands lte).routine reply
      = .send "AT#BND?" ["#BND:"] fun a => sendingBack lte reply (bandsRead a) := by
  have hread : Request.queryBands.transaction.answered = bandsRead :=
    (Transaction.answered_eq _).trans bandsRead_eq.symm
  have hacknowledged (bands : BandMasks) :
      (Request.setBands bands).transaction.answered = acknowledgement :=
    (Transaction.answered_eq _).trans acknowledgement_eq.symm
  unfold settingBands
  rw [Step.routine_transaction_bind]
  refine congrArg (Routine.send _ _) (funext fun a => ?_)
  rw [hread]
  cases bandsRead a with
  | error e => rfl
  | ok reported =>
    rw [sendingBack, ← BandMasks.command_setBands]
    dsimp only
    rw [Step.routine_bind, Host.routine_asking]
    refine congrArg (Routine.asking id) (funext fun _ => ?_)
    refine (Step.routine_transaction_bind _ _ _).trans ?_
    refine congrArg (Routine.send _ _) (funext fun b => ?_)
    rw [hacknowledged]
    cases acknowledgement b <;> rfl

theorem leads_setLteBands (lte : UInt32) (vendor : Vendor) :
    (Host.carryOut (Operation.setLteBands lte) vendor .full : Step (Host υ) _).Leads allow
      fun way result => ∃ set, BandsSet lte way set ∧ result = set.map (bandsSettled lte) := by
  refine Host.leads_carryOut (run_plan_setLteBands lte vendor) nofun fun step hstep reply => ?_
  obtain rfl := Except.ok.inj hstep
  rw [routine_settingBands]
  refine .send _ _ _ fun a => ?_
  cases hread : bandsRead a with
  | error e => exact .reply _ ⟨_, .unread hread, rfl⟩
  | ok reported =>
    unfold sendingBack
    refine .ask _ _ (fun _ => id) fun _ _ => .send _ _ _ fun b => .reply _ ?_
    cases hacknowledged : acknowledgement b with
    | error e => exact ⟨_, .refused hread hacknowledged, rfl⟩
    | ok _ => exact ⟨_, .set hread hacknowledged, rfl⟩

end

/-! ## Setting the bands among other calls -/

variable {ι : Type} {α : ι → Type}

/-- The calls with one more, which sets the LTE bands. -/
def Services.withBands (services : Services α) (number : Nat) (lte : UInt32) :
    Services fun call : Option ι => call.elim Unit α :=
  services.adding number (.setLteBands lte)

theorem goes_setLteBands (services : Services α) (number : Nat) (lte : UInt32) (vendor : Vendor) :
    Calls.Goes (services.withBands number lte).calls none
      (fun way result => ∃ set, BandsSet lte way set ∧ result = set.map (bandsSettled lte)) []
      ((services.withBands number lte).calls.working none (vendor, .full)) :=
  leads_setLteBands lte vendor _

theorem working_bands (services : Services α) (number : Nat) (lte : UInt32) (vendor : Vendor) :
    (services.withBands number lte).calls.working none (vendor, .full) = .asking id fun _ =>
      .send "AT#BND?" ["#BND:"] fun a =>
        sendingBack lte ((services.withBands number lte).calls.settling none) (bandsRead a) := by
  rw [Calls.working_eq]
  exact congrArg (Routine.asking id) (funext fun _ => routine_settingBands lte _)

namespace Calls.World

variable [DecidableEq ι] (services : Services α) (number : Nat) (lte : UInt32)
  {w₀ w : World fun call : Option ι => call.elim Unit α} {vendor : Vendor}
  {host : Logged fun call : Option ι => call.elim Unit α} {past : List Exchange}

/-- Setting the LTE bands is followed from where it was given its instance. The modem is asked for
its bands; the second command is sent when it has reported them, and only then, and has its UMTS
mask, whatever that is, and the LTE mask asked for. The call is answered at most once, with what both
answers come to, and it is answered unless it is still at work, or the channel has its completion or
has dropped it. When both were acknowledged, and only then, the instance remembers these masks and
the LTE mask is announced if the instance is shown, and the caller is told next.

Where the GSM bands do not overrun, the masks are the two fields behind them. A mask that is out of
range fails the first answer, unless the mask before it has done so; it is named if it is a number of
64 bits. -/
theorem bands_set
    (run : Run (services.withBands number lte).calls .empty w₀) (fresh : none ∉ w₀.started)
    (opened : w₀.Open)
    (claims : (services.withBands number lte).calls.claim none w₀.host
      = (.ok (vendor, .full), host))
    (onward : Onward (services.withBands number lte).calls none
      (w₀.given (services.withBands number lte).calls none (vendor, .full) host) w past) :
    Partway (BandsSet lte) past (belonging none w.commands) ∧
    (∀ command, (belonging none w.commands)[1]? = some command → ∃ reported,
      BandsReported past reported ∧
      command = "AT#BND=" ++ BandMasks.argument ⟨reported.umts, lte⟩) ∧
    ((∀ frame ∈ w.stack, frame.1 ≠ none) → ∀ reported, BandsReported past reported →
      (belonging none w.commands)[1]?
        = some ("AT#BND=" ++ BandMasks.argument ⟨reported.umts, lte⟩)) ∧
    w.answers none ≤ 1 ∧
    (∀ result : Except Error Unit, (⟨none, result⟩ : Reply _) ∈ w.host.observed →
      belonging none w.commands = past.map Prod.fst ∧ (∃ set, BandsSet lte past set) ∧
      ∀ set, BandsSet lte past set → result = set.map fun _ => ()) ∧
    ((∀ frame ∈ w.stack, frame.1 ≠ none) → (∀ completion ∈ w.held, completion.1 ≠ none) →
      none ∉ w.dropped →
      ∃ result : Except Error Unit, (⟨none, result⟩ : Reply _) ∈ w.host.observed) ∧
    (∀ w', Succeeds (services.withBands number lte).calls none w () w' →
      ∃ (bands : BandMasks) (settings : NetworkSettings), BandsSet lte past (.ok bands) ∧
        w.host.cache? .dataNetwork number = some settings ∧
        w'.host.cache? .dataNetwork number = some { settings with bands } ∧
        (∀ f n, ¬ (f = .dataNetwork ∧ n = number) → w'.host.cache? f n = w.host.cache? f n) ∧
        w'.host.events = w.host.events
          ++ w.host.announcement .dataNetwork number (some ("LTEBandSelection", .uint lte)) ∧
        ∀ w'', Step (services.withBands number lte).calls w' w'' →
          w''.host = w'.host.note ⟨none, .ok ()⟩) ∧
    ((⟨none, .ok ()⟩ : Reply _) ∈ w.host.observed → ∃ w₁ w₂,
      Onward (services.withBands number lte).calls none
        (w₀.given (services.withBands number lte).calls none (vendor, .full) host) w₁ past ∧
      Succeeds (services.withBands number lte).calls none w₁ () w₂ ∧
      Run (services.withBands number lte).calls w₂ w) ∧
    (∀ w', Step (services.withBands number lte).calls w w' →
      (∀ i answer, ¬ Succeeds (services.withBands number lte).calls i w answer w') →
      w.Elsewhere w' ∨ w.host.Silent w'.host) ∧
    (∀ bands, BandMasks.ofResponse (.success ["#BND: " ++ bands.argument]) = .ok bands) ∧
    ∀ (r : Response) text, r.ok = true → r.Carries "#BND:" text → Fields.Reached text 1 →
      (∀ bands, bandsRead (some r) = .ok bands ↔
        Fields.Tells text 1 bands.umts.toNat ∧ Fields.Tells text 2 bands.lte.toNat) ∧
      (∀ n, Fields.Tells text 1 n → n < 0 ∨ 0xFFFFFFFF < n →
        bandsRead (some r) = .error (.decode (BandMasks.refusal 1 n))) ∧
      ∀ (umts : UInt32) n, Fields.Tells text 1 umts.toNat → Fields.Tells text 2 n →
        n < 0 ∨ 0xFFFFFFFF < n →
        bandsRead (some r) = .error (.decode (BandMasks.refusal 2 n)) := by
  obtain ⟨hgiven, hfollowed⟩ := followed_given run fresh opened claims
    (goes_setLteBands services number lte vendor)
  have hthere := onward.followed hgiven hfollowed
  have hrun := (run.tail (.grant w₀ none (vendor, .full) host fresh opened claims)).trans onward.run
  obtain ⟨hsound, hbooked, -⟩ := run_keeps hrun
  have hturns : Turns (fun way result => ∃ set, BandsSet lte way set ∧
      result = set.map (bandsSettled lte)) (SentBack lte) :=
    fun way result ⟨set, hset, _⟩ => hset.second
  have hpartway := hthere.partway hsound
  obtain ⟨way, _, ⟨set, hset, -⟩, hpast, hsent⟩ := hpartway.begins
  refine ⟨⟨⟨way, set, hset, hpast, hsent⟩, hpartway.heard, hpartway.waits⟩,
    fun command hcommand => ?_, fun off reported hreported => ?_, hsound.answers_le none,
    fun result hresult => ?_, hsound.answered hthere.claimed, fun w' hsucceeds => ?_, ?_, fun w' => silent_step,
    BandMasks.ofResponse_argument, fun r text hok hcarries hreached => ⟨fun bands => ?_, ?_, ?_⟩⟩
  · obtain ⟨x, hfirst, hback⟩ := hpartway.asked hturns hcommand
    exact hback.reported hfirst
  · obtain ⟨x, hfirst, hback⟩ := hreported.sentBack lte
    exact hthere.asked hturns hsound off hfirst hback
  · obtain ⟨hsent, _, ⟨set, hset, rfl⟩, hresult⟩ := hthere.told result hresult
    refine ⟨hsent, ⟨set, hset⟩, fun set' hset' => ?_⟩
    rw [hset'.eq, ← hset.eq, hresult]
    cases set <;> rfl
  · obtain ⟨settled, ⟨set, hset, hsettled⟩, -, hhost⟩ := hthere.succeeds hsucceeds
    cases set with
    | error e => cases hsettled
    | ok bands =>
      obtain rfl : settled = bandsSettled lte bands := Except.ok.inj hsettled
      obtain ⟨heard, hrecorded⟩ := exists_recorded hrun
      obtain ⟨_, _, houtcome, -⟩ := hrecorded.traced.outcome hsound hbooked hsucceeds
      obtain ⟨settings, hsettings, -⟩ := houtcome.stored
      refine ⟨bands, settings, hset, hsettings, ?_, houtcome.others, houtcome.announced,
        fun w'' => hsucceeds.told⟩
      rw [hhost]
      refine (Host.cache?_settle_ok _ _ _).trans ?_
      exact congrArg (Option.map _) hsettings
  · exact onward.succeeded hgiven
  · rw [bandsRead_ok_iff hok, BandMasks.ofResponse_iff hcarries hreached]
  · intro n told outside
    exact bandsRead_error hok (BandMasks.ofResponse_umts hcarries hreached told outside)
  · intro umts n first told outside
    exact bandsRead_error hok (BandMasks.ofResponse_lte hcarries hreached first told outside)

/-! ### Every UMTS band is kept -/

/-- A host with an instance for the network settings. -/
def networked : Logged fun call : Option Empty => call.elim Unit Empty.elim :=
  ((((Host.initial []).addInstance .dataNetwork .default).2.bindInstance .dataNetwork 0
    ⟨0, "telitmodem", .full⟩).showInstance .dataNetwork 0)

theorem ready_networked :
    Run (unused.withBands 0 4).calls .empty { empty with host := networked } := by
  have hnetworked : (Host.initial [] : Logged _).Apart networked :=
    ((Host.apart_addInstance _ _ _).trans (Host.apart_bindInstance _ _ _ _)).trans
      (Host.apart_showInstance _ _ _)
  exact .single (.other _ networked nofun hnetworked)

/-- The modem uses all UMTS bands, and has acknowledged them with the LTE bands asked for. -/
theorem exists_banded : ∃ w w', Run (unused.withBands 0 4).calls
      (({ empty with host := networked } : World _).given (unused.withBands 0 4).calls none
        (.default, .full) ((unused.withBands 0 4).calls.claim none networked).2) w ∧
    belonging none w.commands = ["AT#BND?", "AT#BND=0,4294967295,4"] ∧
    Succeeds (unused.withBands 0 4).calls none w () w' ∧ w.host.events = [] ∧
    w.host.announcement .dataNetwork 0 (some ("LTEBandSelection", .uint 4))
      = [.propertyChanged Facility.dataNetwork.name "LTEBandSelection" (.uint 4)] ∧
    w'.host.cache? .dataNetwork 0 = some (⟨false, false, ⟨0xFFFFFFFF, 4⟩⟩ : NetworkSettings) := by
  have hread : bandsRead (some (.success ["#BND: 0,4294967295,1"])) = .ok ⟨0xFFFFFFFF, 1⟩ := by
    decide
  have hworking := working_bands unused 0 4 .default
  have hasked : Run (unused.withBands 0 4).calls _ _ := .single
    (.ask (({ empty with host := networked } : World _).given (unused.withBands 0 4).calls
      none (.default, .full) ((unused.withBands 0 4).calls.claim none networked).2)
      none [] _ _ (congrArg (fun r => [(none, r)]) hworking))
  have hreported := hasked.tail
    (.answer _ none [] _ _ _ (some (.success ["#BND: 0,4294967295,1"])) rfl)
  have hplanned := hreported.tail
    (.ask _ none [] _ _ (congrArg (fun r => [(none, r)]) (sendingBack_ok 4 _ hread)))
  have hbanded := hplanned.tail (.answer _ none [] _ _ _ (some (.success [])) rfl)
  exact ⟨_, _, hbanded, rfl, .settle [] (bandsSettled 4 ⟨0xFFFFFFFF, 4⟩) rfl, rfl, rfl, rfl⟩

theorem bands_set_keeping : ∃ w w' past, Run (unused.withBands 0 4).calls .empty w ∧
    Succeeds (unused.withBands 0 4).calls none w () w' ∧
    belonging none w.commands = ["AT#BND?", "AT#BND=0,4294967295,4"] ∧
    BandsSet 4 past (.ok ⟨0xFFFFFFFF, 4⟩) ∧
    w'.host.events = [.propertyChanged Facility.dataNetwork.name "LTEBandSelection" (.uint 4)] ∧
    bandsRead (some (.success ["#BND: 0,4294967296,1"]))
      = .error (.decode (.outOfRange 0x100000000 0xFFFFFFFF)) := by
  have hready := ready_networked
  obtain ⟨w, w', hrun, hsent, hsucceeds, hevents, hannouncement, hcache⟩ := exists_banded
  obtain ⟨past, honward⟩ := exists_onward (i := none) hrun
  obtain ⟨-, -, -, -, -, -, hsuccess, -, -, -, hranges⟩ :=
    bands_set unused 0 4 hready nofun nofun rfl honward
  obtain ⟨bands, settings, hset, -, hstored, -, hannounced, -⟩ := hsuccess w' hsucceeds
  obtain ⟨-, -, rfl⟩ := NetworkSettings.mk.inj (Option.some.inj (hstored.symm.trans hcache))
  rw [hevents, hannouncement] at hannounced
  have hcarries : (Response.success ["#BND: 0,4294967296,1"]).Carries "#BND:" " 0,4294967296,1" :=
    ⟨[], [], rfl, nofun⟩
  have htold : Fields.Tells " 0,4294967296,1" 1 0x100000000 :=
    Fields.tells_of_field "4294967296".toList (by decide) (by decide)
  exact ⟨w, w', past, (hready.tail (.grant _ none _ _ nofun nofun rfl)).trans hrun, hsucceeds,
    hsent, hset, hannounced, (hranges _ _ rfl hcarries (by decide)).2.1 _ htold (by decide)⟩

theorem exists_unread {r : Response} {e : Error} (h : bandsRead (some r) = .error e) :
    ∃ w, Run (unused.withBands 0 4).calls .empty w ∧ belonging none w.commands = ["AT#BND?"] ∧
      w.host.observed = [⟨none, .error e⟩] :=
  exists_failed ready_networked rfl (working_bands unused 0 4 .default) (by rw [h]; rfl)

/-- A mask that is out of range need not be named. It may be too large for a number of 64 bits; it
may stand behind a mask that is no number; and it may stand behind a field that overruns. -/
theorem masks_unnamed :
    (Fields.Tells " 0,99999999999999999999,1" 1 99999999999999999999 ∧
      ∃ w, Run (unused.withBands 0 4).calls .empty w ∧ belonging none w.commands = ["AT#BND?"] ∧
        w.host.observed = [⟨none, .error (.decode (.fieldMismatch 1 .integer))⟩]) ∧
    (Fields.Tells " 0,x,4294967296" 2 0x100000000 ∧
      ∃ w, Run (unused.withBands 0 4).calls .empty w ∧ belonging none w.commands = ["AT#BND?"] ∧
        w.host.observed = [⟨none, .error (.decode (.fieldMismatch 1 .integer))⟩]) ∧
    Fields.Tells " \"0\"x,4294967296,1" 1 0x100000000 ∧
      ∃ w, Run (unused.withBands 0 4).calls .empty w ∧ belonging none w.commands = ["AT#BND?"] ∧
        w.host.observed = [⟨none, .error (.decode (.fieldMissing 1))⟩] := by
  have hhuge : bandsRead (some (.success ["#BND: 0,99999999999999999999,1"]))
      = .error (.decode (.fieldMismatch 1 .integer)) := by decide
  have hnone : bandsRead (some (.success ["#BND: 0,x,4294967296"]))
      = .error (.decode (.fieldMismatch 1 .integer)) := by decide
  have hbehind : bandsRead (some (.success ["#BND: \"0\"x,4294967296,1"]))
      = .error (.decode (.fieldMissing 1)) := by decide
  exact ⟨⟨Fields.tells_of_field "99999999999999999999".toList (by decide) (by decide),
    exists_unread hhuge⟩, ⟨Fields.tells_of_field "4294967296".toList (by decide) (by decide),
    exists_unread hnone⟩, Fields.tells_of_field "4294967296".toList (by decide) (by decide),
    exists_unread hbehind⟩

end Calls.World

end CellModem
