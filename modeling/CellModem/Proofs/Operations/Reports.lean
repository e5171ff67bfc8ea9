import CellModem.Proofs.Decoding.Places
import CellModem.Proofs.Operations.Bands

/-!
# The report on the serving cell

The modem is asked for the technology of its serving cell first. The technology decides whether
there is a report to ask for, and how it is read.
-/

namespace CellModem

/-! ## Reports in a line -/

/-- The field with this number reads as a number whose whole part is `n`. -/
def Fields.Truncates (text : String) (number : Nat) (n : Int) : Prop :=
  ∃ x, Measures text number x ∧ x.truncate = n

theorem FieldReader.truncated_bind_ok_iff {β : Type} {text : String} {number : Nat} {result : β}
    {next : Int → FieldReader β} :
    ((truncated >>= next).run (.place text number)).1 = .ok result ↔
      ∃ n, (Fields.Reached text number ∧ Fields.Truncates text number n) ∧
        ((next n).run (.place text (number + 1))).1 = .ok result := by
  unfold truncated Fields.Truncates
  rw [bind_assoc, float_bind_ok_iff]
  constructor
  · rintro ⟨x, ⟨hreached, hx⟩, h⟩
    exact ⟨_, ⟨hreached, x, hx, rfl⟩, h⟩
  · rintro ⟨_, ⟨hreached, x, hx, rfl⟩, h⟩
    exact ⟨x, ⟨hreached, hx⟩, h⟩

/-- The fields of the text are those of the report. -/
structure UmtsReport.Told (report : UmtsReport) (text : String) : Prop where
  uarfcn : Fields.Holds text 1 report.uarfcn
  ecio : Fields.Measures text 3 report.ecio
  rscp : Fields.Truncates text 4 report.rscp
  rssi : Fields.Truncates text 5 report.rssi
  band : report.band = umtsBand report.uarfcn

structure LteReport.Told (report : LteReport) (text : String) : Prop where
  earfcn : Fields.Holds text 1 report.earfcn
  rsrp : Fields.Truncates text 2 report.rsrp
  rssi : Fields.Truncates text 3 report.rssi
  rsrq : Fields.Measures text 4 report.rsrq
  band : Fields.Holds text 15 report.band.toNat

section

open FieldReader

variable {r : Response} {text : String}

theorem decodeTechnology_eq (h : r.Carries "+COPS:" text) : decodeTechnology r =
    ((Fields.place text 0).skipMany 3).1 >>= fun _ => (Fields.place text 3).integer.1 := by
  rw [decodeTechnology, h.decodeSingle, run_bind_place 3 (run_skipMany_snd 3 _)]
  rfl

section

variable (h : r.Carries "+COPS:" text) (reached : Fields.Reached text 3)
include h reached

theorem decodeTechnology_iff (code : Int) :
    decodeTechnology r = .ok code ↔ Fields.Holds text 3 code := by
  unfold decodeTechnology
  rw [h.decodeSingle, skipMany_bind_ok_iff]
  constructor
  · rintro ⟨-, hcode⟩
    exact (Fields.integer_place_iff.mp hcode).2
  · intro hcode
    have hthere := hcode.there
    exact ⟨⟨reached.mono (by omega), by omega⟩, Fields.integer_place_iff.mpr ⟨reached, hcode⟩⟩

/-- A technology need not be a number of 64 bits. -/
theorem decodeTechnology_outside {n : Int} (told : Fields.Tells text 3 n)
    (outside : ¬ Number.IsInt64 n) :
    decodeTechnology r = .error (.fieldMismatch 3 .integer) := by
  have hskipped : ((Fields.place text 0).skipMany 3).1 = .ok () := by
    have hthere := told.there
    exact Fields.skipMany_place_iff.mpr ⟨reached.mono (by omega), by omega⟩
  rw [decodeTechnology_eq h, hskipped, Fields.integer_place_told reached told, if_neg outside]
  rfl

end

section

variable (h : r.Carries "#RFSTS:" text)
include h

theorem UmtsReport.ofResponse_iff (reached : Fields.Reached text 5) (report : UmtsReport) :
    ofResponse r = .ok report ↔ report.Told text := by
  unfold ofResponse
  simp only [h.decodeSingle, skip_bind_ok_iff, integer_bind_ok_iff, float_bind_ok_iff,
    truncated_bind_ok_iff, Nat.reduceAdd]
  constructor
  · rintro ⟨-, uarfcn, ⟨-, huarfcn⟩, -, ecio, ⟨-, hecio⟩, rscp, ⟨-, hrscp⟩, rssi, ⟨-, hrssi⟩, hreport⟩
    obtain rfl := Except.ok.inj hreport
    exact ⟨huarfcn, hecio, hrscp, hrssi, rfl⟩
  · intro htold
    have hthere := htold.ecio.there
    obtain ⟨uarfcn, ecio, rscp, rssi, band⟩ := report
    obtain rfl : band = umtsBand uarfcn := htold.band
    have hreached {number : Nat} (le : number ≤ 5) : Fields.Reached text number := reached.mono le
    exact ⟨⟨hreached (by omega), by omega⟩, uarfcn, ⟨hreached (by omega), htold.uarfcn⟩,
      ⟨hreached (by omega), by omega⟩, ecio, ⟨hreached (by omega), htold.ecio⟩,
      rscp, ⟨hreached (by omega), htold.rscp⟩, rssi, ⟨reached, htold.rssi⟩, rfl⟩

theorem LteReport.ofResponse_iff (reached : Fields.Reached text 15) (report : LteReport) :
    ofResponse r = .ok report ↔ report.Told text := by
  unfold ofResponse
  simp only [h.decodeSingle, skip_bind_ok_iff, integer_bind_ok_iff, float_bind_ok_iff,
    truncated_bind_ok_iff, skipMany_bind_ok_iff, uint32_bind_ok_iff, Nat.reduceAdd]
  constructor
  · rintro ⟨-, earfcn, ⟨-, hearfcn⟩, rsrp, ⟨-, hrsrp⟩, rssi, ⟨-, hrssi⟩, rsrq, ⟨-, hrsrq⟩, -, band,
      ⟨-, hband⟩, hreport⟩
    obtain rfl := Except.ok.inj hreport
    exact ⟨hearfcn, hrsrp, hrssi, hrsrq, hband⟩
  · intro htold
    have hthere := htold.band.there
    have hreached {number : Nat} (le : number ≤ 15) : Fields.Reached text number := reached.mono le
    exact ⟨⟨hreached (by omega), by omega⟩, _, ⟨hreached (by omega), htold.earfcn⟩,
      _, ⟨hreached (by omega), htold.rsrp⟩, _, ⟨hreached (by omega), htold.rssi⟩,
      _, ⟨hreached (by omega), htold.rsrq⟩, ⟨hreached (by omega), by omega⟩, _,
      ⟨reached, htold.band⟩, rfl⟩

end

end

/-! ## What comes of asking for the report -/

/-- The commands with their answers, and what the report is. -/
inductive RadioReported : List Exchange → Except Error RadioReport → Prop where
  | unread {a : Option Response} {e : Error} (failed : answerRead decodeTechnology a = .error e) :
    RadioReported [("AT+COPS?", a)] (.error e)
  | unsupported {a : Option Response} {code : Int}
    (read : answerRead decodeTechnology a = .ok code) (other : code ∉ [2, 4, 5, 6, 7]) :
    RadioReported [("AT+COPS?", a)] (.error (.unsupportedTechnology code))
  | umts {a b : Option Response} {code : Int} (read : answerRead decodeTechnology a = .ok code)
    (serves : code ∈ [2, 4, 5, 6]) :
    RadioReported [("AT+COPS?", a), ("AT#RFSTS", b)]
      ((answerRead UmtsReport.ofResponse b).map .umts)
  | lte {a b : Option Response} (read : answerRead decodeTechnology a = .ok 7) :
    RadioReported [("AT+COPS?", a), ("AT#RFSTS", b)] ((answerRead LteReport.ofResponse b).map .lte)

/-- The modem has told a technology that there are reports for. -/
def Reportable (past : List Exchange) : Prop :=
  ∃ response code, past[0]? = some ("AT+COPS?", some response) ∧ response.ok = true ∧
    decodeTechnology response = .ok code ∧ code ∈ [2, 4, 5, 6, 7]

/-- What comes of the technology has a report asked for. -/
def ReportDue (x : Exchange) (command : String) : Prop :=
  command = "AT#RFSTS" ∧ x.1 = "AT+COPS?" ∧
    ∃ code ∈ [2, 4, 5, 6, 7], answerRead decodeTechnology x.2 = .ok code

theorem reportDue_iff {past : List Exchange} {command : String} :
    (∃ x, past[0]? = some x ∧ ReportDue x command) ↔ command = "AT#RFSTS" ∧ Reportable past := by
  constructor
  · rintro ⟨⟨asked, a⟩, hfirst, rfl, rfl, code, hcode, hread⟩
    obtain ⟨response, rfl, hok, hdecode⟩ := answerRead_ok_iff.mp hread
    exact ⟨rfl, response, code, hfirst, hok, hdecode, hcode⟩
  · rintro ⟨rfl, response, code, hfirst, hok, hdecode, hcode⟩
    exact ⟨_, hfirst, rfl, rfl, code, hcode, answerRead_ok_iff.mpr ⟨response, rfl, hok, hdecode⟩⟩

theorem reportDue_cons_iff {a : Option Response} {rest : List Exchange} {command : String} :
    (∃ x, (("AT+COPS?", a) :: rest)[0]? = some x ∧ ReportDue x command) ↔
      command = "AT#RFSTS" ∧ ∃ code ∈ [2, 4, 5, 6, 7], answerRead decodeTechnology a = .ok code := by
  constructor
  · rintro ⟨x, hfirst, hcommand, -, hread⟩
    obtain rfl := Option.some.inj hfirst
    exact ⟨hcommand, hread⟩
  · rintro ⟨hcommand, hread⟩
    exact ⟨_, rfl, hcommand, rfl, hread⟩

namespace Technology

variable {code : Int}

theorem ofCode?_lte (h : ofCode? code = some .lte) : code = 7 := by
  grind [ofCode?]

theorem ofCode?_umts (h : ofCode? code = some .umts) : code ∈ [2, 4, 5, 6] := by
  grind [ofCode?]

theorem ofCode?_none (h : ofCode? code = none) : code ∉ [2, 4, 5, 6, 7] := by
  grind [ofCode?]

theorem ofCode?_of_mem (h : code ∈ [2, 4, 5, 6]) : ofCode? code = some .umts := by
  grind [ofCode?]

theorem ofCode?_of_not_mem (h : code ∉ [2, 4, 5, 6, 7]) : ofCode? code = none := by
  grind [ofCode?]

end Technology

/-- What two answers come to, and the exchanges it takes. -/
def reportOf (a b : Option Response) : List Exchange × Except Error RadioReport :=
  match answerRead decodeTechnology a with
  | .error e => ([("AT+COPS?", a)], .error e)
  | .ok code => match Technology.ofCode? code with
    | some .lte => ([("AT+COPS?", a), ("AT#RFSTS", b)],
        (answerRead LteReport.ofResponse b).map .lte)
    | some .umts => ([("AT+COPS?", a), ("AT#RFSTS", b)],
        (answerRead UmtsReport.ofResponse b).map .umts)
    | none => ([("AT+COPS?", a)], .error (.unsupportedTechnology code))

namespace RadioReported

variable {way way' : List Exchange} {result result' : Except Error RadioReport}

theorem eq_reportOf (h : RadioReported way result) : ∃ a b, (way, result) = reportOf a b := by
  unfold reportOf
  cases h with
  | @unread a e failed => exact ⟨a, none, by rw [failed]⟩
  | @unsupported a code read other =>
    refine ⟨a, none, ?_⟩
    rw [read]
    dsimp only
    rw [Technology.ofCode?_of_not_mem other]
  | @umts a b code read serves =>
    refine ⟨a, b, ?_⟩
    rw [read]
    dsimp only
    rw [Technology.ofCode?_of_mem serves]
  | @lte a b read =>
    refine ⟨a, b, ?_⟩
    rw [read]
    rfl

/-- The second answer is one of the exchanges, or it does not matter. -/
theorem reportOf_cases (a b : Option Response) :
    ((reportOf a b).1 = [("AT+COPS?", a)] ∧ ∀ b', reportOf a b' = reportOf a b) ∨
      (reportOf a b).1 = [("AT+COPS?", a), ("AT#RFSTS", b)] := by
  unfold reportOf
  cases answerRead decodeTechnology a with
  | error e => exact .inl ⟨rfl, fun _ => rfl⟩
  | ok code =>
    dsimp only
    cases Technology.ofCode? code with
    | none => exact .inl ⟨rfl, fun _ => rfl⟩
    | some technology => cases technology <;> exact .inr rfl

/-- The same answers come to the same. -/
theorem unique (h : RadioReported way result) (h' : RadioReported way' result')
    (same : ∀ x ∈ way, ∀ y ∈ way', x.1 = y.1 → x.2 = y.2) : way = way' ∧ result = result' := by
  obtain ⟨a, b, heq⟩ := h.eq_reportOf
  obtain ⟨a', b', heq'⟩ := h'.eq_reportOf
  obtain ⟨rfl, rfl⟩ := Prod.mk.inj heq
  obtain ⟨rfl, rfl⟩ := Prod.mk.inj heq'
  have hfirst (a b : Option Response) : ("AT+COPS?", a) ∈ (reportOf a b).1 := by
    rcases reportOf_cases a b with ⟨h, -⟩ | h <;> simp [h]
  obtain rfl : a = a' := same _ (hfirst a b) _ (hfirst a' b') rfl
  have hsame : reportOf a b = reportOf a b' := by
    rcases reportOf_cases a b with ⟨-, hone⟩ | hboth
    · exact (hone b').symm
    · rcases reportOf_cases a b' with ⟨-, hone⟩ | hboth'
      · exact hone b
      · have hsecond : ("AT#RFSTS", b) ∈ (reportOf a b).1 := by simp [hboth]
        have hsecond' : ("AT#RFSTS", b') ∈ (reportOf a b').1 := by simp [hboth']
        obtain rfl : b = b' := same _ hsecond _ hsecond' rfl
        rfl
  exact ⟨congrArg Prod.fst hsame, congrArg Prod.snd hsame⟩

/-- There is a second command when there is a report for the technology. -/
theorem second (h : RadioReported way result) (command : String) :
    (way.map Prod.fst)[1]? = some command ↔ ∃ x, way[0]? = some x ∧ ReportDue x command := by
  cases h with
  | unread failed =>
    rw [reportDue_cons_iff, failed]
    exact ⟨nofun, nofun⟩
  | unsupported read other =>
    rw [reportDue_cons_iff, read]
    refine ⟨nofun, ?_⟩
    rintro ⟨-, code, hcode, hread⟩
    obtain rfl := Except.ok.inj hread
    exact absurd hcode other
  | umts read serves =>
    rw [reportDue_cons_iff]
    exact ⟨fun h => ⟨(Option.some.inj h).symm, _, List.mem_append_left [7] serves, read⟩,
      fun h => congrArg some h.1.symm⟩
  | lte read =>
    rw [reportDue_cons_iff]
    exact ⟨fun h => ⟨(Option.some.inj h).symm, 7, by decide, read⟩, fun h => congrArg some h.1.symm⟩

end RadioReported

section

variable {υ : Type} {allow : Allowance → Prop}

def askingReport : Step (Host υ) (Settled .dataNetwork RadioReport) := do
  let code ← Step.transaction Request.queryTechnology.transaction
  match Technology.ofCode? code with
  | some .lte => return .passing (.lte (← Step.transaction Request.queryLteReport.transaction))
  | some .umts => return .passing (.umts (← Step.transaction Request.queryUmtsReport.transaction))
  | none => throw (.unsupportedTechnology code)

theorem run_plan_radioReport (vendor : Vendor) (a : Allowance) :
    ((Operation.radioReport : Operation υ .dataNetwork RadioReport).plan vendor .full).run a
      = (.ok askingReport, a) := rfl

/-- The report is asked for as the technology has it. -/
def askedFor (reply : Except Error (Settled .dataNetwork RadioReport) → Routine (Host υ)) :
    Except Error Int → Routine (Host υ)
  | .error e => reply (.error e)
  | .ok code => match Technology.ofCode? code with
    | some .lte => .send "AT#RFSTS" ["#RFSTS:"] fun b =>
      reply ((answerRead LteReport.ofResponse b).map fun report => .passing (.lte report))
    | some .umts => .send "AT#RFSTS" ["#RFSTS:"] fun b =>
      reply ((answerRead UmtsReport.ofResponse b).map fun report => .passing (.umts report))
    | none => reply (.error (.unsupportedTechnology code))

theorem askedFor_lte (reply : Except Error (Settled .dataNetwork RadioReport) → Routine (Host υ))
    {read : Except Error Int} (h : read = .ok 7) :
    askedFor reply read = .send "AT#RFSTS" ["#RFSTS:"] fun b =>
      reply ((answerRead LteReport.ofResponse b).map fun report => .passing (.lte report)) := by
  rw [h]
  rfl

theorem routine_passing {α : Type} (t : Transaction α) (make : α → RadioReport)
    (reply : Except Error (Settled .dataNetwork RadioReport) → Routine (Host υ)) :
    (do return .passing (make (← Step.transaction t)) : Step (Host υ) _).routine reply
      = .send t.command t.leads fun b =>
        reply ((answerRead t.decode b).map fun value => .passing (make value)) := by
  rw [Step.routine_transaction_bind, Transaction.answered_eq]
  refine congrArg (Routine.send _ _) (funext fun b => ?_)
  cases answerRead t.decode b <;> rfl

theorem routine_askingReport
    (reply : Except Error (Settled .dataNetwork RadioReport) → Routine (Host υ)) :
    askingReport.routine reply = .send "AT+COPS?" ["+COPS:"] fun a =>
      askedFor reply (answerRead decodeTechnology a) := by
  unfold askingReport
  rw [Step.routine_transaction_bind, Transaction.answered_eq]
  refine congrArg (Routine.send _ _) (funext fun a => ?_)
  change _ = askedFor reply (answerRead Request.queryTechnology.transaction.decode a)
  cases answerRead Request.queryTechnology.transaction.decode a with
  | error e => rfl
  | ok code =>
    unfold askedFor
    dsimp only
    cases Technology.ofCode? code with
    | none => rfl
    | some technology =>
      cases technology with
      | lte => exact routine_passing Request.queryLteReport.transaction .lte reply
      | umts => exact routine_passing Request.queryUmtsReport.transaction .umts reply

theorem map_answer_passing {α ρ : Type} {f : Facility} (read : Except Error α) (make : α → ρ) :
    (read.map fun value => (.passing (make value) : Settled f ρ)).map Settled.answer
      = read.map make := by
  cases read <;> rfl

theorem leads_radioReport (vendor : Vendor) :
    (Host.carryOut Operation.radioReport vendor .full : Step (Host υ) _).Leads allow
      fun way result => RadioReported way (result.map Settled.answer) := by
  refine Host.leads_carryOut (run_plan_radioReport vendor) nofun fun step hstep reply => ?_
  obtain rfl := Except.ok.inj hstep
  rw [routine_askingReport]
  refine .send _ _ _ fun a => ?_
  cases hread : answerRead decodeTechnology a with
  | error e => exact .reply _ (.unread hread)
  | ok code =>
    unfold askedFor
    dsimp only
    cases hcode : Technology.ofCode? code with
    | none => exact .reply _ (.unsupported hread (Technology.ofCode?_none hcode))
    | some technology =>
      cases technology with
      | lte =>
        obtain rfl := Technology.ofCode?_lte hcode
        refine .send _ _ _ fun b => .reply _ ?_
        rw [map_answer_passing]
        exact .lte hread
      | umts =>
        refine .send _ _ _ fun b => .reply _ ?_
        rw [map_answer_passing]
        exact .umts hread (Technology.ofCode?_umts hcode)

end

/-! ## Asking for the report among other calls -/

variable {ι : Type} {α : ι → Type}

/-- The calls with one more, which asks for the report. -/
def Services.withReport (services : Services α) (number : Nat) :
    Services fun call : Option ι => call.elim RadioReport α :=
  services.adding number .radioReport

theorem goes_radioReport (services : Services α) (number : Nat) (vendor : Vendor) :
    Calls.Goes (services.withReport number).calls none
      (fun way result => RadioReported way (result.map Settled.answer)) []
      ((services.withReport number).calls.working none (vendor, .full)) :=
  leads_radioReport vendor _

theorem working_radioReport (services : Services α) (number : Nat) (vendor : Vendor) :
    (services.withReport number).calls.working none (vendor, .full) = .asking id fun _ =>
      .send "AT+COPS?" ["+COPS:"] fun a =>
        askedFor ((services.withReport number).calls.settling none)
          (answerRead decodeTechnology a) := by
  rw [Calls.working_eq]
  exact congrArg (Routine.asking id) (funext fun _ => routine_askingReport _)

namespace Calls.World

variable [DecidableEq ι] {services : Services α} {number : Nat}
  {w w' : World fun call : Option ι => call.elim RadioReport α} {vendor : Vendor}
  {past : List Exchange}

/-- A report is neither remembered nor announced. -/
theorem silent_report (run : Run (services.withReport number).calls .empty w)
    {answer : RadioReport}
    (succeeds : Succeeds (services.withReport number).calls none w answer w') :
    w.host.Silent w'.host := by
  obtain ⟨hsound, hbooked, -⟩ := run_keeps run
  obtain ⟨heard, hrecorded⟩ := exists_recorded run
  obtain ⟨taken, settled, houtcome, -⟩ := hrecorded.traced.outcome hsound hbooked succeeds
  refine ⟨fun f n => ?_, ?_⟩
  · by_cases hat : f = .dataNetwork ∧ n = number
    · obtain ⟨rfl, rfl⟩ := hat
      obtain ⟨cache, hbefore, hafter⟩ := houtcome.stored
      rw [houtcome.follows.kept rfl rfl] at hafter
      exact hafter.trans hbefore.symm
    · exact houtcome.others f n hat
  · exact houtcome.announced.trans (List.append_nil _)

/-- Asking for the report is followed from where it was given its instance. The modem is asked for
its technology; a report is asked for if it has told one that there are reports for, and only then.
The call is answered at most once, with what the answers come to, and it is answered unless it is
still at work, or the channel has its completion or has dropped it. What the instances remember and
what has been announced stays as it is, unless another call succeeds or instances come and go. If
the call is made again and hears the same, it sends the same and gets the same answer.

Where nothing overruns before the last field that is read, commas between quotes count for nothing:
the technology is the fourth field, if that is a number of 64 bits, and a report is read from the
fields that it is told in. -/
theorem report_follows_technology (services : Services α) (number : Nat)
    (engaged : Engaged (services.withReport number).calls none (vendor, .full) w past) :
    Partway RadioReported past (belonging none w.commands) ∧
    (∀ command, (belonging none w.commands)[1]? = some command →
      command = "AT#RFSTS" ∧ Reportable past) ∧
    ((∀ frame ∈ w.stack, frame.1 ≠ none) → Reportable past →
      (belonging none w.commands)[1]? = some "AT#RFSTS") ∧
    w.answers none ≤ 1 ∧
    (∀ result : Except Error RadioReport, (⟨none, result⟩ : Reply _) ∈ w.host.observed →
      RadioReported past result ∧ belonging none w.commands = past.map Prod.fst) ∧
    ((∀ frame ∈ w.stack, frame.1 ≠ none) → (∀ completion ∈ w.held, completion.1 ≠ none) →
      none ∉ w.dropped →
      ∃ result : Except Error RadioReport, (⟨none, result⟩ : Reply _) ∈ w.host.observed) ∧
    (∀ w', Step (services.withReport number).calls w w' →
      (∀ i answer, ¬ Succeeds (services.withReport number).calls (some i) w answer w') →
      w.Elsewhere w' ∨ w.host.Silent w'.host) ∧
    (∀ vendor' w' past' (result result' : Except Error RadioReport),
      Engaged (services.withReport number).calls none (vendor', .full) w' past' →
      (⟨none, result⟩ : Reply _) ∈ w.host.observed →
      (⟨none, result'⟩ : Reply _) ∈ w'.host.observed →
      (∀ x ∈ past, ∀ y ∈ past', x.1 = y.1 → x.2 = y.2) →
      belonging none w'.commands = belonging none w.commands ∧ result' = result) ∧
    (∀ (r : Response) text, r.Carries "+COPS:" text → Fields.Reached text 3 →
      (∀ code, decodeTechnology r = .ok code ↔ Fields.Holds text 3 code) ∧
      ∀ n, Fields.Tells text 3 n → ¬ Number.IsInt64 n →
        decodeTechnology r = .error (.fieldMismatch 3 .integer)) ∧
    ∀ (r : Response) text, r.Carries "#RFSTS:" text →
      (Fields.Reached text 5 →
        ∀ report, UmtsReport.ofResponse r = .ok report ↔ report.Told text) ∧
      (Fields.Reached text 15 →
        ∀ report, LteReport.ofResponse r = .ok report ↔ report.Told text) := by
  have hreplied {vendor' : Vendor} {w : World fun call : Option ι => call.elim RadioReport α}
      {past : List Exchange}
      (engaged : Engaged (services.withReport number).calls none (vendor', .full) w past)
      (result : Except Error RadioReport) (told : (⟨none, result⟩ : Reply _) ∈ w.host.observed) :
      RadioReported past result ∧ belonging none w.commands = past.map Prod.fst := by
    have hthere := engaged.followed (goes_radioReport services number vendor')
    obtain ⟨hsent, result', hway, rfl⟩ := hthere.told result told
    exact ⟨hway, hsent⟩
  obtain ⟨hsound, -, -⟩ := run_keeps engaged.run
  have hthere := engaged.followed (goes_radioReport services number vendor)
  have hturns : Turns (fun way (result : Except Error (Settled .dataNetwork RadioReport)) =>
      RadioReported way (result.map Settled.answer)) ReportDue := fun way result hway => hway.second
  have hpartway := hthere.partway hsound
  obtain ⟨way, result, hway, hpast, hsent⟩ := hpartway.begins
  refine ⟨⟨⟨way, _, hway, hpast, hsent⟩, hpartway.heard, hpartway.waits⟩,
    fun command hcommand => reportDue_iff.mp (hpartway.asked hturns hcommand),
    fun off hreportable => ?_, hsound.answers_le none, hreplied engaged,
    hsound.answered hthere.claimed, fun w' hstep hothers => ?_, ?_,
    fun r text hcarries hreached => ⟨decodeTechnology_iff hcarries hreached,
      fun n => decodeTechnology_outside hcarries hreached⟩,
    fun r text hcarries => ⟨UmtsReport.ofResponse_iff hcarries, LteReport.ofResponse_iff hcarries⟩⟩
  · obtain ⟨x, hfirst, hdue⟩ := reportDue_iff.mpr ⟨rfl, hreportable⟩
    exact hthere.asked hturns hsound off hfirst hdue
  · by_cases hsuccess : ∃ answer, Succeeds (services.withReport number).calls none w answer w'
    · obtain ⟨answer, hsucceeds⟩ := hsuccess
      exact .inr (silent_report engaged.run hsucceeds)
    · refine silent_step hstep fun i answer hsucceeds => ?_
      cases i with
      | none => exact hsuccess ⟨answer, hsucceeds⟩
      | some i => exact hothers i answer hsucceeds
  · intro vendor' w' past' result result' engaged' htold htold' hsame
    obtain ⟨hway, hsent⟩ := hreplied engaged result htold
    obtain ⟨hway', hsent'⟩ := hreplied engaged' result' htold'
    obtain ⟨rfl, rfl⟩ := hway.unique hway' hsame
    exact ⟨hsent'.trans hsent.symm, rfl⟩

/-! ### A report with commas between quotes -/

/-- A host with an instance for the network settings. -/
def serving : Logged fun call : Option Empty => call.elim RadioReport Empty.elim :=
  ((Host.initial []).addInstance .dataNetwork .default).2.bindInstance .dataNetwork 0
    ⟨0, "telitmodem", .full⟩

theorem ready_serving :
    Run (unused.withReport 0).calls .empty { empty with host := serving } := by
  have hserving : (Host.initial [] : Logged _).Apart serving :=
    (Host.apart_addInstance _ _ _).trans (Host.apart_bindInstance _ _ _ _)
  exact .single (.other _ serving nofun hserving)

/-- An LTE cell of the band 20, with commas in the names of its network. -/
def cell : String :=
  " \"222,01\",6300,-97,-66,-8,9C41,255,,64,19,0,\"0,5\",222018,\"I, TIM\",3,20"

theorem exists_reported : ∃ w, Run (unused.withReport 0).calls
      (({ empty with host := serving } : World _).given (unused.withReport 0).calls none
        (.default, .full) ((unused.withReport 0).calls.claim none serving).2) w ∧
    belonging none w.commands = ["AT+COPS?", "AT#RFSTS"] ∧
    w.host.observed = [⟨none, .ok (.lte ⟨6300, -97, -66, ⟨0xC1000000⟩, 20⟩)⟩] := by
  have hread : answerRead decodeTechnology (some (.success ["+COPS: 0,0,\"I, TIM\",7"]))
      = .ok 7 := by decide
  have hreport : answerRead LteReport.ofResponse (some (.success ["#RFSTS:" ++ cell]))
      = .ok ⟨6300, -97, -66, ⟨0xC1000000⟩, 20⟩ := by decide
  have hworking := working_radioReport unused 0 .default
  have hasked : Run (unused.withReport 0).calls _ _ := .single
    (.ask (({ empty with host := serving } : World _).given (unused.withReport 0).calls
      none (.default, .full) ((unused.withReport 0).calls.claim none serving).2)
      none [] _ _ (congrArg (fun r => [(none, r)]) hworking))
  have htold := hasked.tail
    (.answer _ none [] _ _ _ (some (.success ["+COPS: 0,0,\"I, TIM\",7"])) rfl)
  have hreported := htold.tail (.answer _ none [] _ _ _ (some (.success ["#RFSTS:" ++ cell]))
    (congrArg (fun r => [(none, r)]) (askedFor_lte _ hread)))
  have hresult : (answerRead LteReport.ofResponse (some (.success ["#RFSTS:" ++ cell]))).map
      (fun report => (.passing (.lte report) : Settled .dataNetwork RadioReport))
        = .ok (.passing (.lte ⟨6300, -97, -66, ⟨0xC1000000⟩, 20⟩)) := by
    rw [hreport]
    rfl
  have hsettled := hreported.tail (.settle _ none [] _
    (congrArg (fun result => [(none, (unused.withReport 0).calls.settling none result)]) hresult))
  have hreplied := hsettled.tail (.reply _ none [] _ rfl)
  exact ⟨_, hreplied, rfl, rfl⟩

theorem report_follows_technology_lte : ∃ w past,
    Engaged (unused.withReport 0).calls none (.default, .full) w past ∧
    belonging none w.commands = ["AT+COPS?", "AT#RFSTS"] ∧
    RadioReported past (.ok (.lte ⟨6300, -97, -66, ⟨0xC1000000⟩, 20⟩)) ∧
    Fields.Holds cell 15 20 := by
  have hready := ready_serving
  obtain ⟨w, hrun, hsent, htold⟩ := exists_reported
  obtain ⟨past, hengaged⟩ := exists_engaged hready nofun nofun rfl hrun
  obtain ⟨-, -, -, -, hreplies, -, -, -, -, hreports⟩ :=
    report_follows_technology unused 0 hengaged
  have hcarries : (Response.success ["#RFSTS:" ++ cell]).Carries "#RFSTS:" cell :=
    ⟨[], [], rfl, nofun⟩
  have hdecoded : LteReport.ofResponse (.success ["#RFSTS:" ++ cell])
      = .ok ⟨6300, -97, -66, ⟨0xC1000000⟩, 20⟩ := by decide
  have hreached : Fields.Reached cell 15 := by decide
  exact ⟨w, past, hengaged, hsent, (hreplies _ (htold ▸ List.mem_cons_self)).1,
    (((hreports _ _ hcarries).2 hreached _).mp hdecoded).band⟩

theorem exists_untold {r : Response} {e : Error}
    (h : answerRead decodeTechnology (some r) = .error e) :
    ∃ w, Run (unused.withReport 0).calls .empty w ∧ belonging none w.commands = ["AT+COPS?"] ∧
      w.host.observed = [⟨none, .error e⟩] :=
  exists_failed ready_serving rfl (working_radioReport unused 0 .default) (by rw [h]; rfl)

/-- The fourth field may be a number and no technology come of it. The number may be too large for 64
bits; and there is no report for LTE either where a field before it overruns. -/
theorem technology_unread :
    (Fields.Tells " 0,0,\"op\",99999999999999999999" 3 99999999999999999999 ∧
      ∃ w, Run (unused.withReport 0).calls .empty w ∧ belonging none w.commands = ["AT+COPS?"] ∧
        w.host.observed = [⟨none, .error (.decode (.fieldMismatch 3 .integer))⟩]) ∧
    Fields.Tells " 0,0,\"op\"x,7" 3 7 ∧
      ∃ w, Run (unused.withReport 0).calls .empty w ∧ belonging none w.commands = ["AT+COPS?"] ∧
        w.host.observed = [⟨none, .error (.decode (.fieldMissing 3))⟩] := by
  have hhuge : answerRead decodeTechnology
      (some (.success ["+COPS: 0,0,\"op\",99999999999999999999"]))
        = .error (.decode (.fieldMismatch 3 .integer)) := by decide
  have hbehind : answerRead decodeTechnology (some (.success ["+COPS: 0,0,\"op\"x,7"]))
      = .error (.decode (.fieldMissing 3)) := by decide
  exact ⟨⟨Fields.tells_of_field "99999999999999999999".toList (by decide) (by decide),
    exists_untold hhuge⟩, Fields.tells_of_field "7".toList (by decide) (by decide),
    exists_untold hbehind⟩

end Calls.World

end CellModem
