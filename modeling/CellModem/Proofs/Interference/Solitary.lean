import CellModem.Proofs.Interference.Progress

/-!
# Calls made alone

A call that is made alone is carried out to its end. Among others it sends the same commands, and
comes to the same.
-/

namespace CellModem.Calls

open SerialPort

variable {ι : Type} {α : ι → Type} [DecidableEq ι] {calls : Calls α} {modem : Responder}
  {m : Machine SerialPort (Logged α)} {fates : ∀ i, Fate calls i} {s : Session α}
  {earlier : List (ι × String)} {pending : List (ι × Pending (Resume (Logged α)))}

theorem zip_map_append {A B : Type} (known more : List (A × B)) :
    ((known ++ more).map (·.1)).zip (known.map (·.2)) = known := by
  induction known with
  | nil => exact List.zip_nil_right
  | cons first rest ih => exact congrArg (first :: ·) ih

namespace Tracks

/-- What was given to the port for a call is what was written for it, and what is queued. -/
theorem linesOf_append_queued (h : Tracks modem m fates s earlier pending) (i : ι) :
    s.linesOf i ++ ((pending.tail.map entry).filter (·.1 = i)).map (·.2)
      = sentOf earlier pending i := by
  have hentries : earlier ++ pending.map entry
      = (earlier ++ (pending.take 1).map entry) ++ pending.tail.map entry := by
    rw [List.append_assoc, ← List.map_append, ← List.drop_one, List.take_append_drop]
  have hissuers : s.issuers = (earlier ++ pending.map entry).map (·.1) := by
    rw [h.issuers, List.map_append, List.map_map]
    rfl
  unfold Session.linesOf Session.wire sentOf
  rw [hissuers, h.serves.wire, List.drop_left, hentries, zip_map_append, ← List.map_append,
    ← List.filter_append]

theorem sentOf_prefix (h : Tracks modem m fates s earlier pending) (i : ι) :
    sentOf earlier pending i <+: (fates i).texts := by
  cases h.progress i with
  | fresh _ sent => exact sent ▸ List.nil_prefix
  | waiting _ _ _ rest _ _ sent => exact ⟨_, sent⟩
  | answered _ _ sent => exact sent ▸ List.prefix_rfl

theorem linesOf_prefix (h : Tracks modem m fates s earlier pending) (i : ι) :
    s.linesOf i <+: (fates i).texts :=
  List.IsPrefix.trans ⟨_, h.linesOf_append_queued i⟩ (h.sentOf_prefix i)

theorem of_answered (h : Tracks modem m fates s earlier pending) {i : ι}
    (answered : s.repliesTo i ≠ []) :
    s.linesOf i = (fates i).texts ∧ s.repliesTo i = [(fates i).reply] := by
  cases h.progress i with
  | fresh _ _ _ replies | waiting _ replies => exact absurd replies answered
  | answered _ idle sent replies =>
    have hqueued : (pending.tail.map entry).filter (·.1 = i) = [] := by
      refine List.filter_eq_nil_iff.mpr fun written hwritten hi => idle ?_
      obtain ⟨command, hcommand, rfl⟩ := List.mem_map.mp hwritten
      have hcall : command.1 = i := of_decide_eq_true hi
      exact List.mem_map.mpr ⟨command, List.mem_of_mem_tail hcommand, hcall⟩
    have hlines := h.linesOf_append_queued i
    rw [hqueued, List.map_nil, List.append_nil, sent] at hlines
    exact ⟨hlines, replies⟩

theorem started_of_holds (h : Tracks modem m fates s earlier pending) {i : ι}
    {p : Pending (Resume (Logged α))} (holds : (i, p) ∈ pending) : i ∈ s.started := by
  cases h.progress i with
  | fresh _ _ idle => exact absurd (List.mem_map_of_mem holds) idle
  | waiting started | answered started => exact started

/-- When no other call was made, the lines come in that end the command in flight, and so on to the
last command of the call. -/
theorem exists_answered (setup : Setup calls modem m) {i : ι}
    {s : Session α} {earlier : List (ι × String)}
    {pending : List (ι × Pending (Resume (Logged α)))}
    (h : Tracks modem m fates s earlier pending) (alone : s.started = [i]) :
    ∃ t, Session.Run calls modem s t ∧ t.started = [i] ∧ t.repliesTo i ≠ [] := by
  cases h.progress i with
  | fresh fresh => exact absurd (alone ▸ List.mem_singleton_self i) fresh
  | answered _ _ _ replies =>
    refine ⟨s, .refl, alone, ?_⟩
    rw [Session.repliesTo, replies]
    nofun
  | waiting _ _ _ _ holds =>
    obtain ⟨⟨j, p⟩, rest, hpending⟩ := List.exists_cons_of_ne_nil (List.ne_nil_of_mem holds)
    have hstarted := h.started_of_holds (hpending ▸ List.mem_cons_self)
    obtain rfl := (List.mem_singleton.mp (alone ▸ hstarted)).symm
    obtain ⟨heard, more, hlines, -, hcoming⟩ := h.serves.flight i p rest hpending
    cases more with
    | nil =>
      have hfinal := modem.final_isFinal (p.command ++ "\r")
      have hstep : Session.Step calls modem s _ :=
        .finish s _ _ i hcoming hfinal (h.flight hpending)
      obtain ⟨pending', htracks, hanswered | hgrew⟩ := h.finish setup hcoming hfinal hpending
      · exact ⟨_, .single hstep, alone, hanswered⟩
      · have hbound := (htracks.sentOf_prefix i).length_le
        obtain ⟨t, hrun, ht⟩ := htracks.exists_answered setup alone
        exact ⟨t, .head hstep hrun, ht⟩
    | cons line more =>
      have hintermediate := modem.lines_not_final (p.command ++ "\r") line (by rw [hlines]; simp)
      have hfewer : (more ++ [modem.final (p.command ++ "\r")]).length < s.coming.length := by
        rw [hcoming]
        exact Nat.lt_succ_self _
      obtain ⟨t, hrun, ht⟩ := (h.hear hcoming hintermediate).exists_answered setup alone
      exact ⟨t, .head (.hear s line _ hcoming hintermediate) hrun, ht⟩
termination_by ((fates i).texts.length - (sentOf earlier pending i).length, s.coming.length)
decreasing_by
  · exact .left _ _ (by omega)
  · exact .right _ hfewer

end Tracks

/-- The calls are of different instances, and the modem answers each command line by what it says, and
says nothing unsolicited. A call that is made alone is answered in the end. However calls are made and
lines come in, what was written for a call is the beginning of what is written for it in any run in
which it is answered, such as the one in which it is made alone; and once it has been answered, that
is all of it, and the answer is the same. -/
theorem undisturbed (setup : Setup calls modem m) (i : ι) :
    (∃ t, Session.Run calls modem (.opening m) t ∧ (∀ j ∈ t.started, j = i) ∧
      t.repliesTo i ≠ []) ∧
    ∀ s t, Session.Run calls modem (.opening m) s → Session.Run calls modem (.opening m) t →
      t.repliesTo i ≠ [] → s.linesOf i <+: t.linesOf i ∧
      (s.repliesTo i ≠ [] → s.linesOf i = t.linesOf i ∧ s.repliesTo i = t.repliesTo i) := by
  obtain ⟨fates, hforeseen⟩ := setup.exists_fates
  constructor
  · have hopening := tracks_opening setup fates
    obtain ⟨pending, hstarted⟩ := hopening.start setup hforeseen (i := i) nofun
    obtain ⟨t, hrun, halone, hanswered⟩ := hstarted.exists_answered setup rfl
    refine ⟨t, .head (.start _ i nofun) hrun, fun j hj => ?_, hanswered⟩
    exact List.mem_singleton.mp (halone ▸ hj)
  · intro s t hs ht hanswered
    obtain ⟨_, _, hs⟩ := Tracks.of_run setup hforeseen hs
    obtain ⟨_, _, ht⟩ := Tracks.of_run setup hforeseen ht
    obtain ⟨hlines, hreplies⟩ := ht.of_answered hanswered
    rw [hlines, hreplies]
    exact ⟨hs.linesOf_prefix i, hs.of_answered⟩

/-! ## A survey and a query -/

/-- What the caller of a survey is given, or that of a query. -/
abbrev Found (query : Bool) : Type := bif query then Properties else List String

/-- One caller asks for a survey, and one for what the modem reports on its own. -/
def both : Calls Found where
  facility query := bif query then .reporting else .survey
  number _ := 0
  operation
    | true => (.reportingProperties : Operation _ .reporting Properties)
    | false => (.survey "FULL" : Operation _ .survey (List String))
  built
    | true => Operation.over_reportingProperties.built
    | false => (Operation.over_survey "FULL").built

/-- A modem that reports everything. -/
def answering : Responder where
  lines text :=
    (Switch.all.filter fun s => text = (Request.querySwitch s).transaction.command ++ "\r").map
      fun s => s.lead ++ " 1"
  final _ := "OK"
  lines_not_final text line hline := by
    obtain ⟨s, -, rfl⟩ := List.mem_map.mp hline
    cases s <;> rfl
  final_isFinal _ := rfl

/-- The state of the SIM is handled, so what the query asks for is what a handler would take. -/
def furnished : Machine SerialPort (Logged Found) where
  channel := { SerialPort.opened with handlers := [⟨"#QSS:", fun _ => .done⟩] }
  state :=
    let ready (f : Facility) (h : Logged Found) : Logged Found :=
      ((h.addInstance f .telitSerial).2.bindInstance f 0 ⟨0, "telitmodem", .full⟩).showInstance f 0
    ready .survey (ready .reporting (.initial []))

theorem setup_furnished : Setup both answering furnished where
  asks
    | true => Operation.over_reportingProperties
    | false => Operation.over_survey "FULL"
  distinct i j at_ := by
    cases i <;> cases j
    · rfl
    · cases at_.1
    · cases at_.1
    · rfl
  ready
    | true => ⟨_, rfl, rfl, rfl, rfl⟩
    | false => ⟨_, rfl, rfl, rfl, rfl⟩
  clear := ⟨rfl, rfl⟩
  idle := ⟨rfl, rfl⟩
  quiet i := by
    unfold Spares
    cases i <;> decide +kernel
  unanswered := rfl

/-- The survey is made while the query is under way, and goes on when the query is answered. -/
theorem exists_queried : ∃ s, Session.Run both answering (.opening furnished) s ∧
    s.repliesTo true ≠ [] ∧ s.linesOf false = ["AT+COPS=2\r", "AT#ATDELAY=50\r"] := by
  have hquery : Session.Run both answering (.opening furnished) _ := .single (.start _ true nofun)
  have hsim := hquery.tail (.hear _ "#QSS: 1" _ rfl rfl)
    |>.tail (.finish _ "OK" _ true rfl rfl rfl)
  have hrssi := hsim.tail (.hear _ "+CMER: 1" _ rfl rfl)
    |>.tail (.finish _ "OK" _ true rfl rfl rfl)
  have hevents := hrssi.tail (.hear _ "+CGEREP: 1" _ rfl rfl)
    |>.tail (.finish _ "OK" _ true rfl rfl rfl)
  have hsurvey := hevents.tail (.start _ false (by decide))
  have hgprs := hsurvey.tail (.hear _ "+CGREG: 1" _ rfl rfl)
    |>.tail (.finish _ "OK" _ true rfl rfl rfl)
  have hleft := hgprs.tail (.finish _ "OK" _ false rfl rfl rfl)
  have hnetwork := hleft.tail (.hear _ "+CREG: 1" _ rfl rfl)
    |>.tail (.finish _ "OK" _ true rfl rfl rfl)
  exact ⟨_, hnetwork, nofun, rfl⟩

/-- The survey has not ended when the query is answered. -/
theorem undisturbed_queried : ∃ s, Session.Run both answering (.opening furnished) s ∧
    (∃ t, Session.Run both answering (.opening furnished) t ∧ (∀ j ∈ t.started, j = true) ∧
      s.linesOf true = t.linesOf true ∧ s.repliesTo true = t.repliesTo true) ∧
    ∃ t, Session.Run both answering (.opening furnished) t ∧ (∀ j ∈ t.started, j = false) ∧
      t.repliesTo false ≠ [] ∧ ["AT+COPS=2\r", "AT#ATDELAY=50\r"] <+: t.linesOf false := by
  obtain ⟨s, hs, hfound, hlines⟩ := exists_queried
  obtain ⟨⟨t, ht, halone, hanswered⟩, hquery⟩ := undisturbed setup_furnished true
  obtain ⟨⟨t', ht', halone', hanswered'⟩, hsurvey⟩ := undisturbed setup_furnished false
  refine ⟨s, hs, ⟨t, ht, halone, (hquery s t hs ht hanswered).2 hfound⟩, t', ht', halone',
    hanswered', ?_⟩
  exact hlines ▸ (hsurvey s t' hs ht' hanswered').1

end CellModem.Calls
