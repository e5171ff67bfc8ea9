import CellModem.Proofs.Interference.Session

/-!
# How far the calls are

Each call goes its own course, however the calls are interleaved: it was not made yet, or the port
holds one command of it and the rest of its course is to come, or it was answered at the end of it.
-/

namespace CellModem.Calls

open SerialPort

variable {ι : Type} {α : ι → Type} {calls : Calls α} {modem : Responder}
  {m : Machine SerialPort (Logged α)}

/-- The calls are of different instances, all of them shown to the host, free, and with drivers that
have everything; for what they do they ask these drivers. The port works and is idle. The modem says
nothing unsolicited: what it answers to a command of a call is wanted by that command, or handled by
nobody. -/
structure Setup (calls : Calls α) (modem : Responder) (m : Machine SerialPort (Logged α)) : Prop where
  asks : ∀ i, (calls.operation i).OverDriver
  distinct : ∀ i j, calls.At (calls.facility j) (calls.number j) i → i = j
  ready : ∀ i, ∃ inst, m.state.instance? (calls.facility i) (calls.number i) = some inst ∧
    inst.life.state = .registered ∧ inst.busy = false ∧ inst.driver = some .full
  clear : m.channel.Clear
  idle : m.channel.current = none ∧ m.channel.queue = []
  quiet : ∀ i, Spares modem m.channel.handlers (calls.act i).routine m.state
  unanswered : m.state.observed = []

/-- What a call sends, and what its operation comes to. -/
structure Fate (calls : Calls α) (i : ι) where
  commands : List String
  result : Except Error (Settled (calls.facility i) (α i))

namespace Fate

variable {i : ι}

def texts (fate : Fate calls i) : List String := fate.commands.map (· ++ "\r")

def reply (fate : Fate calls i) : Reply α := ⟨i, fate.result.map Settled.answer⟩

/-- So it will be, if the call is made of its instance as it is in `m`. -/
def Foreseen (modem : Responder) (m : Machine SerialPort (Logged α)) (fate : Fate calls i) : Prop :=
  ∀ host : Logged α,
    host.instance? (calls.facility i) (calls.number i)
      = m.state.instance? (calls.facility i) (calls.number i) →
    ∃ taken, (calls.claim i host).1 = .ok taken ∧
      Course calls modem m.channel.handlers i fate.result (calls.working i taken) fate.commands

end Fate

theorem Setup.exists_fates (setup : Setup calls modem m) :
    ∃ fates : ∀ i, Fate calls i, ∀ i, (fates i).Foreseen modem m := by
  refine Classical.skolem.mp fun i => ?_
  obtain ⟨inst, hinst, hlife, hfree, hdriver⟩ := setup.ready i
  have hclaim (host : Logged α) (hsame : host.instance? (calls.facility i) (calls.number i)
      = m.state.instance? (calls.facility i) (calls.number i)) :
      (calls.claim i host).1 = .ok (inst.vendor, .full) := by
    unfold claim Host.claim
    rw [hsame, hinst]
    dsimp only
    rw [hlife, hfree, hdriver]
    rfl
  have hspares := setup.quiet i
  unfold Spares at hspares
  rw [routine_act, Routine.sends, Routine.sends, hclaim m.state rfl] at hspares
  obtain ⟨result, commands, hcourse⟩ := exists_course (setup.asks i) inst.vendor _ hspares
  exact ⟨⟨commands, result⟩, fun host hsame => ⟨_, hclaim host hsame, hcourse⟩⟩

/-! ## Progress -/

variable [DecidableEq ι]

/-- What the port was given for a call: what it has dealt with, and what it holds. -/
def sentOf (earlier : List (ι × String)) (pending : List (ι × Pending (Resume (Logged α)))) (i : ι) :
    List String :=
  ((earlier ++ pending.map entry).filter (·.1 = i)).map (·.2)

inductive Progress (modem : Responder) (m : Machine SerialPort (Logged α))
    (fates : ∀ i, Fate calls i) (started : List ι) (host : Logged α) (earlier : List (ι × String))
    (pending : List (ι × Pending (Resume (Logged α)))) (i : ι) : Prop where
  | fresh (fresh : i ∉ started) (sent : sentOf earlier pending i = [])
    (idle : i ∉ pending.map (·.1)) (replies : host.observed.filter (·.1 = i) = [])
    (same : host.instance? (calls.facility i) (calls.number i)
      = m.state.instance? (calls.facility i) (calls.number i))
  | waiting (started : i ∈ started) (replies : host.observed.filter (·.1 = i) = [])
    (p : Pending (Resume (Logged α))) (rest : List String) (holds : (i, p) ∈ pending)
    (course : Course calls modem m.channel.handlers i (fates i).result
      (p.waiting (modem.response p.command p.leads)) rest)
    (sent : sentOf earlier pending i ++ rest.map (· ++ "\r") = (fates i).texts)
  | answered (started : i ∈ started) (idle : i ∉ pending.map (·.1))
    (sent : sentOf earlier pending i = (fates i).texts)
    (replies : host.observed.filter (·.1 = i) = [(fates i).reply])

theorem sentOf_pass (earlier : List (ι × String)) (first : ι × Pending (Resume (Logged α)))
    (rest : List (ι × Pending (Resume (Logged α)))) (i : ι) :
    sentOf (earlier ++ [entry first]) rest i = sentOf earlier (first :: rest) i := by
  unfold sentOf
  rw [List.append_assoc]
  rfl

theorem sentOf_append (earlier : List (ι × String))
    (pending : List (ι × Pending (Resume (Logged α)))) (i j : ι) (p : Pending (Resume (Logged α))) :
    sentOf earlier (pending ++ [(i, p)]) j
      = sentOf earlier pending j ++ if i = j then [p.command ++ "\r"] else [] := by
  unfold sentOf
  rw [List.map_append, ← List.append_assoc, List.filter_append, List.map_append]
  congr 1
  by_cases hi : i = j <;> simp [entry, hi]

variable {fates : ∀ i, Fate calls i} {started started' : List ι} {host host' : Logged α}
  {earlier earlier' : List (ι × String)} {pending pending' : List (ι × Pending (Resume (Logged α)))}

/-- Nothing happened to the call. -/
theorem Progress.same {i : ι} (h : Progress modem m fates started host earlier pending i)
    (starts : i ∈ started' ↔ i ∈ started)
    (sent : sentOf earlier' pending' i = sentOf earlier pending i)
    (holds : ∀ p, (i, p) ∈ pending' ↔ (i, p) ∈ pending)
    (replies : host'.observed.filter (·.1 = i) = host.observed.filter (·.1 = i))
    (same : host'.instance? (calls.facility i) (calls.number i)
      = host.instance? (calls.facility i) (calls.number i)) :
    Progress modem m fates started' host' earlier' pending' i := by
  have hidle : i ∉ pending.map (·.1) → i ∉ pending'.map (·.1) := by
    intro hnot hin
    obtain ⟨⟨j, p⟩, hp, rfl⟩ := List.mem_map.mp hin
    exact hnot (List.mem_map_of_mem ((holds p).mp hp))
  cases h with
  | fresh fresh hsent idle hreplies hsame =>
    exact .fresh (fun hin => fresh (starts.mp hin)) (sent.trans hsent) (hidle idle)
      (replies.trans hreplies) (same.trans hsame)
  | waiting hstarted hreplies p rest hholds course hsent =>
    exact .waiting (starts.mpr hstarted) (replies.trans hreplies) p rest ((holds p).mpr hholds)
      course (by rw [sent, hsent])
  | answered hstarted idle hsent hreplies =>
    exact .answered (starts.mpr hstarted) (hidle idle) (sent.trans hsent) (replies.trans hreplies)

/-! ## Sessions -/

structure Tracks (modem : Responder) (m : Machine SerialPort (Logged α)) (fates : ∀ i, Fate calls i)
    (s : Session α) (earlier : List (ι × String)) (pending : List (ι × Pending (Resume (Logged α)))) :
    Prop where
  serves : Serves modem m.channel.handlers s.written s.machine.channel earlier pending s.coming
  issuers : s.issuers = earlier.map (·.1) ++ pending.map (·.1)
  alone : (pending.map (·.1)).Nodup
  progress : ∀ i, Progress modem m fates s.started s.machine.state earlier pending i

theorem filter_note (host : Logged α) (fate : Fate calls i) (j : ι) :
    (host.note fate.reply).observed.filter (·.1 = j)
      = host.observed.filter (·.1 = j) ++ if i = j then [fate.reply] else [] := by
  unfold Host.note
  rw [List.filter_append]
  congr 1
  by_cases hi : i = j <;> simp [Fate.reply, hi]

/-- The code of call `i` is about to run on `m'`. The port holds no command of the call, which has yet
to send those of `commands`. Since `s` the port has written what is in `news`, and of the lines that
were to come then, those of `lines` are left. -/
structure Resuming (modem : Responder) (m : Machine SerialPort (Logged α)) (fates : ∀ i, Fate calls i)
    (s : Session α) (m' : Machine SerialPort (Logged α)) (started : List ι)
    (earlier : List (ι × String)) (pending : List (ι × Pending (Resume (Logged α))))
    (news lines commands : List String) (i : ι) : Prop where
  given : s.machine.channel.given = s.written.length + (earlier.length + pending.length)
  issuers : s.issuers = earlier.map (·.1) ++ pending.map (·.1)
  wire : m'.channel.wire = s.machine.channel.wire ++ news
  serves : Serves modem m.channel.handlers s.written m'.channel earlier pending
    (lines ++ news.flatMap modem.answer)
  alone : (pending.map (·.1)).Nodup
  idle : i ∉ pending.map (·.1)
  sent : sentOf earlier pending i ++ commands.map (· ++ "\r") = (fates i).texts
  replies : m'.state.observed.filter (·.1 = i) = []
  starts : i ∈ started
  others : ∀ j, j ≠ i → Progress modem m fates started m'.state earlier pending j

namespace Resuming

variable {s : Session α} {m' : Machine SerialPort (Logged α)} {news lines commands : List String}
  {i : ι}

theorem settled (setup : Setup calls modem m)
    (h : Resuming modem m fates s m' started earlier pending news lines [] i)
    (state : host = (m'.state.settle (calls.number i) (fates i).result).note (fates i).reply)
    (j : ι) : Progress modem m fates started host earlier pending j := by
  have hreplies : host.observed.filter (·.1 = j)
      = m'.state.observed.filter (·.1 = j) ++ if i = j then [(fates i).reply] else [] := by
    rw [state, filter_note, Host.observed_settle]
  by_cases hj : j = i
  · subst hj
    rw [h.replies, if_pos rfl, List.nil_append] at hreplies
    exact .answered h.starts h.idle (by simpa using h.sent) hreplies
  · rw [if_neg (Ne.symm hj), List.append_nil] at hreplies
    refine (h.others j hj).same .rfl rfl (fun _ => .rfl) hreplies ?_
    rw [state]
    exact Host.instance?_settle_of_ne _ _ fun hat => hj (setup.distinct j i ⟨hat.1, hat.2⟩)

theorem passed {p : Pending (Resume (Logged α))} {rest : List String}
    (h : Resuming modem m fates s m' started earlier pending news lines (p.command :: rest) i)
    (course : Course calls modem m.channel.handlers i (fates i).result
      (p.waiting (modem.response p.command p.leads)) rest) (j : ι) :
    Progress modem m fates started m'.state earlier (pending ++ [(i, p)]) j := by
  by_cases hj : j = i
  · subst hj
    refine .waiting h.starts h.replies p rest (by simp) course ?_
    rw [sentOf_append, if_pos rfl, ← h.sent]
    simp
  · refine (h.others j hj).same .rfl ?_ (fun q => by simp [hj]) rfl rfl
    rw [sentOf_append, if_neg (Ne.symm hj), List.append_nil]

/-- The code of the call runs, and it is answered or has sent one more command. -/
theorem tracks (setup : Setup calls modem m) {r : Routine (Logged α)}
    (h : Resuming modem m fates s m' started earlier pending news lines commands i)
    (course : Course calls modem m.channel.handlers i (fates i).result r commands) :
    ∃ pending', Tracks modem m fates
        { s.after modem i lines (r.exec m') with started := started } earlier pending' ∧
      ((r.exec m').state.observed.filter (·.1 = i) ≠ [] ∨
        (sentOf earlier pending i).length < (sentOf earlier pending' i).length) := by
  obtain ⟨news', pending', hwire, hserves, hran⟩ := course.serves h.serves
  have hcoming : (s.after modem i lines (r.exec m')).coming
      = lines ++ news.flatMap modem.answer ++ news'.flatMap modem.answer := by
    unfold Session.after
    dsimp only
    rw [hwire, h.wire, List.append_assoc, List.drop_left, List.flatMap_append, ← List.append_assoc]
  have hissuers : (s.after modem i lines (r.exec m')).issuers
      = earlier.map (·.1) ++ (pending.map (·.1) ++
        .replicate (pending'.length - pending.length) i) := by
    unfold Session.after
    dsimp only
    rw [hserves.given, h.given, h.issuers, Nat.add_sub_add_left, Nat.add_sub_add_left,
      List.append_assoc]
  rw [← hcoming] at hserves
  refine ⟨pending', ?_⟩
  rcases hran with ⟨rfl, rfl, hstate⟩ | ⟨p, rest, rfl, rfl, hcourse, hstate⟩
  · have hprogress := h.settled setup hstate
    refine ⟨⟨hserves, by simpa using hissuers, h.alone, hprogress⟩, .inl ?_⟩
    cases hprogress i with
    | fresh fresh => exact absurd h.starts fresh
    | waiting _ _ p _ holds => exact absurd (List.mem_map_of_mem holds) h.idle
    | answered _ _ _ replies =>
      rw [replies]
      nofun
  · refine ⟨⟨hserves, by simpa using hissuers, ?_, fun j => ?_⟩, .inr ?_⟩
    · rw [List.map_append, List.nodup_append]
      refine ⟨h.alone, by simp, fun a ha b hb hab => ?_⟩
      obtain rfl := List.mem_singleton.mp hb
      exact h.idle (hab ▸ ha)
    · change Progress modem m fates started (r.exec m').state earlier _ j
      rw [hstate]
      exact h.passed hcourse j
    · rw [sentOf_append, if_pos rfl, List.length_append]
      exact Nat.lt_succ_self _

end Resuming

theorem tracks_opening (setup : Setup calls modem m) (fates : ∀ i, Fate calls i) :
    Tracks modem m fates (.opening m) [] [] where
  serves := {
    clear := setup.clear
    same := rfl
    quiet := nofun
    wire := (List.append_nil _).symm
    queue := setup.idle.2
    free := fun _ => ⟨setup.idle.1, rfl⟩
    flight := nofun }
  issuers := rfl
  alone := .nil
  progress i := .fresh nofun rfl nofun (by simp [Session.opening, setup.unanswered]) rfl

namespace Tracks

variable {s : Session α}

theorem start (setup : Setup calls modem m) (foreseen : ∀ i, (fates i).Foreseen modem m)
    (h : Tracks modem m fates s earlier pending) {i : ι} (fresh : i ∉ s.started) :
    ∃ pending', Tracks modem m fates
      { s.after modem i s.coming (s.machine.start (calls.act i)) with started := i :: s.started }
      earlier pending' := by
  cases h.progress i with
  | waiting started | answered started => exact absurd started fresh
  | fresh _ sent idle replies same =>
    obtain ⟨taken, hclaim, hcourse⟩ := foreseen i s.machine.state same
    have hstart : s.machine.start (calls.act i) = (calls.working i taken).exec
        { s.machine with state := (calls.claim i s.machine.state).2 } := by
      unfold Machine.start
      rw [routine_act, Routine.exec, hclaim]
      rfl
    have hobserved := Host.observed_claim (calls.facility i) (calls.number i) s.machine.state
    have hresuming : Resuming modem m fates s
        { s.machine with state := (calls.claim i s.machine.state).2 } (i :: s.started) earlier pending
        [] s.coming (fates i).commands i := {
      given := h.serves.given
      issuers := h.issuers
      wire := (List.append_nil _).symm
      serves := by simpa using h.serves
      alone := h.alone
      idle := idle
      sent := by rw [sent]; rfl
      replies := (congrArg _ hobserved).trans replies
      starts := List.mem_cons_self
      others := fun j hj =>
        (h.progress j).same (by simp [hj]) rfl (fun _ => .rfl) (congrArg _ hobserved)
          (Host.instance?_claim_of_ne _ fun hat => hj (setup.distinct j i ⟨hat.1, hat.2⟩)) }
    rw [hstart]
    obtain ⟨pending', htracks, -⟩ := hresuming.tracks setup hcourse
    exact ⟨pending', htracks⟩

theorem hear (h : Tracks modem m fates s earlier pending) {line : String} {lines : List String}
    (next : s.coming = line :: lines) (intermediate : isFinal line = false) :
    Tracks modem m fates { s with machine := s.machine.receive line, coming := lines }
      earlier pending := by
  obtain ⟨hstate, -, hserves⟩ := h.serves.hear next intermediate
  refine ⟨hserves, h.issuers, h.alone, fun i => ?_⟩
  rw [hstate]
  exact h.progress i

theorem finish (setup : Setup calls modem m) (h : Tracks modem m fates s earlier pending)
    {line : String} {lines : List String} (next : s.coming = line :: lines)
    (final : isFinal line = true) {i : ι} {p : Pending (Resume (Logged α))}
    {rest : List (ι × Pending (Resume (Logged α)))} (first : pending = (i, p) :: rest) :
    ∃ pending', Tracks modem m fates (s.after modem i lines (s.machine.receive line))
        (earlier ++ [entry (i, p)]) pending' ∧
      ((s.machine.receive line).state.observed.filter (·.1 = i) ≠ [] ∨
        (sentOf earlier pending i).length
          < (sentOf (earlier ++ [entry (i, p)]) pending' i).length) := by
  obtain ⟨port', news, hport, hwire, hserves⟩ := h.serves.finish first next final
  have hreceive : s.machine.receive line = (p.waiting (modem.response p.command p.leads)).exec
      { s.machine with channel := port' } := by
    unfold Machine.receive
    rw [hport]
    rfl
  subst first
  obtain ⟨hidle, halone⟩ := List.nodup_cons.mp h.alone
  rw [hreceive, ← sentOf_pass]
  cases h.progress i with
  | fresh _ _ idle | answered _ idle => exact absurd List.mem_cons_self idle
  | waiting starts replies q commands holds course sent =>
    -- The port holds one command of a call at most.
    obtain rfl : q = p := by
      rcases List.mem_cons.mp holds with heq | hin
      · exact (Prod.mk.inj heq).2
      · exact absurd (List.mem_map_of_mem hin) hidle
    have hresuming : Resuming modem m fates s { s.machine with channel := port' } s.started
        (earlier ++ [entry (i, q)]) rest news lines commands i := {
      given := by
        rw [h.serves.given]
        simp [Nat.add_assoc, Nat.add_comm 1]
      issuers := by
        rw [h.issuers]
        simp [entry]
      wire := hwire
      serves := hserves
      alone := halone
      idle := hidle
      sent := by
        rw [sentOf_pass]
        exact sent
      replies := replies
      starts := starts
      others := fun j hj =>
        (h.progress j).same .rfl (sentOf_pass _ _ _ _) (fun p => by simp [hj]) rfl rfl }
    exact hresuming.tracks setup course

/-- The command in flight is the last one written. -/
theorem flight (h : Tracks modem m fates s earlier pending) {i : ι}
    {p : Pending (Resume (Logged α))} {rest : List (ι × Pending (Resume (Logged α)))}
    (first : pending = (i, p) :: rest) :
    s.issuers[s.wire.length - 1]? = some i := by
  rw [Session.wire, h.issuers, h.serves.wire, List.drop_left, first]
  simp

theorem step (setup : Setup calls modem m) (foreseen : ∀ i, (fates i).Foreseen modem m)
    {t : Session α} (h : Tracks modem m fates s earlier pending) (step : Session.Step calls modem s t) :
    ∃ earlier' pending', Tracks modem m fates t earlier' pending' := by
  cases step with
  | start i fresh => exact ⟨earlier, h.start setup foreseen fresh⟩
  | hear line lines next intermediate => exact ⟨earlier, pending, h.hear next intermediate⟩
  | finish line lines i next final flight =>
    cases hpending : pending with
    | nil => cases next.symm.trans (h.serves.free hpending).2
    | cons first rest =>
      obtain rfl := Option.some.inj (flight.symm.trans (h.flight hpending))
      obtain ⟨pending', htracks, -⟩ := h.finish setup next final hpending
      exact ⟨_, pending', htracks⟩

theorem of_run (setup : Setup calls modem m) (foreseen : ∀ i, (fates i).Foreseen modem m)
    (run : Session.Run calls modem (.opening m) s) :
    ∃ earlier pending, Tracks modem m fates s earlier pending := by
  induction run with
  | refl => exact ⟨[], [], tracks_opening setup fates⟩
  | tail _ hstep ih =>
    obtain ⟨earlier, pending, htracks⟩ := ih
    exact htracks.step setup foreseen hstep

end Tracks

end CellModem.Calls
