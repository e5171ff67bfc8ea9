import CellModem.Proofs.Conduct.Channels
import CellModem.Proofs.Lifetime.Callers
import CellModem.Proofs.Lifetime.SimEvents

/-!
# The SIM as the host is told of it

What the host has been told gives the status the modem keeps for as long as the modem is never
switched on while its SIM is there. Switching on has the SIM count as absent until the modem reports it
anew, and nobody is told. From then on the host goes on taking for there what counts as absent, or is
told once more that it has come.
-/

namespace CellModem

variable {υ : Type}

/-! ## What happens to the SIM of a modem -/

namespace Host

def sim? (h : Host υ) (i : Nat) : Option SimStatus := h.modems[i]?.map Modem.sim

/-- What has been told gives the SIM of the modem, and it has been told in turn that it has come and
that it has gone. -/
structure SimTold (i : Nat) (h : Host υ) : Prop where
  status : h.sim? i = some (.told h.events)
  turns : Event.InTurn h.events

/-- The SIM of the modem is there, as the modem keeps it. -/
def HasSim (i : Nat) (h : Host υ) : Prop := ∃ s, h.sim? i = some s ∧ s.inserted = true

/-- The SIM of the modem is as before, and nothing is told of it. -/
structure SimAside (i : Nat) (h h' : Host υ) : Prop where
  sim : h'.sim? i = h.sim? i
  quiet : h.Announces (fun e => e.ofSim = false) h'

/-- How the host has come from `start`, as far as the SIM goes: status codes have been taken in, and
the modem has been switched on at the hosts that are listed. -/
inductive SimCourse (i : Nat) (start : Host υ) : List (Host υ) → Host υ → Prop where
  | start : SimCourse i start [] start
  | status {ons : List (Host υ)} {h : Host υ} (course : SimCourse i start ons h) (code : Int) :
    SimCourse i start ons (h.applySimStatus i code)
  | on {ons : List (Host υ)} {h : Host υ} (course : SimCourse i start ons h) :
    SimCourse i start (ons ++ [h]) (h.switchedOn i)
  | aside {ons : List (Host υ)} {h h' : Host υ} (course : SimCourse i start ons h)
    (aside : h.SimAside i h') : SimCourse i start ons h'

section

variable {h : Host υ} {i : Nat} {s : SimStatus}

theorem emitAll_of_listening (listening : h.listening = true) (events : List Event) :
    h.emitAll events = { h with events := h.events ++ events } := by
  induction events generalizing h with
  | nil =>
    rw [List.append_nil]
    rfl
  | cons e rest ih =>
    have hemitted : h.emit e = { h with events := h.events ++ [e] } := if_pos listening
    change (h.emit e).emitAll rest = _
    rw [hemitted, ih (h := { h with events := h.events ++ [e] }) listening, List.append_assoc]
    rfl

@[simp] theorem modems_emit (h : Host υ) (e : Event) : (h.emit e).modems = h.modems := by
  unfold emit
  split <;> rfl

theorem sim?_modifyModem (sim : h.sim? i = some s) {change : Modem → Modem} {s' : SimStatus}
    (changes : ∀ m, m.sim = s → (change m).sim = s') : (h.modifyModem i change).sim? i = some s' := by
  obtain ⟨m, hm, hs⟩ := Option.map_eq_some_iff.mp sim
  unfold sim? modifyModem
  rw [List.getElem?_modify_eq, hm]
  exact congrArg some (changes m hs)

theorem aside_modifyModem (h : Host υ) (i : Nat) {change : Modem → Modem}
    (same : ∀ m, (change m).sim = m.sim) : h.SimAside i (h.modifyModem i change) where
  sim := by
    unfold sim? modifyModem
    rw [List.getElem?_modify_eq]
    cases h.modems[i]? with
    | none => rfl
    | some m => exact congrArg some (same m)
  quiet := .nothing rfl rfl

theorem applySimStatus_told (listening : h.listening = true) (sim : h.sim? i = some s)
    (code : Int) : (h.applySimStatus i code).events = h.events ++ (s.apply code).2 ∧
      (h.applySimStatus i code).sim? i = some (s.apply code).1 := by
  obtain ⟨m, hm, rfl⟩ := Option.map_eq_some_iff.mp sim
  have hset := emitAll_of_listening
    (h := h.modifyModem i fun m' => { m' with sim := (m.sim.apply code).1 }) listening
  unfold applySimStatus
  rw [hm]
  dsimp only
  rw [hset]
  exact ⟨rfl, sim?_modifyModem sim fun _ _ => rfl⟩

theorem aside_setPowered (h : Host υ) (i : Nat) (on : Bool) : h.SimAside i (h.setPowered i on) where
  sim := by
    rcases h.setPowered_cases i on with hsame | hset
    · rw [hsame]
    · have hmodified : h.SimAside i (h.modifyModem i fun m => { m with powered := on }) :=
        h.aside_modifyModem i fun _ => rfl
      rw [hset, ← hmodified.sim]
      exact congrArg (·[i]?.map Modem.sim) (modems_emit _ _)
  quiet := h.announces_setPowered i on rfl

theorem SimAside.of_revised {f : Facility} {n : Nat} {revise : Account → Account} {h h' : Host υ}
    (revised : Revised f n revise h h') : h.SimAside i h' where
  sim := by
    unfold sim?
    rw [revised.modems]
  quiet := revised.announces

theorem SimAside.of_modems {h h' : Host υ} (modems : h'.modems = h.modems)
    (quiet : h.Announces (fun e => e.ofSim = false) h') : h.SimAside i h' where
  sim := by
    unfold sim?
    rw [modems]
  quiet := quiet

theorem modems_settle {f : Facility} {ρ : Type} (h : Host υ) (n : Nat)
    (result : Except Error (Settled f ρ)) : (h.settle n result).modems = h.modems := by
  cases result with
  | error e => rfl
  | ok settled =>
    unfold settle
    dsimp only
    split
    · rfl
    · unfold announce
      split
      · split
        · exact modems_emit _ _
        · rfl
      · rfl

theorem modems_claim (h : Host υ) (f : Facility) (n : Nat) : (h.claim f n).2.modems = h.modems := by
  rcases claim_cases f n h with ⟨e, hclaim⟩ | ⟨taken, hclaim, -⟩
  · rw [hclaim]
  · rw [hclaim]
    rfl

theorem Use.aside {h h' : Host υ} (use : Use h h') : h.SimAside i h' := by
  cases use with
  | shown f n => exact .of_revised (h.revised_showInstance f n)
  | retracted f n => exact .of_revised (h.revised_retract f n)
  | spent allowance => exact .of_modems rfl (h.deed_allowance allowance).announces
  | claimed f n => exact .of_modems (h.modems_claim f n) (h.deed_claim f n).announces
  | settled n result =>
    exact .of_modems (h.modems_settle n result) (h.deed_settle n result fun _ _ _ => rfl).announces

end

end Host

namespace Modem

open Host

variable {i : Nat}

theorem modems_dismissAll (places : PerFacility fun _ => Option Nat) (fs : List Facility)
    (h : Host υ) : (dismissAll places fs h).modems = h.modems := by
  induction fs generalizing h with
  | nil => rfl
  | cons f rest ih =>
    unfold dismissAll
    cases places.get f with
    | none => exact ih h
    | some n => exact (ih _).trans (h.revised_removeInstance f n).modems

theorem aside_removeFacilities (i : Nat) (h : Host υ) : h.SimAside i (removeFacilities i h) where
  sim := by
    cases hmodem : h.modems[i]? with
    | none =>
      unfold removeFacilities
      rw [hmodem]
    | some m =>
      have hemptied : h.SimAside i
          (h.modifyModem i fun m => { m with facilities := .ofFn fun _ => none }) :=
        h.aside_modifyModem i fun _ => rfl
      rw [removeFacilities_of_modem hmodem, ← hemptied.sim]
      exact congrArg (·[i]?.map Modem.sim) (modems_dismissAll _ _ _)
  quiet := announces_removeFacilities i h

theorem Upkeep.course {start h h' : Host υ} (upkeep : Upkeep i h h') {ons : List (Host υ)}
    (course : SimCourse i start ons h) : ∃ ons', SimCourse i start ons' h' := by
  cases upkeep with
  | work work =>
    cases work with
    | status code => exact ⟨ons, course.status code⟩
    | on => exact ⟨_, course.on⟩
    | off => exact ⟨ons, course.aside (h.aside_setPowered i false)⟩
    | board found => exact ⟨ons, course.aside (h.aside_modifyModem i fun _ => rfl)⟩
    | use use => exact ⟨ons, course.aside use.aside⟩
  | added f vendor => exact ⟨ons, course.aside (.of_modems rfl (.nothing rfl rfl))⟩
  | bound f n d => exact ⟨ons, course.aside (.of_revised (h.revised_bindInstance f n d))⟩
  | installed places created => exact ⟨ons, course.aside (h.aside_modifyModem i fun _ => rfl)⟩
  | removed => exact ⟨ons, course.aside (aside_removeFacilities i h)⟩

end Modem

/-! ## As long as the modem is not switched on with its SIM there -/

namespace Host

open SimStatus

variable {i : Nat}

/-- What is told is heard, and no SIM has been there or told of. -/
structure SimUntold (i : Nat) (h : Host υ) : Prop where
  listening : h.listening = true
  absent : h.sim? i = some .absent
  untold : ∀ e ∈ h.events, e.ofSim = false

theorem SimUntold.upToDate {h : Host υ} (untold : h.SimUntold i) :
    UpToDate h.events SimStatus.absent where
  told := Event.hear_quiet untold.untold _
  turns := by
    unfold Event.InTurn
    rw [Event.insertions_quiet untold.untold]
    exact List.isChain_singleton _
  sensible := fun ready => ready

theorem switchedOn_told {h : Host υ} {s : SimStatus} (sim : h.sim? i = some s) :
    (h.switchedOn i).sim? i = some .absent ∧
      h.Announces (fun e => e.ofSim = false) (h.switchedOn i) := by
  let absent := h.modifyModem i fun m => { m with sim := .absent }
  have habsent : absent.sim? i = some .absent := sim?_modifyModem sim fun _ _ => rfl
  have hquiet : h.Announces (fun e => e.ofSim = false) absent := .nothing rfl rfl
  have hpowered := absent.aside_setPowered i true
  exact ⟨hpowered.sim.trans habsent, hquiet.trans hpowered.quiet⟩

/-- The host is up to date until the modem is switched on with its SIM there, and never again. -/
theorem course_upToDate {start h : Host υ} (untold : start.SimUntold i) {ons : List (Host υ)}
    (course : SimCourse i start ons h) : h.listening = true ∧ ∃ s, h.sim? i = some s ∧
      ((∀ on ∈ ons, ¬ HasSim i on) ∧ UpToDate h.events s ∨
        (∃ on ∈ ons, HasSim i on) ∧ OutOfDate h.events s) := by
  -- Only switching on leads from the first case to the second; nothing leads back.
  induction course with
  | start => exact ⟨untold.listening, .absent, untold.absent, .inl ⟨nofun, untold.upToDate⟩⟩
  | @status ons h _ code ih =>
    obtain ⟨hlistening, s, hsim, hdated⟩ := ih
    obtain ⟨hevents, hsim'⟩ := applySimStatus_told hlistening hsim code
    have hdeed : Deed (fun _ => True) h (h.applySimStatus i code) :=
      h.deed_applySimStatus i code (fun _ => trivial) trivial
    refine ⟨hdeed.announces.listening.trans hlistening, _, hsim', ?_⟩
    rw [hevents]
    exact hdated.imp (fun ⟨hons, h⟩ => ⟨hons, h.apply code⟩) fun ⟨hons, h⟩ => ⟨hons, h.apply code⟩
  | @on ons h _ ih =>
    obtain ⟨hlistening, s, hsim, hdated⟩ := ih
    obtain ⟨hsim', hquiet⟩ := switchedOn_told hsim
    obtain ⟨added, hevents, hadded⟩ := hquiet.events
    refine ⟨hquiet.listening.trans hlistening, _, hsim', ?_⟩
    rw [hevents]
    rcases hdated with ⟨hons, hin⟩ | ⟨⟨on, hon, hthere⟩, hout⟩
    · cases hinserted : s.inserted with
      | true =>
        exact .inr ⟨⟨h, List.mem_append_right _ (List.mem_singleton_self h), s, hsim, hinserted⟩,
          (hin.lapses hinserted).quiet hadded⟩
      | false =>
        have hnone : ¬ HasSim i h := by
          rintro ⟨s', hs', hthere⟩
          rw [Option.some.inj (hsim.symm.trans hs'), hthere] at hinserted
          cases hinserted
        refine .inl ⟨List.forall_mem_append.mpr ⟨hons, fun on hon => ?_⟩,
          (hin.absent hinserted).quiet hadded⟩
        exact List.mem_singleton.mp hon ▸ hnone
    · exact .inr ⟨⟨on, List.mem_append_left _ hon, hthere⟩, hout.absent.quiet hadded⟩
  | aside _ aside ih =>
    obtain ⟨hlistening, s, hsim, hdated⟩ := ih
    obtain ⟨added, hevents, hadded⟩ := aside.quiet.events
    refine ⟨aside.quiet.listening.trans hlistening, s, aside.sim.trans hsim, ?_⟩
    rw [hevents]
    exact hdated.imp (fun ⟨hons, h⟩ => ⟨hons, h.quiet hadded⟩) fun ⟨hons, h⟩ => ⟨hons, h.quiet hadded⟩

theorem simTold_iff_of_course {start h : Host υ} (untold : start.SimUntold i) {ons : List (Host υ)}
    (course : SimCourse i start ons h) : SimTold i h ↔ ∀ on ∈ ons, ¬ HasSim i on := by
  obtain ⟨-, s, hsim, hdated⟩ := course_upToDate untold course
  rcases hdated with ⟨hons, hin⟩ | ⟨⟨on, hon, hthere⟩, hout⟩
  · exact ⟨fun _ => hons, fun _ => ⟨by rw [hsim, hin.told], hin.turns⟩⟩
  · refine ⟨fun told => ?_, fun hons => absurd hthere (hons on hon)⟩
    rcases hout with hturns | ⟨htold, hgone⟩
    · exact absurd told.turns hturns
    · rw [Option.some.inj (told.status.symm.trans hsim), hgone] at htold
      cases htold

end Host

/-! ## All that happens to a modem -/

namespace Modem

open Host

/-- What a modem and its instances are asked for. -/
inductive Demand (i : Nat) : (α : Type) → Step (Host υ) α → Prop where
  | enable (model : Model) : Demand i Unit (enable i model)
  | bringUp (model : Model) : Demand i Unit (bringUp i model)
  | disable : Demand i Unit (disable i)
  | takeDown : Demand i Unit (takeDown i)
  | perform {f : Facility} {ρ : Type} (n : Nat) {op : Operation υ f ρ} (built : op.Built) :
    Demand i ρ (Host.perform n op)

theorem Demand.tame {i : Nat} {α : Type} {step : Step (Host υ) α} (demand : Demand i α step) :
    step.run.Tame (Upkeep i) Anything := by
  cases demand with
  | enable model => exact (made_enable i model).tame.mono fun _ _ => .work
  | bringUp model => exact tame_bringUp i model
  | disable => exact tame_disable i
  | takeDown => exact tame_takeDown i
  | perform n built =>
    have hperformed := made_perform (fun vendor driver => (built.carryOut vendor driver).made) n
    exact hperformed.tame.mono fun _ _ use => .work (.use use)

/-- Whatever a modem is asked for, and whatever happens on its channel: what has been told gives the
SIM that the modem keeps, and that it has come and gone has been told in turn, exactly when the modem
has never been switched on while its SIM was there. -/
theorem sim_told_iff {C : Type → Type} [Channel C] [Attended C] [AttendedLaws C] {i : Nat}
    {m now : Machine C (Host υ)} {given : List String} (untold : m.state.SimUntold i)
    (nobody : Attended.waiting m.channel = []) (unheard : Attended.handlers m.channel = [])
    (course : Machine.Course (Routine.OfClient (Demand i)) m given now) :
    (∃ ons, SimCourse i m.state ons now.state) ∧
    ∀ ons, SimCourse i m.state ons now.state →
      (SimTold i now.state ↔ ∀ on ∈ ons, ¬ HasSim i on) := by
  refine ⟨?_, fun ons course => simTold_iff_of_course untold course⟩
  let reached (h : Host υ) : Prop := ∃ ons, SimCourse i m.state ons h
  have hstable : Stable (Upkeep i) reached := fun _ _ upkeep ⟨_, course⟩ => upkeep.course course
  have hsafe : ∀ r : Routine (Host υ), r.OfClient (Demand i) → ∀ h, reached h →
      r.Keeps reached Anything reached h := fun r client h hh =>
    client.keeps (fun _ _ demand => demand.tame) hstable hh
  exact (course.attends hsafe ⟨[], .start⟩ (.vacant nobody unheard)).1

/-- A modem that does whatever it is told, and is yet to be switched on. -/
def willing : Machine Simulator (Host Unit) where
  channel := { Simulator.empty with unscripted := .ok }
  state := { Host.initial () with modems := [.initial .telitSerial] }

/-- It has been switched on, and reports that its SIM is there. -/
def reported : Machine Simulator (Host Unit) :=
  (willing.start (.calling (enable 0 .telitSerial))).feed (Simulator.Input.line "#QSS: 1")

/-- It has then been switched off, and on once more. -/
def reenabled : Machine Simulator (Host Unit) :=
  (reported.start (.calling (disable 0))).start (.calling (enable 0 .telitSerial))

theorem course_reported : ∃ given,
    Machine.Course (Routine.OfClient (Demand 0)) willing given reported :=
  ⟨_, (Machine.Course.refl.start _ (Routine.ofClient_calling (.enable _))).feed _⟩

theorem course_reenabled : ∃ given,
    Machine.Course (Routine.OfClient (Demand 0)) willing given reenabled := by
  obtain ⟨_, course⟩ := course_reported
  have disabling := course.start _ (Routine.ofClient_calling .disable)
  exact ⟨_, disabling.start _ (Routine.ofClient_calling (.enable _))⟩

theorem not_simTold_reenabled : ¬ SimTold 0 reenabled.state := by
  intro told
  have hsame : reenabled.state.sim? 0 = some .absent := by rfl
  have hheard : SimStatus.told reenabled.state.events = ⟨true, false⟩ := by rfl
  have hstatus := told.status
  rw [hsame, hheard] at hstatus
  cases hstatus

theorem sim_told_iff_reenabled :
    willing.state.SimUntold 0 ∧
    (∃ ons, SimCourse 0 willing.state ons reported.state ∧ ∀ on ∈ ons, ¬ HasSim 0 on) ∧
    ∃ ons, SimCourse 0 willing.state ons reenabled.state ∧ ∃ on ∈ ons, HasSim 0 on := by
  have huntold : willing.state.SimUntold 0 := ⟨rfl, rfl, nofun⟩
  obtain ⟨_, hrun⟩ := course_reported
  obtain ⟨_, hrun'⟩ := course_reenabled
  obtain ⟨⟨ons, hcourse⟩, htold⟩ := sim_told_iff huntold rfl rfl hrun
  obtain ⟨⟨ons', hcourse'⟩, htold'⟩ := sim_told_iff huntold rfl rfl hrun'
  have hreported : SimTold 0 reported.state := ⟨by rfl, by unfold Event.InTurn; decide +kernel⟩
  refine ⟨huntold, ⟨ons, hcourse, (htold ons hcourse).mp hreported⟩, ons', hcourse', ?_⟩
  by_contra hnone
  exact not_simTold_reenabled ((htold' ons' hcourse').mpr fun on hon there => hnone ⟨on, hon, there⟩)

/-- A modem whose SIM stays in is switched off and on: what has been told is not so any more, and when
the modem reports its SIM again, it is told again that it has come. -/
theorem told_twice :
    (∃ given, Machine.Course (Routine.OfClient (Demand 0)) willing given reenabled) ∧
    ¬ SimTold 0 reenabled.state ∧
    Event.insertions (reenabled.feed (Simulator.Input.line "#QSS: 1")).state.events = [true, true] :=
  ⟨course_reenabled, not_simTold_reenabled, by rfl⟩

end Modem

end CellModem
