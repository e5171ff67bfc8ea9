import Mathlib.Logic.Relation
import CellModem.Channel.Simulator
import CellModem.Proofs.Lifetime.BringUp
import CellModem.Proofs.Presence.Site

/-!
# One modem after the other

Whatever the core is asked for and whatever becomes of the device meanwhile, it has at most one
modem, and tells of each twice: when it is there, and when it is gone. Of a modem nobody else tells.
-/

namespace CellModem

variable {υ : Type}

namespace Host

/-- What is told of modems that are there or gone. -/
def modemEvents (h : Host υ) : List Event := h.events.filter Event.ofModem

/-- Nothing new is told of modems. -/
abbrev Quiet : Host υ → Host υ → Prop := Announces fun e => e.ofModem = false

theorem Announces.modemEvents {h h' : Host υ} (quiet : Quiet h h') :
    h'.modemEvents = h.modemEvents := by
  obtain ⟨added, hadded, hordinary⟩ := quiet.events
  have hnone : added.filter Event.ofModem = [] :=
    List.filter_eq_nil_iff.mpr fun e he => by rw [hordinary e he]; exact Bool.false_ne_true
  unfold Host.modemEvents
  rw [hadded, List.filter_append, hnone, List.append_nil]

theorem modemEvents_emit {h : Host υ} (listening : h.listening = true) {e : Event}
    (ofModem : e.ofModem = true) : (h.emit e).modemEvents = h.modemEvents ++ [e] := by
  unfold emit modemEvents
  rw [if_pos listening, List.filter_append, List.filter_cons_of_pos ofModem]
  rfl

end Host

/-! ## Bringing up and taking down tell nothing of modems -/

namespace Modem

open Host

theorem Upkeep.quiet {i : Nat} {h h' : Host υ} (upkeep : Upkeep i h h') : Quiet h h' := by
  cases upkeep with
  | work work => exact work.ordinary.announces
  | added f vendor => exact .nothing rfl rfl
  | bound f n d => exact (h.revised_bindInstance f n d).announces
  | installed places created => exact .nothing rfl rfl
  | removed => exact announces_removeFacilities i h

theorem tame_bringUp_quiet (i : Nat) (model : Model) :
    (bringUp i model : Step (Host υ) Unit).run.Tame Quiet Anything :=
  (tame_bringUp i model).mono fun _ _ => Upkeep.quiet

theorem tame_takeDown_quiet (i : Nat) :
    (takeDown i : Step (Host υ) Unit).run.Tame Quiet Anything :=
  (tame_takeDown i).mono fun _ _ => Upkeep.quiet

end Modem

/-- Code that tells nothing of modems, on whatever channel. -/
theorem Act.Tame.quiet {C : Type → Type} [Channel C] {act : Act (Host υ) Unit}
    (tame : act.Tame Host.Quiet Anything) (m : Machine C (Host υ)) :
    Host.Quiet m.state (m.start act).state := by
  have hstable : Stable Host.Quiet (Host.Quiet m.state) := fun _ _ hquiet hs => hs.trans hquiet
  have hkeeps : act.routine.Keeps (Host.Quiet m.state) Anything (Host.Quiet m.state) m.state :=
    tame.routine hstable hstable (fun _ hs => hs) (.nothing rfl rfl)
  exact hkeeps.exec

/-! ## The core -/

namespace Event

/-- What is told when `gone` modems have come and gone, and perhaps another has come. -/
def alternation (model : String) (gone : Nat) (there : Bool) : List Event :=
  (List.replicate gone [.modemAdded model, .modemRemoved]).flatten
    ++ if there then [.modemAdded model] else []

theorem alternation_added (model : String) (gone : Nat) :
    alternation model gone false ++ [.modemAdded model] = alternation model gone true := by
  unfold alternation
  simp

theorem alternation_removed (model : String) (gone : Nat) :
    alternation model gone true ++ [.modemRemoved] = alternation model (gone + 1) false := by
  unfold alternation
  simp [List.replicate_succ']

theorem getLast?_alternation (model : String) (gone : Nat) (there : Bool) :
    (alternation model gone there).getLast? = some (.modemAdded model) ↔ there = true := by
  cases there with
  | true => simp [alternation]
  | false =>
    cases gone with
    | zero => simp [alternation]
    | succ gone =>
      rw [← alternation_removed]
      simp

theorem count_alternation (model : String) (gone : Nat) :
    (alternation model gone false).count (.modemAdded model)
      = (alternation model gone false).count .modemRemoved := by
  induction gone with
  | zero => rfl
  | succ gone ih =>
    rw [← alternation_removed, ← alternation_added]
    simp [ih]

end Event

namespace Core

variable {C : Type → Type} {c : Core C υ}

/-- The core has told of its modems one after the other, up to the one it has. -/
structure Accounted (model : Model) (c : Core C υ) : Prop where
  same : c.model = model
  listening : c.machine.state.listening = true
  told : ∃ gone, c.machine.state.modemEvents = Event.alternation model.name gone c.hasModem

theorem Accounted.quiet {model : Model} (h : c.Accounted model) {c' : Core C υ}
    (quiet : c.machine.state.Quiet c'.machine.state) (hmodel : c'.model = c.model)
    (hmodem : c'.hasModem = c.hasModem) : c'.Accounted model where
  same := hmodel.trans h.same
  listening := quiet.listening.trans h.listening
  told := by
    obtain ⟨gone, htold⟩ := h.told
    exact ⟨gone, by rw [quiet.modemEvents, htold, hmodem]⟩

/-- What the core may do about its modem when it is asked for an action. -/
structure Minds (c c' : Core C υ) : Prop where
  opens : c'.opens = c.opens ∨ c'.opens = c.opens + 1 ∧
    c.hasModem = false ∧ c.present = true ∧ c.presence = .attached
  adds : c.hasModem = false → c'.hasModem = true → c'.opens = c.opens + 1
  removes : c.hasModem = true → c'.hasModem = false → c.present = false ∧ c.presence = .detached

theorem minds_of_same {c' : Core C υ} (hopens : c'.opens = c.opens)
    (hmodem : c'.hasModem = c.hasModem) : c.Minds c' where
  opens := .inl hopens
  adds hnone hthere := by
    rw [hmodem, hnone] at hthere
    cases hthere
  removes hthere hnone := by
    rw [hmodem, hthere] at hnone
    cases hnone

variable [Channel C]

theorem Accounted.addModem {model : Model} (h : c.Accounted model) (hnone : c.hasModem = false)
    (channel : C (Resume (Host υ))) : (c.addModem channel).Accounted model := by
  obtain ⟨gone, htold⟩ := h.told
  let added : Machine C (Host υ) :=
    ⟨channel, (c.machine.state.addModem c.model).2.emit (.modemAdded c.model.name)⟩
  have hbroughtUp : added.state.Quiet (c.addModem channel).machine.state := by
    have htame : (do
        let _ ← (Modem.bringUp (c.machine.state.addModem c.model).1 c.model).run :
        Act (Host υ) Unit).Tame Host.Quiet Anything :=
      (Modem.tame_bringUp_quiet _ _).bind fun _ => (Act.prompt_pure _).tame
    exact htame.quiet added
  have hadded : added.state.modemEvents = Event.alternation model.name gone true := by
    have hemitted := Host.modemEvents_emit (h := (c.machine.state.addModem c.model).2)
      (e := .modemAdded c.model.name) h.listening rfl
    rw [hnone] at htold
    rw [← Event.alternation_added, ← htold]
    exact h.same ▸ hemitted
  have hlistening : added.state.listening = true := by
    have hkept : Host.Announces (fun _ => True) _ added.state :=
      Host.announces_emit (c.machine.state.addModem c.model).2 trivial
    exact hkept.listening.trans h.listening
  exact ⟨h.same, hbroughtUp.listening.trans hlistening,
    gone, hbroughtUp.modemEvents.trans hadded⟩

theorem Accounted.dropModem {model : Model} (h : c.Accounted model) :
    c.dropModem.Accounted model := by
  unfold Core.dropModem
  cases hmodem : c.modem with
  | none => exact h
  | some number =>
    obtain ⟨gone, htold⟩ := h.told
    have hthere : c.hasModem = true := by
      unfold hasModem
      rw [hmodem]
      rfl
    rw [hthere] at htold
    have htakenDown : c.machine.state.Quiet (c.machine.start do
        let _ ← (Modem.takeDown number).run).state := by
      have htame : (do
          let _ ← (Modem.takeDown number).run : Act (Host υ) Unit).Tame Host.Quiet Anything :=
        (Modem.tame_takeDown_quiet number).bind fun _ => (Act.prompt_pure _).tame
      exact htame.quiet c.machine
    have hlistening := htakenDown.listening.trans h.listening
    have htold' := Host.modemEvents_emit (e := .modemRemoved) hlistening rfl
    rw [htakenDown.modemEvents, htold, Event.alternation_removed] at htold'
    have hkept (h : Host υ) : h.Announces (fun _ => True) (h.emit .modemRemoved) :=
      h.announces_emit trivial
    exact ⟨h.same, (hkept _).listening.trans hlistening, gone + 1, htold'⟩

/-- A channel is opened only for a modem that there is not yet, of a device that is there and
attached. -/
theorem createModem_cases (c : Core C υ) :
    (∃ presence, c.createModem = { c with presence := presence }) ∨
    c.hasModem = false ∧ c.present = true ∧ c.presence = .attached ∧
      ((∃ failing, c.createModem =
          { c with presence := .detached, failing := failing, opens := c.opens + 1 }) ∨
        c.createModem = addModem { c with opens := c.opens + 1 } c.fresh) := by
  unfold createModem
  by_cases hpresent : c.present = true
  · rw [if_neg (by rw [hpresent]; decide)]
    by_cases hbusy : c.modem.isSome ∨ c.presence ≠ .attached
    · rw [if_pos hbusy]
      exact .inl ⟨c.presence, rfl⟩
    · rw [if_neg hbusy]
      obtain ⟨hmodem, hattached⟩ := not_or.mp hbusy
      refine .inr ⟨Bool.eq_false_iff.mpr hmodem, hpresent, Classical.not_not.mp hattached, ?_⟩
      unfold openChannel
      cases c.failing with
      | zero => exact .inr rfl
      | succ failing => exact .inl ⟨failing, rfl⟩
  · rw [if_pos (by rw [Bool.eq_false_iff.mpr hpresent]; rfl)]
    exact .inl ⟨.detached, rfl⟩

theorem removeModem_cases (c : Core C υ) :
    (∃ presence, c.removeModem = { c with presence := presence }) ∨
    c.present = false ∧ c.presence = .detached ∧ c.removeModem = c.dropModem := by
  unfold removeModem
  by_cases hpresent : c.present = true
  · rw [if_pos hpresent]
    exact .inl ⟨.attached, rfl⟩
  · rw [if_neg hpresent]
    by_cases hdetached : c.presence = .detached
    · rw [if_neg (not_not_intro hdetached)]
      exact .inr ⟨Bool.eq_false_iff.mpr hpresent, hdetached, rfl⟩
    · rw [if_pos hdetached]
      exact .inl ⟨c.presence, rfl⟩

@[simp] theorem dropModem_opens (c : Core C υ) : c.dropModem.opens = c.opens := by
  unfold dropModem
  cases c.modem <;> rfl

theorem handle_minds {model : Model} (h : c.Accounted model) (action : PresenceAction) :
    (c.handle action).Accounted model ∧ c.Minds (c.handle action) := by
  have hset (presence : Presence) (failing opens : Nat) :
      Accounted model { c with presence := presence, failing := failing, opens := opens } :=
    h.quiet (.nothing rfl rfl) rfl rfl
  cases action with
  | create =>
    rcases c.createModem_cases with ⟨presence, hcreated⟩ | ⟨hnone, hpresent, hattached, hopened⟩
    · rw [handle, hcreated]
      exact ⟨hset presence c.failing c.opens, minds_of_same rfl rfl⟩
    · rcases hopened with ⟨failing, hcreated⟩ | hcreated
      · rw [handle, hcreated]
        refine ⟨hset .detached failing (c.opens + 1),
          .inr ⟨rfl, hnone, hpresent, hattached⟩, fun _ _ => rfl, fun hthere => ?_⟩
        rw [hnone] at hthere
        cases hthere
      · rw [handle, hcreated]
        refine ⟨(hset c.presence c.failing (c.opens + 1)).addModem hnone c.fresh,
          .inr ⟨rfl, hnone, hpresent, hattached⟩, fun _ _ => rfl, fun hthere => ?_⟩
        rw [hnone] at hthere
        cases hthere
  | remove =>
    rcases c.removeModem_cases with ⟨presence, hremoved⟩ | ⟨habsent, hdetached, hremoved⟩
    · rw [handle, hremoved]
      exact ⟨hset presence c.failing c.opens, minds_of_same rfl rfl⟩
    · rw [handle, hremoved]
      refine ⟨h.dropModem, .inl c.dropModem_opens, fun _ hthere => ?_, fun _ _ =>
        ⟨habsent, hdetached⟩⟩
      rw [c.dropModem_hasModem] at hthere
      cases hthere

end Core

/-! ## The core at work -/

namespace CoreRuntime

variable {C : Type → Type} [Channel C]

/-- What happens to a core: it is asked for actions on either way, the way for actions is closed, it
is stopped, its surroundings change, or its modem and others do something that is not told of
modems. -/
inductive Step : CoreRuntime C υ → CoreRuntime C υ → Prop where
  | request (r : CoreRuntime C υ) (action : PresenceAction) : Step r (r.request action).2
  | send (r : CoreRuntime C υ) (action : PresenceAction) : Step r (r.send action).2
  | closeActions (r : CoreRuntime C υ) : Step r r.closeActions
  | shutdown (r : CoreRuntime C υ) : Step r r.shutdown
  | surroundings (r : CoreRuntime C υ) (present : Bool) (presence : Presence) (failing : Nat)
    (fresh : C (Resume (Host υ))) : Step r { r with core := { r.core with
      present := present, presence := presence, failing := failing, fresh := fresh } }
  | work (r : CoreRuntime C υ) (machine : Machine C (Host υ))
    (quiet : r.core.machine.state.Quiet machine.state) :
    Step r { r with core := { r.core with machine := machine } }

abbrev Run : CoreRuntime C υ → CoreRuntime C υ → Prop := Relation.ReflTransGen Step

/-- A core that has been stopped has no modem. -/
structure Sound (model : Model) (r : CoreRuntime C υ) : Prop where
  accounted : r.core.Accounted model
  stopped : r.running = false → r.core.hasModem = false

/-- The step is the one that stops the core. -/
def Stops (r r' : CoreRuntime C υ) : Prop := r.running = true ∧ r'.running = false

theorem request_minds {model : Model} {r : CoreRuntime C υ} (h : r.Sound model)
    (action : PresenceAction) :
    (r.request action).2.Sound model ∧ r.core.Minds (r.request action).2.core := by
  unfold request
  cases hrunning : r.running with
  | false => exact ⟨h, Core.minds_of_same rfl rfl⟩
  | true =>
    obtain ⟨haccounted, hminds⟩ := Core.handle_minds h.accounted action
    exact ⟨⟨haccounted, nofun⟩, hminds⟩

theorem step_minds {model : Model} {r r' : CoreRuntime C υ} (h : r.Sound model)
    (step : Step r r') : r'.Sound model ∧ (r.core.Minds r'.core ∨ r.Stops r' ∧
      r'.core.opens = r.core.opens ∧ r'.core.hasModem = false) := by
  cases step with
  | request action =>
    obtain ⟨hsound, hminds⟩ := request_minds h action
    exact ⟨hsound, .inl hminds⟩
  | send action =>
    unfold send
    split
    · obtain ⟨hsound, hminds⟩ := request_minds h action
      exact ⟨hsound, .inl hminds⟩
    · exact ⟨h, .inl (Core.minds_of_same rfl rfl)⟩
  | closeActions => exact ⟨⟨h.accounted, h.stopped⟩, .inl (Core.minds_of_same rfl rfl)⟩
  | shutdown =>
    unfold shutdown
    cases hrunning : r.running with
    | false => exact ⟨h, .inl (Core.minds_of_same rfl rfl)⟩
    | true =>
      have hnone := r.core.dropModem_hasModem
      exact ⟨⟨h.accounted.dropModem, fun _ => hnone⟩,
        .inr ⟨⟨hrunning, rfl⟩, r.core.dropModem_opens, hnone⟩⟩
  | surroundings present presence failing fresh =>
    exact ⟨⟨h.accounted.quiet (.nothing rfl rfl) rfl rfl, h.stopped⟩,
      .inl (Core.minds_of_same rfl rfl)⟩
  | work machine quiet =>
    exact ⟨⟨h.accounted.quiet quiet rfl rfl, h.stopped⟩, .inl (Core.minds_of_same rfl rfl)⟩

theorem run_sound {model : Model} {r r' : CoreRuntime C υ} (h : r.Sound model) (run : Run r r') :
    r'.Sound model := by
  induction run with
  | refl => exact h
  | tail _ step ih => exact (step_minds ih step).1

omit [Channel C] in
theorem initial_sound {model : Model} {host : Host υ} (channel : C (Resume (Host υ)))
    (listening : host.listening = true) (untold : host.modemEvents = []) :
    (start (Core.initial model host channel)).Sound model :=
  ⟨⟨rfl, listening, 0, untold⟩, fun _ => rfl⟩

theorem count_modemEvents (h : Host υ) {e : Event} (ofModem : e.ofModem = true) :
    h.events.count e = h.modemEvents.count e :=
  (List.count_filter ofModem).symm

/-- Whatever the core is asked for, and whatever happens around it: modems are told of one after the
other; there is one exactly when the last one told of has come; and once the core has been stopped,
all that have come have gone. A channel is opened only for a modem that there is not yet, of a device
that is there and attached. A modem goes only when the core is stopped, or when the device is not
there and detached. -/
theorem modems_alternate {model : Model} {host : Host υ} {channel : C (Resume (Host υ))}
    (listening : host.listening = true) (untold : host.modemEvents = []) {r : CoreRuntime C υ}
    (run : Run (start (Core.initial model host channel)) r) :
    let h := r.core.machine.state
    (∃ gone, h.modemEvents = Event.alternation model.name gone r.core.hasModem) ∧
    (r.core.hasModem = true ↔ h.modemEvents.getLast? = some (.modemAdded model.name)) ∧
    (r.running = false →
      h.events.count (.modemAdded model.name) = h.events.count .modemRemoved) ∧
    ∀ r', Step r r' →
      (r'.core.opens ≠ r.core.opens → r'.core.opens = r.core.opens + 1 ∧
        r.core.hasModem = false ∧ r.core.present = true ∧ r.core.presence = .attached) ∧
      (r.core.hasModem = false → r'.core.hasModem = true → r'.core.opens = r.core.opens + 1) ∧
      (r.core.hasModem = true → r'.core.hasModem = false →
        r.Stops r' ∨ r.core.present = false ∧ r.core.presence = .detached) := by
  intro h
  have hsound := run_sound (initial_sound channel listening untold) run
  obtain ⟨gone, htold⟩ := hsound.accounted.told
  refine ⟨⟨gone, htold⟩, ?_, fun hstopped => ?_, fun r' step => ?_⟩
  · rw [htold, Event.getLast?_alternation]
  · rw [hsound.stopped hstopped] at htold
    rw [count_modemEvents h rfl, count_modemEvents h rfl, htold, Event.count_alternation]
  · rcases (step_minds hsound step).2 with hminds | ⟨hstops, hopens, hnone⟩
    · refine ⟨fun hopened => ?_, hminds.adds, fun hthere hnone => .inr (hminds.removes hthere hnone)⟩
      exact hminds.opens.resolve_left hopened
    · refine ⟨fun hopened => absurd hopens hopened, fun _ hthere => ?_, fun _ _ => .inl hstops⟩
      rw [hnone] at hthere
      cases hthere

/-- The device is there, or is not, and the presence state says so. -/
def followed (r : CoreRuntime Simulator Unit) (present : Bool) : CoreRuntime Simulator Unit :=
  { r with core := { r.core with present := present, presence := .of present } }

/-- A modem comes, is asked to come once more, and goes; another comes, and the core is stopped. -/
def visited : CoreRuntime Simulator Unit :=
  let opened := start (Core.initial .telitSerial (Host.initial ()) Simulator.empty)
  let added := ((followed opened true).send .create).2
  let twice := (added.request .create).2
  let gone := ((followed twice false).send .remove).2
  let again := ((followed gone true).send .create).2
  again.shutdown

theorem modems_alternate_visited :
    (Host.initial ()).listening = true ∧ (Host.initial ()).modemEvents = [] ∧
    Run (start (Core.initial .telitSerial (Host.initial ()) Simulator.empty)) visited ∧
    visited.running = false ∧ visited.core.machine.state.modemEvents
      = [.modemAdded "telit_serial", .modemRemoved, .modemAdded "telit_serial", .modemRemoved] ∧
    visited.core.machine.state.events.count (.modemAdded "telit_serial")
      = visited.core.machine.state.events.count .modemRemoved := by
  have hfollowed (r : CoreRuntime Simulator Unit) (present : Bool) : Step r (followed r present) :=
    .surroundings r present (.of present) r.core.failing r.core.fresh
  have hrun : Run (start (Core.initial .telitSerial (Host.initial ()) Simulator.empty)) visited :=
    Relation.ReflTransGen.refl.tail (hfollowed _ true) |>.tail (.send _ .create)
      |>.tail (.request _ .create) |>.tail (hfollowed _ false) |>.tail (.send _ .remove)
      |>.tail (hfollowed _ true) |>.tail (.send _ .create) |>.tail (.shutdown _)
  obtain ⟨-, -, hcount, -⟩ := modems_alternate rfl rfl hrun
  exact ⟨rfl, rfl, hrun, rfl, by rfl, hcount rfl⟩

end CoreRuntime

end CellModem
