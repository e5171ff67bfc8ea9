import Mathlib.Data.List.Chain
import CellModem.Proofs.Presence.Site

/-!
# A watcher with the presence state to itself

The device comes and goes, events come in whatever the device does, and the watcher can be stopped at
any time. It forgets the events and looks at the device and at the presence state in one step: nobody
else writes that state, and an event that comes in between might as well come in right behind.
-/

namespace CellModem

inductive DeviceEvent where
  | created
  | deleted
  deriving DecidableEq, Repr

namespace Watcher

/-- Where the watcher waits before it hands the action over. -/
def moving : PresenceAction → Watcher
  | .create => .opening
  | .remove => .closing

theorem moving_inj {a b : PresenceAction} (h : moving a = moving b) : a = b := by
  cases a <;> cases b <;> first | rfl | cases h

theorem moving_ne (a : PresenceAction) :
    moving a ≠ .idle ∧ moving a ≠ .detecting ∧ moving a ≠ .stopped := by
  cases a <;> decide

theorem judge_eq (present : Bool) (p : Presence) :
    judge present p = if p = .of !present then
      (moving (.whenPresent present), (PresenceAction.whenPresent present).halfWay)
    else (.idle, p) := by
  cases present <;> cases p <;> rfl

theorem step_moving (a : PresenceAction) (p : Presence) (present : Bool) :
    (moving a).step p (.elapsed present) = (.idle, .of a.present, some a) := by
  cases a <;> rfl

theorem step_leaving (w : Watcher) (p : Presence) {input : Input}
    (leaving : input = .shutdown ∨ input = .abandoned) : w.step p input = (.stopped, p, none) := by
  rcases leaving with rfl | rfl <;> cases w <;> rfl

end Watcher

/-! ## What goes on record -/

inductive Note where
  | told (event : DeviceEvent)
  /-- The watcher has looked at the device and at the presence state. -/
  | looked (present : Bool) (presence : Presence)
  /-- It has handed an action over, with the presence state as it is by then. -/
  | handed (action : PresenceAction) (presence : Presence)
  deriving DecidableEq, Repr

namespace Note

def isTold : Note → Bool
  | .told _ => true
  | _ => false

def action? : Note → Option PresenceAction
  | .handed action _ => some action
  | _ => none

/-- How many events have come in. -/
def received (log : List Note) : Nat := log.countP isTold

def actions (log : List Note) : List PresenceAction := log.filterMap action?

/-- The last action handed over. Before the first one the device counts as gone. -/
def latest (log : List Note) : PresenceAction := (actions log).getLast?.getD .remove

/-- Each action is another than the one before, and the first one is to create. -/
def InTurn (log : List Note) : Prop := (PresenceAction.remove :: actions log).IsChain (· ≠ ·)

/-- The last look found the device as the action takes it to be, and the presence state as it was
before; nothing has been done about it yet. -/
def Due (action : PresenceAction) (log : List Note) : Prop :=
  ∃ earlier since, log = earlier ++ .looked action.present (.of !action.present) :: since ∧
    ∀ n ∈ since, n.isTold = true

/-- Each action was due when it was handed over, with the presence state that goes with it. -/
def BorneOut (log : List Note) : Prop :=
  ∀ before action presence behind, log = before ++ .handed action presence :: behind →
    presence = .of action.present ∧ Due action before

section

variable {log : List Note} {action : PresenceAction}

@[simp] theorem received_concat (log : List Note) (n : Note) :
    received (log ++ [n]) = received log + if n.isTold then 1 else 0 := by
  simp [received, List.countP_cons]

@[simp] theorem actions_concat (log : List Note) (n : Note) :
    actions (log ++ [n]) = actions log ++ n.action?.toList := by
  unfold actions
  cases h : n.action? <;> simp [h]

@[simp] theorem latest_concat (log : List Note) (n : Note) :
    latest (log ++ [n]) = n.action?.getD (latest log) := by
  unfold latest
  cases h : n.action? <;> simp [h]

theorem InTurn.concat {n : Note} (h : InTurn log) (new : ∀ a, n.action? = some a → latest log ≠ a) :
    InTurn (log ++ [n]) := by
  unfold InTurn at h ⊢
  rw [actions_concat, ← List.cons_append, List.isChain_append, List.getLast?_cons]
  refine ⟨h, by cases n.action? <;> simp, ?_⟩
  intro a ha b hb
  cases haction : n.action? with
  | none => simp [haction] at hb
  | some c =>
    simp only [haction, Option.toList_some, List.head?_cons, Option.mem_some_iff] at hb
    rw [← Option.mem_some_iff.mp ha, ← hb]
    exact new c haction

theorem Due.told (h : Due action log) (e : DeviceEvent) : Due action (log ++ [.told e]) := by
  obtain ⟨earlier, since, rfl, hsince⟩ := h
  refine ⟨earlier, since ++ [.told e], by simp, ?_⟩
  intro n hn
  rcases List.mem_append.mp hn with hn | hn
  · exact hsince n hn
  · rw [List.mem_singleton.mp hn]
    rfl

theorem due_looked (log : List Note) (present : Bool) :
    Due (.whenPresent present) (log ++ [.looked present (.of !present)]) := by
  refine ⟨log, [], ?_, nofun⟩
  rw [PresenceAction.present_whenPresent]

theorem BorneOut.concat {n : Note} (h : BorneOut log)
    (new : ∀ a p, n = .handed a p → p = .of a.present ∧ Due a log) : BorneOut (log ++ [n]) := by
  intro before a p behind hlog
  rcases List.eq_nil_or_concat behind with rfl | ⟨behind, last, rfl⟩
  · obtain ⟨rfl, hn⟩ := List.append_inj' hlog rfl
    exact new a p (List.singleton_inj.mp hn)
  · rw [List.concat_eq_append, ← List.cons_append, ← List.append_assoc] at hlog
    exact h before a p behind (List.append_inj' hlog rfl).1

end

end Note

/-! ## The watcher at work -/

structure Vigil where
  watcher : Watcher
  presence : Presence
  /-- Whether the device is there. -/
  present : Bool
  /-- What the watcher has yet to take. -/
  events : List DeviceEvent
  log : List Note

namespace Vigil

open Note

def advance (v : Vigil) (input : Watcher.Input) : Vigil :=
  match v.watcher.step v.presence input with
  | (w, p, none) => { v with watcher := w, presence := p }
  | (w, p, some action) =>
    { v with watcher := w, presence := p, log := v.log ++ [.handed action p] }

/-- Its wait is over, but nobody takes the action any more. -/
def unheard (v : Vigil) : Vigil :=
  match v.watcher.step v.presence (.elapsed v.present) with
  | (w, p, _) => { v with watcher := (w.step p .abandoned).1, presence := p }

/-- It has looked for the device for the first time. Events may have come in before. -/
def opened (present : Bool) (events : List DeviceEvent) : Vigil :=
  let v : Vigil := ⟨.idle, .detached, present, events, events.map .told⟩
  if present then v.advance .event else v

/-- It forgets the events and looks at the device and at the presence state. -/
def look (v : Vigil) : Vigil :=
  { v with events := [], log := v.log ++ [.looked v.present v.presence] }

inductive Step : Vigil → Vigil → Prop where
  | change (v : Vigil) : Step v { v with present := !v.present }
  | tell (v : Vigil) (e : DeviceEvent) :
    Step v { v with events := v.events ++ [e], log := v.log ++ [.told e] }
  | take (v : Vigil) (e : DeviceEvent) (rest : List DeviceEvent) (idle : v.watcher = .idle)
    (next : v.events = e :: rest) : Step v ({ v with events := rest }.advance .event)
  | look (v : Vigil) (detecting : v.watcher = .detecting) :
    Step v (v.look.advance (.elapsed v.present))
  | hand (v : Vigil) (action : PresenceAction) (moving : v.watcher = .moving action) :
    Step v (v.advance (.elapsed v.present))
  | unheard (v : Vigil) (action : PresenceAction) (moving : v.watcher = .moving action) :
    Step v v.unheard
  /-- It is told to stop. -/
  | stop (v : Vigil) : Step v (v.advance .shutdown)
  /-- There are no more events to come. -/
  | close (v : Vigil) (idle : v.watcher = .idle) (none : v.events = []) :
    Step v (v.advance .abandoned)

abbrev Run : Vigil → Vigil → Prop := Relation.ReflTransGen Step

theorem advance_event {v : Vigil} (idle : v.watcher = .idle) :
    v.advance .event = { v with watcher := .detecting } := by
  unfold advance
  rw [idle]
  rfl

theorem advance_detecting {v : Vigil} (detecting : v.watcher = .detecting) (present : Bool) :
    v.advance (.elapsed present) = if v.presence = .of !present then
      { v with
        watcher := .moving (.whenPresent present)
        presence := (PresenceAction.whenPresent present).halfWay }
    else { v with watcher := .idle } := by
  have hstep : v.watcher.step v.presence (.elapsed present) =
      ((Watcher.judge present v.presence).1, (Watcher.judge present v.presence).2, none) := by
    rw [detecting]
    rfl
  unfold advance
  rw [hstep, Watcher.judge_eq]
  by_cases hnews : v.presence = .of !present
  · rw [if_pos hnews, if_pos hnews]
  · rw [if_neg hnews, if_neg hnews]

theorem advance_moving {v : Vigil} {action : PresenceAction} (moving : v.watcher = .moving action)
    (present : Bool) : v.advance (.elapsed present) =
      { v with
        watcher := .idle
        presence := .of action.present
        log := v.log ++ [.handed action (.of action.present)] } := by
  unfold advance
  rw [moving, Watcher.step_moving]

theorem unheard_eq {v : Vigil} {action : PresenceAction} (moving : v.watcher = .moving action) :
    v.unheard = { v with watcher := .stopped, presence := .of action.present } := by
  unfold unheard
  rw [moving, Watcher.step_moving]
  rfl

theorem advance_leaving (v : Vigil) {input : Watcher.Input}
    (leaving : input = .shutdown ∨ input = .abandoned) :
    v.advance input = { v with watcher := .stopped } := by
  unfold advance
  rw [Watcher.step_leaving _ _ leaving]

theorem opened_eq (present : Bool) (events : List DeviceEvent) : opened present events =
    ⟨if present then .detecting else .idle, .detached, present, events, events.map .told⟩ := by
  cases present <;> rfl

/-! ## What every step keeps -/

/-- How many actions the watcher may come to before it takes the next event. -/
def underway (v : Vigil) : Nat :=
  match v.watcher with
  | .idle | .stopped => 0
  | .detecting | .opening | .closing => 1

theorem underway_moving {v : Vigil} {action : PresenceAction} (moving : v.watcher = .moving action) :
    v.underway = 1 := by
  unfold underway
  rw [moving]
  cases action <;> rfl

/-- `first` is whether the device was there at the first look for it. -/
structure Regular (first : Bool) (v : Vigil) : Prop where
  turns : InTurn v.log
  borne : BorneOut v.log
  agreed : v.watcher = .idle ∨ v.watcher = .detecting → v.presence = .of (latest v.log).present
  due : ∀ action, v.watcher = .moving action → latest v.log ≠ action ∧ Due action v.log
  spent : (actions v.log).length + v.underway + v.events.length ≤ first.toNat + received v.log

variable {first : Bool} {v w : Vigil}

theorem regular_opened (first : Bool) (events : List DeviceEvent) :
    (opened first events).Regular first := by
  have hactions : actions (events.map .told) = [] := by
    simp [actions, List.filterMap_eq_nil_iff, action?]
  have hreceived : received (events.map .told) = events.length := by
    simp [received, List.countP_map, isTold, Function.comp_def]
  rw [opened_eq]
  refine ⟨?_, ?_, ?_, ?_, ?_⟩
  · simp [InTurn, hactions]
  · intro before action presence behind hlog
    have hmem : Note.handed action presence ∈ before ++ .handed action presence :: behind := by simp
    rw [← hlog] at hmem
    simp at hmem
  · intro _
    simp only [latest, hactions]
    rfl
  · intro action hmoving
    cases first with
    | false => exact absurd hmoving.symm (Watcher.moving_ne action).1
    | true => exact absurd hmoving.symm (Watcher.moving_ne action).2.1
  · cases first <;> simp [hactions, hreceived, underway]

/-- Once it is stopped, nothing is under way. -/
theorem Regular.stopped (h : v.Regular first) (p : Presence) :
    Regular first { v with watcher := .stopped, presence := p } where
  turns := h.turns
  borne := h.borne
  agreed := nofun
  due action hmoving := absurd hmoving.symm (Watcher.moving_ne action).2.2
  spent := by
    have hspent := h.spent
    simp only [underway] at hspent ⊢
    omega

theorem Regular.tell (h : v.Regular first) (e : DeviceEvent) :
    Regular first { v with events := v.events ++ [e], log := v.log ++ [.told e] } where
  turns := h.turns.concat nofun
  borne := h.borne.concat nofun
  agreed hat := by simpa [action?] using h.agreed hat
  due action hmoving := by
    obtain ⟨hlatest, hdue⟩ := h.due action hmoving
    exact ⟨by simpa [action?] using hlatest, hdue.told e⟩
  spent := by
    have hspent := h.spent
    simp [underway, action?, isTold] at hspent ⊢
    omega

theorem Regular.take (h : v.Regular first) {e : DeviceEvent} {rest : List DeviceEvent}
    (idle : v.watcher = .idle) (next : v.events = e :: rest) :
    Regular first { v with watcher := .detecting, events := rest } where
  turns := h.turns
  borne := h.borne
  agreed _ := h.agreed (.inl idle)
  due action hmoving := absurd hmoving.symm (Watcher.moving_ne action).2.1
  spent := by
    have hspent := h.spent
    simp [underway, idle, next] at hspent ⊢
    omega

theorem Regular.look (h : v.Regular first) (detecting : v.watcher = .detecting) :
    Regular first (v.look.advance (.elapsed v.present)) := by
  have hagreed := h.agreed (.inr detecting)
  have hspent := h.spent
  have hturns : InTurn v.look.log := h.turns.concat nofun
  have hborne : BorneOut v.look.log := h.borne.concat nofun
  have hunderway : v.underway = 1 := by simp [underway, detecting]
  have hlength : (actions v.look.log).length + 1 ≤ first.toNat + received v.look.log := by
    simp [Vigil.look, action?, isTold]
    omega
  rw [advance_detecting (v := v.look) detecting]
  by_cases hnews : v.presence = .of !v.present
  · rw [if_pos (show v.look.presence = _ from hnews)]
    refine ⟨hturns, hborne, ?_, ?_, ?_⟩
    · intro hat
      simp [Watcher.moving_ne] at hat
    · intro action hmoving
      obtain rfl := Watcher.moving_inj hmoving
      have hlatest : (latest v.log).present = !v.present := Presence.of_inj (hagreed.symm.trans hnews)
      have hdue := due_looked v.log v.present
      rw [← hnews] at hdue
      refine ⟨?_, hdue⟩
      intro hsame
      simp [Vigil.look, action?] at hsame
      simp [hsame] at hlatest
    · rw [underway_moving rfl]
      exact hlength
  · rw [if_neg (show ¬ v.look.presence = _ from hnews)]
    refine ⟨hturns, hborne, ?_, ?_, ?_⟩
    · intro _
      simpa [Vigil.look, action?] using hagreed
    · intro action hmoving
      exact absurd hmoving.symm (Watcher.moving_ne action).1
    · exact Nat.le_of_succ_le hlength

theorem Regular.hand (h : v.Regular first) {action : PresenceAction}
    (moving : v.watcher = .moving action) :
    Regular first (v.advance (.elapsed v.present)) := by
  obtain ⟨hlatest, hdue⟩ := h.due action moving
  have hspent := h.spent
  rw [underway_moving moving] at hspent
  rw [advance_moving moving]
  refine ⟨?_, ?_, ?_, ?_, ?_⟩
  · apply h.turns.concat
    intro a ha
    rw [← Option.some.inj ha]
    exact hlatest
  · apply h.borne.concat
    intro a p hn
    obtain ⟨rfl, rfl⟩ := Note.handed.inj hn
    exact ⟨rfl, hdue⟩
  · simp [action?]
  · intro a hmoving
    exact absurd hmoving.symm (Watcher.moving_ne a).1
  · simp [underway, action?, isTold]
    omega

theorem regular_step (step : Step v w) (h : v.Regular first) : w.Regular first := by
  cases step with
  | change => exact ⟨h.turns, h.borne, h.agreed, h.due, h.spent⟩
  | tell e => exact h.tell e
  | take e rest idle next =>
    rw [advance_event (v := { v with events := rest }) idle]
    exact h.take idle next
  | look detecting => exact h.look detecting
  | hand action moving => exact h.hand moving
  | unheard action moving =>
    rw [unheard_eq moving]
    exact h.stopped _
  | stop =>
    rw [advance_leaving v (.inl rfl)]
    exact h.stopped _
  | close =>
    rw [advance_leaving v (.inr rfl)]
    exact h.stopped _

theorem regular_run (run : Run v w) (h : v.Regular first) : w.Regular first := by
  induction run with
  | refl => exact h
  | tail _ step ih => exact regular_step step ih

/-! ## Once it is stopped -/

theorem stopped_step (step : Step v w) (stopped : v.watcher = .stopped) :
    w.watcher = .stopped ∧ w.presence = v.presence ∧ actions w.log = actions v.log := by
  have hmoving (action : PresenceAction) : v.watcher ≠ .moving action := by
    rw [stopped]
    exact (Watcher.moving_ne action).2.2.symm
  cases step with
  | change => exact ⟨stopped, rfl, rfl⟩
  | tell e => exact ⟨stopped, rfl, by simp [action?]⟩
  | take e rest idle => simp [stopped] at idle
  | look detecting => simp [stopped] at detecting
  | hand action moving => exact absurd moving (hmoving action)
  | unheard action moving => exact absurd moving (hmoving action)
  | stop =>
    rw [advance_leaving v (.inl rfl)]
    exact ⟨rfl, rfl, rfl⟩
  | close idle => simp [stopped] at idle

theorem stopped_run (run : Run v w) (stopped : v.watcher = .stopped) :
    w.watcher = .stopped ∧ w.presence = v.presence ∧ actions w.log = actions v.log := by
  induction run with
  | refl => exact ⟨stopped, rfl, rfl⟩
  | tail _ step ih =>
    obtain ⟨hstopped, hpresence, hactions⟩ := ih
    obtain ⟨hstopped', hpresence', hactions'⟩ := stopped_step step hstopped
    exact ⟨hstopped', hpresence'.trans hpresence, hactions'.trans hactions⟩

/-- The actions are to create and to remove in turn. Each was due when it was handed over, and the
presence state had come all the way. There are at most as many as events have come in, and one more if
the device was there at first. Once the watcher has seen that it is to stop, it hands nothing over any
more and leaves the presence state as it is. -/
theorem actions_alternate (first : Bool) (events : List DeviceEvent) (v : Vigil)
    (run : Run (opened first events) v) :
    InTurn v.log ∧ BorneOut v.log ∧
    (actions v.log).length ≤ first.toNat + received v.log ∧
    ∀ u, Run (opened first events) u → Run (u.advance .shutdown) v →
      v.presence = u.presence ∧ actions v.log = actions u.log := by
  have hregular := regular_run run (regular_opened first events)
  have hspent := hregular.spent
  refine ⟨hregular.turns, hregular.borne, by omega, ?_⟩
  intro u _ hrun
  rw [advance_leaving u (.inl rfl)] at hrun
  exact (stopped_run hrun rfl).2

/-- The device came behind a wrong event and has gone again, and the watcher is about to say so. -/
def leaving : Vigil where
  watcher := .closing
  presence := .detaching
  present := false
  events := []
  log := [.told .deleted, .looked false .detached, .told .created, .looked true .detached,
    .handed .create .attached, .told .deleted, .looked false .attached]

theorem run_leaving : Run (opened false [.deleted]) leaving := by
  have hwrong : Run (opened false [.deleted]) _ :=
    Relation.ReflTransGen.refl.tail (.take _ .deleted [] rfl rfl) |>.tail (.look _ rfl)
  have hcame := hwrong.tail (.change _) |>.tail (.tell _ .created) |>.tail (.take _ _ _ rfl rfl)
    |>.tail (.look _ rfl) |>.tail (.hand _ .create rfl)
  exact hcame.tail (.change _) |>.tail (.tell _ .deleted) |>.tail (.take _ _ _ rfl rfl)
    |>.tail (.look _ rfl)

/-- Stopped while the device is going, the watcher leaves it at that. -/
theorem actions_alternate_leaving :
    Run (opened false [.deleted]) (leaving.advance .shutdown) ∧
      InTurn (leaving.advance .shutdown).log ∧ BorneOut (leaving.advance .shutdown).log ∧
      actions (leaving.advance .shutdown).log = [.create] ∧
      (leaving.advance .shutdown).presence = .detaching := by
  have hrun := run_leaving.tail (.stop _)
  obtain ⟨hturns, hborne, -, hstopped⟩ := actions_alternate false [.deleted] _ hrun
  obtain ⟨hpresence, hactions⟩ := hstopped leaving run_leaving .refl
  exact ⟨hrun, hturns, hborne, hactions, hpresence⟩

end Vigil

end CellModem
