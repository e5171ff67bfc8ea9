import Mathlib.Logic.Relation
import CellModem.Core
import CellModem.Presence.Watcher

/-!
# The watcher, the core and the device

A device comes and goes, and every change is told to the watcher by an event. The watcher hands
actions over to the core. All three take their steps one at a time and in any order; each time the
watcher reads or writes something is a step of its own. The core handles an action in one step.
-/

namespace CellModem

/-- What becomes of the presence state once the device has been followed. -/
def Presence.of (present : Bool) : Presence := if present then .attached else .detached

theorem Presence.of_not_ne (b : Bool) : Presence.of (!b) ≠ .of b := by
  cases b <;> decide

theorem Presence.of_inj {a b : Bool} (h : Presence.of a = .of b) : a = b := by
  cases a <;> cases b <;> first | rfl | cases h

namespace PresenceAction

/-- Whether the device is there when the action is right. -/
def present : PresenceAction → Bool
  | .create => true
  | .remove => false

def halfWay : PresenceAction → Presence
  | .create => .attaching
  | .remove => .detaching

def whenPresent (present : Bool) : PresenceAction := if present then .create else .remove

@[simp] theorem present_whenPresent (b : Bool) : (whenPresent b).present = b := by
  cases b <;> rfl

end PresenceAction

/-! ## The core -/

namespace Core

variable {C : Type → Type} [Channel C] {υ : Type}

/-- Whether there is a modem. -/
def hasModem (c : Core C υ) : Bool := c.modem.isSome

section

variable (c : Core C υ) (channel : C (Resume (Host υ)))

@[simp] theorem addModem_present : (c.addModem channel).present = c.present := rfl

@[simp] theorem addModem_failing : (c.addModem channel).failing = c.failing := rfl

@[simp] theorem addModem_presence : (c.addModem channel).presence = c.presence := rfl

@[simp] theorem addModem_hasModem : (c.addModem channel).hasModem = true := rfl

@[simp] theorem dropModem_present : c.dropModem.present = c.present := by
  unfold dropModem
  cases c.modem <;> rfl

@[simp] theorem dropModem_failing : c.dropModem.failing = c.failing := by
  unfold dropModem
  cases c.modem <;> rfl

@[simp] theorem dropModem_presence : c.dropModem.presence = c.presence := by
  unfold dropModem
  cases c.modem <;> rfl

@[simp] theorem dropModem_hasModem : c.dropModem.hasModem = false := by
  unfold dropModem hasModem
  cases hmodem : c.modem with
  | none => simp [hmodem]
  | some number => rfl

end

theorem createModem_eq (c : Core C υ) (reliable : c.failing = 0) :
    c.createModem =
      if c.present = false then { c with presence := .detached }
      else if c.hasModem = true ∨ c.presence ≠ .attached then c
      else addModem { c with opens := c.opens + 1 } c.fresh := by
  have hopen : c.openChannel = (some c.fresh, { c with opens := c.opens + 1 }) := by
    simp [openChannel, reliable]
  unfold createModem hasModem
  rw [hopen]
  cases c.present <;> rfl

/-- What an action does to a core that can open channels. An action that the device does not bear out
sets the presence state right; otherwise it is carried out if the presence state bears it out. -/
theorem handle_cases (c : Core C υ) (reliable : c.failing = 0) (a : PresenceAction) :
    (c.handle a).present = c.present ∧ (c.handle a).failing = 0 ∧
    (c.handle a).presence = (if c.present = a.present then c.presence else .of c.present) ∧
    (c.handle a).hasModem =
      (if c.present = a.present ∧ c.presence = .of c.present then c.present else c.hasModem) := by
  cases a with
  | create =>
    rw [handle, createModem_eq c reliable]
    cases hpresent : c.present with
    | false => simp [reliable, PresenceAction.present, Presence.of, hasModem]
    | true =>
      by_cases hattached : c.presence = .attached
      · cases hmodem : c.hasModem with
        | true => simp [hpresent, hmodem, hattached, reliable, PresenceAction.present, Presence.of]
        | false => simp [hattached, reliable, PresenceAction.present, Presence.of]
      · simp [hpresent, hattached, reliable, PresenceAction.present, Presence.of]
  | remove =>
    unfold handle removeModem
    cases hpresent : c.present with
    | true => simp [reliable, PresenceAction.present, Presence.of, hasModem]
    | false =>
      by_cases hdetached : c.presence = .detached
      · simp [hdetached, hpresent, reliable, PresenceAction.present, Presence.of]
      · simp [hpresent, reliable, hdetached, PresenceAction.present, Presence.of]

end Core

/-! ## The watcher -/

/-- Where the watcher is between two of its steps. -/
inductive Watch where
  /-- It has yet to look for the device for the first time. -/
  | starting
  | idle
  /-- It lets the device settle before it looks. -/
  | waiting
  /-- It has forgotten the events that came in meanwhile. -/
  | ready
  /-- It has looked at the device, but not yet at the presence state. -/
  | seen (present : Bool)
  | decided (action : PresenceAction)
  /-- The presence state is half the way; it waits once more. -/
  | moving (action : PresenceAction)
  /-- The presence state is all the way; the action is to be handed over. -/
  | handing (action : PresenceAction)
  deriving DecidableEq

namespace Watch

/-- What follows from the device and the presence state. -/
def decide (present : Bool) (p : Presence) : Watch :=
  match (Watcher.judge present p).1 with
  | .opening => .decided .create
  | .closing => .decided .remove
  | _ => .idle

theorem decide_eq (present : Bool) (p : Presence) :
    decide present p = if p = .of !present then .decided (.whenPresent present) else .idle := by
  cases present <;> cases p <;> rfl

/-- Where a watcher is at the beginning of a wait. -/
def ofWatcher : Watcher → Watch
  | .idle | .stopped => .idle
  | .detecting => .waiting
  | .opening => .moving .create
  | .closing => .moving .remove

end Watch

/-! ## All together -/

structure Site (C : Type → Type) (υ : Type) where
  core : Core C υ
  watch : Watch
  /-- How many events the watcher has yet to take. -/
  events : Nat
  /-- The actions the core has yet to handle. -/
  actions : List PresenceAction

namespace Site

variable {C : Type → Type} [Channel C] {υ : Type}

/-- Nothing has happened yet. The device may be there already. -/
def opened (model : Model) (host : Host υ) (channel : C (Resume (Host υ))) (present : Bool) :
    Site C υ :=
  ⟨{ Core.initial model host channel with present := present }, .starting, 0, []⟩

/-- The device comes or goes. -/
def change (s : Site C υ) : Site C υ :=
  { s with core := { s.core with present := !s.core.present }, events := s.events + 1 }

def setPresence (s : Site C υ) (p : Presence) : Site C υ :=
  { s with core := { s.core with presence := p } }

/-- The steps of the watcher and of the core. -/
inductive Move : Site C υ → Site C υ → Prop where
  | scan (s : Site C υ) (at_ : s.watch = .starting) :
    Move s { s with watch := if s.core.present then .waiting else .idle }
  | wake (s : Site C υ) (at_ : s.watch = .idle) (told : 0 < s.events) :
    Move s { s with watch := .waiting, events := s.events - 1 }
  | forget (s : Site C υ) (at_ : s.watch = .waiting) : Move s { s with watch := .ready, events := 0 }
  | look (s : Site C υ) (at_ : s.watch = .ready) : Move s { s with watch := .seen s.core.present }
  | judge (s : Site C υ) (present : Bool) (at_ : s.watch = .seen present) :
    Move s { s with watch := .decide present s.core.presence }
  | set (s : Site C υ) (action : PresenceAction) (at_ : s.watch = .decided action) :
    Move s { s.setPresence action.halfWay with watch := .moving action }
  | arrive (s : Site C υ) (action : PresenceAction) (at_ : s.watch = .moving action) :
    Move s { s.setPresence (.of action.present) with watch := .handing action }
  | hand (s : Site C υ) (action : PresenceAction) (at_ : s.watch = .handing action) :
    Move s { s with watch := .idle, actions := s.actions ++ [action] }
  | handle (s : Site C υ) (action : PresenceAction) (actions : List PresenceAction)
    (next : s.actions = action :: actions) :
    Move s { s with core := s.core.handle action, actions := actions }
  /-- The core does something else with its modem. -/
  | work (s : Site C υ) (machine : Machine C (Host υ)) :
    Move s { s with core := { s.core with machine := machine } }

inductive Step : Site C υ → Site C υ → Prop where
  | move (s t : Site C υ) (move : Move s t) : Step s t
  | change (s : Site C υ) : Step s s.change

abbrev Run : Site C υ → Site C υ → Prop := Relation.ReflTransGen Step

/-- A run in which the device stays as it is. -/
abbrev Calm : Site C υ → Site C υ → Prop := Relation.ReflTransGen Move

/-- A step that is not a look while an action waits to be handled. The look is what takes the watcher
on from where it is ready. -/
def Timely (s t : Site C υ) : Prop :=
  Step s t ∧ (s.watch = .ready → t.watch ≠ .ready → s.actions = [])

theorem Calm.run {s t : Site C υ} (calm : Calm s t) : Run s t :=
  Relation.ReflTransGen.mono (fun _ _ => Step.move _ _) _ _ calm

/-- Nothing is under way. -/
def AtRest (s : Site C υ) : Prop := s.watch = .idle ∧ s.events = 0 ∧ s.actions = []

/-- Undisturbed, the small steps of the watcher come to its large ones. -/
theorem watcher_step (s : Site C υ) (w : Watcher) (input : Watcher.Input) (running : w ≠ .stopped)
    (at_ : s.watch = .ofWatcher w)
    (fits : input = .elapsed s.core.present ∧ w ≠ .idle ∨ input = .event ∧ w = .idle ∧ 0 < s.events) :
    ∃ t, Calm s t ∧ t.watch = .ofWatcher (w.step s.core.presence input).1 ∧
      t.core.presence = (w.step s.core.presence input).2.1 ∧
      t.actions = s.actions ++ (w.step s.core.presence input).2.2.toList ∧
      t.core.present = s.core.present := by
  cases w with
  | stopped => exact absurd rfl running
  | idle =>
    obtain ⟨-, hidle⟩ | ⟨rfl, -, htold⟩ := fits
    · exact absurd rfl hidle
    · exact ⟨_, .single (.wake s at_ htold), rfl, rfl, (List.append_nil _).symm, rfl⟩
  | detecting =>
    obtain ⟨rfl, -⟩ | ⟨-, hidle, -⟩ := fits
    · have hlooked := Relation.ReflTransGen.refl.tail (Move.forget s at_) |>.tail (.look _ rfl)
      have hjudged := hlooked.tail (.judge _ s.core.present rfl)
      dsimp only at hjudged
      cases hpresent : s.core.present <;> cases hp : s.core.presence <;>
        rw [hpresent, hp] at hjudged
      case true.detached | false.attached =>
        exact ⟨_, hjudged.tail (.set _ _ rfl), rfl, rfl, (List.append_nil _).symm, hpresent⟩
      all_goals exact ⟨_, hjudged, rfl, hp, (List.append_nil _).symm, hpresent⟩
    · cases hidle
  | opening =>
    obtain ⟨rfl, -⟩ | ⟨-, hidle, -⟩ := fits
    · have harrived := Relation.ReflTransGen.refl.tail (Move.arrive s .create at_)
      exact ⟨_, harrived.tail (.hand _ .create rfl), rfl, rfl, rfl, rfl⟩
    · cases hidle
  | closing =>
    obtain ⟨rfl, -⟩ | ⟨-, hidle, -⟩ := fits
    · have harrived := Relation.ReflTransGen.refl.tail (Move.arrive s .remove at_)
      exact ⟨_, harrived.tail (.hand _ .remove rfl), rfl, rfl, rfl, rfl⟩
    · cases hidle

end Site

end CellModem
