import CellModem.Channel.Script
import CellModem.Proofs.Presence.Site

/-!
# What the watcher and the core come to

At rest the presence state is that of the device. The modem is only sure to be there with the device
when the core handled every action before the watcher's next look, or when the last change of the
device came while all was at rest.
-/

namespace CellModem

/-- How many steps the watcher is from being idle, at most. -/
def Watch.rank : Watch → Nat
  | .idle => 0
  | .handing _ => 1
  | .moving _ => 2
  | .decided _ => 3
  | .seen _ => 4
  | .ready => 5
  | .waiting => 6
  | .starting => 7

namespace Site

variable {C : Type → Type} {υ : Type} {s t : Site C υ}

/-! ## The presence state -/

/-- What the watcher has found out is still so. -/
def Abreast (s : Site C υ) : Prop :=
  match s.watch with
  | .starting | .waiting | .ready => True
  | .idle => s.core.presence = .of s.core.present
  | .seen present => present = s.core.present
  | .decided action | .moving action => action.present = s.core.present
  | .handing action => action.present = s.core.present ∧ s.core.presence = .of s.core.present

structure Tracking (s : Site C υ) : Prop where
  reliable : s.core.failing = 0
  steady : (∀ action, s.watch ≠ .moving action) → ∃ present, s.core.presence = .of present
  fresh : s.watch = .starting →
    s.core.presence = .of false ∧ s.core.hasModem = false ∧ s.actions = []
  /-- Unless it has yet to be told of a change. -/
  abreast : s.events = 0 → s.Abreast

theorem tracking_opened (model : Model) (host : Host υ) (channel : C (Resume (Host υ)))
    (present : Bool) : (opened model host channel present).Tracking :=
  ⟨rfl, fun _ => ⟨false, rfl⟩, fun _ => ⟨rfl, rfl, rfl⟩, fun _ => trivial⟩

theorem Tracking.change (h : s.Tracking) : s.change.Tracking :=
  ⟨h.reliable, h.steady, h.fresh, fun hnone => absurd hnone (Nat.succ_ne_zero _)⟩

theorem Tracking.judge (h : s.Tracking) {present : Bool} (at_ : s.watch = .seen present) :
    Tracking { s with watch := .decide present s.core.presence } := by
  obtain ⟨p, hp⟩ := h.steady (by simp [at_])
  refine ⟨h.reliable, fun _ => ⟨p, hp⟩, fun hstarting => ?_, fun hnone => ?_⟩
  · rw [Watch.decide_eq] at hstarting
    split at hstarting <;> cases hstarting
  · have hseen := h.abreast hnone
    rw [Abreast, at_] at hseen
    unfold Abreast
    dsimp only
    rw [hp, Watch.decide_eq]
    by_cases hnews : Presence.of p = .of !present
    · rw [if_pos hnews]
      exact (PresenceAction.present_whenPresent present).trans hseen
    · rw [if_neg hnews]
      have hsame : p = present := by
        cases p <;> cases present <;> first | rfl | exact absurd rfl hnews
      exact congrArg Presence.of (hsame.trans hseen)

theorem Tracking.at_rest (h : s.Tracking) (rest : s.AtRest) :
    s.core.presence = .of s.core.present := by
  obtain ⟨hidle, hnone, -⟩ := rest
  have habreast := h.abreast hnone
  rwa [Abreast, hidle] at habreast

variable [Channel C]

theorem Tracking.handle (h : s.Tracking) {action : PresenceAction} {actions : List PresenceAction}
    (next : s.actions = action :: actions) :
    Tracking { s with core := s.core.handle action, actions := actions } := by
  obtain ⟨hpresent, hreliable, hpresence, -⟩ := s.core.handle_cases h.reliable action
  have hright : s.core.presence = .of s.core.present →
      (s.core.handle action).presence = .of s.core.present := by
    intro hp
    rw [hpresence, hp, ite_self]
  refine ⟨hreliable, fun hmoving => ?_, fun hstarting => ?_, fun hnone => ?_⟩
  · obtain ⟨present, hsteady⟩ := h.steady hmoving
    rw [hpresence]
    split
    · exact ⟨present, hsteady⟩
    · exact ⟨_, rfl⟩
  · obtain ⟨-, -, hempty⟩ := h.fresh hstarting
    rw [next] at hempty
    cases hempty
  · have habreast := h.abreast hnone
    unfold Abreast at habreast ⊢
    dsimp only
    rw [hpresent]
    cases hwatch : s.watch with
    | starting | waiting | ready => trivial
    | idle =>
      rw [hwatch] at habreast
      exact hright habreast
    | seen | decided | moving =>
      rw [hwatch] at habreast
      exact habreast
    | handing =>
      rw [hwatch] at habreast
      exact ⟨habreast.1, hright habreast.2⟩

theorem tracking_move (move : Move s t) (h : s.Tracking) : t.Tracking := by
  cases move with
  | scan at_ =>
    obtain ⟨hp, hmodem, hactions⟩ := h.fresh at_
    cases hpresent : s.core.present with
    | true => exact ⟨h.reliable, fun _ => ⟨false, hp⟩, nofun, fun _ => trivial⟩
    | false =>
      refine ⟨h.reliable, fun _ => ⟨false, hp⟩, nofun, fun _ => ?_⟩
      change s.core.presence = .of s.core.present
      rw [hp, hpresent]
  | wake at_ told => exact ⟨h.reliable, fun _ => h.steady (by simp [at_]), nofun, fun _ => trivial⟩
  | forget at_ => exact ⟨h.reliable, fun _ => h.steady (by simp [at_]), nofun, fun _ => trivial⟩
  | look at_ => exact ⟨h.reliable, fun _ => h.steady (by simp [at_]), nofun, fun _ => rfl⟩
  | judge present at_ => exact h.judge at_
  | set action at_ =>
    refine ⟨h.reliable, fun hmoving => absurd rfl (hmoving action), nofun, fun hnone => ?_⟩
    have hdecided := h.abreast hnone
    rwa [Abreast, at_] at hdecided
  | arrive action at_ =>
    refine ⟨h.reliable, fun _ => ⟨_, rfl⟩, nofun, fun hnone => ?_⟩
    have hmoving := h.abreast hnone
    rw [Abreast, at_] at hmoving
    exact ⟨hmoving, congrArg Presence.of hmoving⟩
  | hand action at_ =>
    refine ⟨h.reliable, fun _ => h.steady (by simp [at_]), nofun, fun hnone => ?_⟩
    have hhanding := h.abreast hnone
    rw [Abreast, at_] at hhanding
    exact hhanding.2
  | handle action actions next => exact h.handle next
  | work machine => exact ⟨h.reliable, h.steady, h.fresh, h.abreast⟩

theorem tracking_run (run : Run s t) (h : s.Tracking) : t.Tracking := by
  induction run with
  | refl => exact h
  | tail _ step ih =>
    cases step with
    | move _ move => exact tracking_move move ih
    | change => exact ih.change

/-! ## The modem of a core that is in time -/

/-- The core has handled everything, and the presence state says whether there is a modem. -/
def InStep (s : Site C υ) : Prop := s.actions = [] ∧ s.core.presence = .of s.core.hasModem

/-- The presence state is one action ahead of the modem. -/
def Ahead (s : Site C υ) : Prop := ∃ action, s.actions = [action] ∧
  s.core.presence = .of action.present ∧ s.core.hasModem = !action.present

def Matched (s : Site C υ) : Prop :=
  match s.watch with
  | .starting | .idle | .waiting | .ready => s.InStep ∨ s.Ahead
  | .seen _ => s.InStep
  | .decided action => s.InStep ∧ s.core.hasModem = !action.present
  | .moving action => s.actions = [] ∧ s.core.hasModem = !action.present
  | .handing action =>
    s.actions = [] ∧ s.core.presence = .of action.present ∧ s.core.hasModem = !action.present

theorem Ahead.handle (h : s.Ahead) (reliable : s.core.failing = 0) {action : PresenceAction}
    {actions : List PresenceAction} (next : s.actions = action :: actions) :
    InStep { s with core := s.core.handle action, actions := actions } := by
  obtain ⟨a, hactions, hp, hmodem⟩ := h
  rw [next] at hactions
  obtain ⟨rfl, rfl⟩ := List.cons.inj hactions
  obtain ⟨-, -, hpresence, hhas⟩ := s.core.handle_cases reliable action
  refine ⟨rfl, ?_⟩
  dsimp only
  rw [hpresence, hhas]
  by_cases hright : s.core.present = action.present
  · rw [if_pos hright, if_pos ⟨hright, by rw [hp, hright]⟩, hp, hright]
  · rw [if_neg hright, if_neg (fun h => hright h.1), hmodem]
    exact congrArg Presence.of (Bool.eq_not.mpr hright)

theorem matched_handle (h : s.Matched) (reliable : s.core.failing = 0) {action : PresenceAction}
    {actions : List PresenceAction} (next : s.actions = action :: actions) :
    Matched { s with core := s.core.handle action, actions := actions } := by
  have hbusy : s.actions ≠ [] := by simp [next]
  unfold Matched at h ⊢
  dsimp only
  cases hwatch : s.watch with
  | starting | idle | waiting | ready =>
    rw [hwatch] at h
    exact .inl ((h.resolve_left fun hin => hbusy hin.1).handle reliable next)
  | seen =>
    rw [hwatch] at h
    exact absurd h.1 hbusy
  | decided =>
    rw [hwatch] at h
    exact absurd h.1.1 hbusy
  | moving | handing =>
    rw [hwatch] at h
    exact absurd h.1 hbusy

theorem matched_step (step : Timely s t) (reliable : s.core.failing = 0) (h : s.Matched) :
    t.Matched := by
  obtain ⟨step, htimely⟩ := step
  cases step with
  | change => exact h
  | move _ move =>
    cases move with
    | scan at_ =>
      rw [Matched, at_] at h
      cases hpresent : s.core.present with
      | true => exact h
      | false => exact h
    | wake at_ | forget at_ =>
      rw [Matched, at_] at h
      exact h
    | look at_ =>
      rw [Matched, at_] at h
      refine h.resolve_right ?_
      rintro ⟨action, hactions, -⟩
      rw [htimely at_ Watch.noConfusion] at hactions
      cases hactions
    | judge present at_ =>
      rw [Matched, at_] at h
      unfold Matched
      dsimp only
      rw [Watch.decide_eq]
      by_cases hnews : s.core.presence = .of !present
      · rw [if_pos hnews]
        refine ⟨h, ?_⟩
        rw [PresenceAction.present_whenPresent]
        exact Presence.of_inj (h.2.symm.trans hnews)
      · rw [if_neg hnews]
        exact .inl h
    | set action at_ =>
      rw [Matched, at_] at h
      exact ⟨h.1.1, h.2⟩
    | arrive action at_ =>
      rw [Matched, at_] at h
      exact ⟨h.1, rfl, h.2⟩
    | hand action at_ =>
      rw [Matched, at_] at h
      obtain ⟨hnone, hp, hmodem⟩ := h
      exact .inr ⟨action, by simp [hnone], hp, hmodem⟩
    | handle action actions next => exact matched_handle h reliable next
    | work machine => exact h

theorem matched_run (run : Relation.ReflTransGen Timely s t) (tracking : s.Tracking)
    (h : s.Matched) : t.Matched := by
  have hboth : t.Tracking ∧ t.Matched := by
    induction run with
    | refl => exact ⟨tracking, h⟩
    | tail _ step ih =>
      have hkept := tracking_run (.single step.1) ih.1
      exact ⟨hkept, matched_step step ih.1.reliable ih.2⟩
  exact hboth.2

/-! ## One change that is left to settle -/

/-- On the way from one change of the device to rest. -/
def Following (s : Site C υ) : Prop :=
  match s.watch with
  | .starting => False
  | .idle =>
    (0 < s.events ∧ s.actions = [] ∧ s.core.presence = .of !s.core.present) ∨
    (s.events = 0 ∧ s.core.presence = .of s.core.present ∧
      (s.actions = [.whenPresent s.core.present] ∨
        s.actions = [] ∧ s.core.hasModem = s.core.present))
  | .waiting => s.actions = [] ∧ s.core.presence = .of !s.core.present
  | .ready => s.events = 0 ∧ s.actions = [] ∧ s.core.presence = .of !s.core.present
  | .seen present => s.events = 0 ∧ s.actions = [] ∧ s.core.presence = .of !s.core.present ∧
    present = s.core.present
  | .decided action | .moving action => s.events = 0 ∧ s.actions = [] ∧
    action = .whenPresent s.core.present
  | .handing action => s.events = 0 ∧ s.actions = [] ∧ s.core.presence = .of s.core.present ∧
    action = .whenPresent s.core.present

omit [Channel C] in
theorem following_change (tracking : s.Tracking) (rest : s.AtRest) : s.change.Following := by
  have hp := tracking.at_rest rest
  obtain ⟨hidle, hnone, hactions⟩ := rest
  have hpresent : s.core.presence = .of !(!s.core.present) := by rw [hp, Bool.not_not]
  unfold Following change
  dsimp only
  rw [hidle]
  exact .inl ⟨Nat.succ_pos _, hactions, hpresent⟩

theorem following_handle (h : s.Following) (reliable : s.core.failing = 0)
    {action : PresenceAction} {actions : List PresenceAction} (next : s.actions = action :: actions) :
    Following { s with core := s.core.handle action, actions := actions } := by
  have hbusy : s.actions ≠ [] := by simp [next]
  obtain ⟨hpresent, -, hpresence, hmodem⟩ := s.core.handle_cases reliable action
  unfold Following at h ⊢
  dsimp only
  cases hwatch : s.watch with
  | starting =>
    rw [hwatch] at h
    exact h
  | idle =>
    rw [hwatch] at h
    obtain ⟨-, hnone, -⟩ | ⟨hevents, hp, hactions | ⟨hnone, -⟩⟩ := h
    · exact absurd hnone hbusy
    · rw [next] at hactions
      obtain ⟨rfl, rfl⟩ := List.cons.inj hactions
      rw [PresenceAction.present_whenPresent] at hpresence hmodem
      rw [if_pos rfl] at hpresence
      rw [if_pos ⟨rfl, hp⟩] at hmodem
      rw [hpresent, hpresence]
      exact .inr ⟨hevents, hp, .inr ⟨rfl, hmodem⟩⟩
    · exact absurd hnone hbusy
  | waiting =>
    rw [hwatch] at h
    exact absurd h.1 hbusy
  | ready | seen | decided | moving | handing =>
    rw [hwatch] at h
    exact absurd h.2.1 hbusy

theorem following_move (move : Move s t) (reliable : s.core.failing = 0) (h : s.Following) :
    t.Following := by
  cases move with
  | scan at_ =>
    rw [Following, at_] at h
    exact h.elim
  | wake at_ told =>
    rw [Following, at_] at h
    obtain ⟨-, hactions⟩ | ⟨hnone, -⟩ := h
    · exact hactions
    · omega
  | forget at_ =>
    rw [Following, at_] at h
    exact ⟨rfl, h⟩
  | look at_ =>
    rw [Following, at_] at h
    exact ⟨h.1, h.2.1, h.2.2, rfl⟩
  | judge present at_ =>
    rw [Following, at_] at h
    obtain ⟨hevents, hactions, hp, rfl⟩ := h
    unfold Following
    dsimp only
    rw [Watch.decide_eq, if_pos hp]
    exact ⟨hevents, hactions, rfl⟩
  | set action at_ =>
    rw [Following, at_] at h
    exact h
  | arrive action at_ =>
    rw [Following, at_] at h
    obtain ⟨hevents, hactions, rfl⟩ := h
    refine ⟨hevents, hactions, ?_, rfl⟩
    exact congrArg Presence.of (PresenceAction.present_whenPresent _)
  | hand action at_ =>
    rw [Following, at_] at h
    obtain ⟨hevents, hactions, hp, rfl⟩ := h
    refine .inr ⟨hevents, hp, .inl ?_⟩
    dsimp only
    rw [hactions, List.nil_append]
  | handle action actions next => exact following_handle h reliable next
  | work machine => exact h

theorem following_run (calm : Calm s t) (tracking : s.Tracking) (h : s.Following) :
    t.Following := by
  have hboth : t.Tracking ∧ t.Following := by
    induction calm with
    | refl => exact ⟨tracking, h⟩
    | tail _ move ih => exact ⟨tracking_move move ih.1, following_move move ih.1.reliable ih.2⟩
  exact hboth.2

/-! ## Coming to rest -/

/-- How much is yet to be done. A round of the watcher is worth more than the action it ends in. -/
def effort (s : Site C υ) : Nat := 16 * s.events + 2 * s.watch.rank + s.actions.length

/-- Unless all is at rest, someone can take a step towards it. -/
theorem exists_move (s : Site C υ) : s.AtRest ∨ ∃ t, Move s t ∧ t.effort < s.effort := by
  unfold effort
  cases hwatch : s.watch with
  | idle =>
    by_cases htold : 0 < s.events
    · refine .inr ⟨_, .wake s hwatch htold, ?_⟩
      simp only [Watch.rank]
      omega
    · cases hactions : s.actions with
      | nil => exact .inl ⟨hwatch, by omega, hactions⟩
      | cons action actions =>
        refine .inr ⟨_, .handle s action actions hactions, ?_⟩
        simp [hwatch]
  | handing action =>
    refine .inr ⟨_, .hand s action hwatch, ?_⟩
    simp only [Watch.rank, List.length_append, List.length_singleton]
    omega
  | moving action =>
    refine .inr ⟨_, .arrive s action hwatch, ?_⟩
    simp only [Watch.rank, setPresence]
    omega
  | decided action =>
    refine .inr ⟨_, .set s action hwatch, ?_⟩
    simp only [Watch.rank, setPresence]
    omega
  | seen present =>
    refine .inr ⟨_, .judge s present hwatch, ?_⟩
    rw [Watch.decide_eq]
    split <;> simp only [Watch.rank] <;> omega
  | ready =>
    refine .inr ⟨_, .look s hwatch, ?_⟩
    simp only [Watch.rank]
    omega
  | waiting =>
    refine .inr ⟨_, .forget s hwatch, ?_⟩
    simp only [Watch.rank]
    omega
  | starting =>
    refine .inr ⟨_, .scan s hwatch, ?_⟩
    cases s.core.present <;> simp only [Watch.rank] <;> simp

/-- Left alone, all comes to rest. -/
theorem exists_rest (s : Site C υ) : ∃ t, Calm s t ∧ t.AtRest := by
  induction heffort : s.effort using Nat.strongRecOn generalizing s with
  | ind n ih =>
    subst heffort
    rcases s.exists_move with hrest | ⟨u, hmove, hless⟩
    · exact ⟨s, .refl, hrest⟩
    · obtain ⟨t, hcalm, hrest⟩ := ih u.effort hless u rfl
      exact ⟨t, .head hmove hcalm, hrest⟩

/-! ## At rest -/

/-- At rest the presence state is that of the device. So is the modem, if the core handled every
action before the watcher's next look; and it is again once one more change was left to settle, as
it can be. -/
theorem presence_follows_device (model : Model) (host : Host υ) (channel : C (Resume (Host υ)))
    (present : Bool) (s : Site C υ) (run : Run (opened model host channel present) s)
    (rest : s.AtRest) :
    s.core.presence = .of s.core.present ∧
    (Relation.ReflTransGen Timely (opened model host channel present) s →
      s.core.hasModem = s.core.present) ∧
    (∀ t, Calm s.change t → t.AtRest →
      t.core.hasModem = t.core.present ∧ t.core.presence = .of t.core.present) ∧
    ∃ t, Calm s.change t ∧ t.AtRest := by
  have hopened := tracking_opened model host channel present
  have htracking := tracking_run run hopened
  have hpresence := htracking.at_rest rest
  refine ⟨hpresence, fun timely => ?_, fun t calm rest' => ?_, exists_rest _⟩
  · have hmatched := matched_run timely hopened (.inl ⟨rfl, rfl⟩)
    obtain ⟨hidle, -, hactions⟩ := rest
    rw [Matched, hidle] at hmatched
    rcases hmatched with ⟨-, hp⟩ | ⟨action, hwaits, -⟩
    · exact Presence.of_inj (hp.symm.trans hpresence)
    · rw [hactions] at hwaits
      cases hwaits
  · have hfollowing := following_run calm htracking.change (following_change htracking rest)
    refine ⟨?_, (tracking_run calm.run htracking.change).at_rest rest'⟩
    obtain ⟨hidle, hevents, hactions⟩ := rest'
    rw [Following, hidle] at hfollowing
    obtain ⟨htold, -⟩ | ⟨-, -, hwaits | ⟨-, hmodem⟩⟩ := hfollowing
    · omega
    · rw [hactions] at hwaits
      cases hwaits
    · exact hmodem

/-! ## Runs on a working modem -/

/-- A round of the watcher that finds news. -/
theorem round_news (s : Site C υ) (idle : s.watch = .idle) (told : 0 < s.events)
    (news : s.core.presence = .of !s.core.present) :
    Calm s ⟨{ s.core with presence := .of s.core.present }, .idle, 0,
      s.actions ++ [.whenPresent s.core.present]⟩ := by
  have hlooked := Relation.ReflTransGen.refl.tail (Move.wake s idle told) |>.tail (.forget _ rfl)
    |>.tail (.look _ rfl)
  have hdecided := hlooked.tail (.judge _ s.core.present rfl)
  dsimp only at hdecided
  rw [Watch.decide_eq, if_pos news] at hdecided
  have harrived := hdecided.tail (.set _ _ rfl) |>.tail (.arrive _ _ rfl)
  rw [PresenceAction.present_whenPresent] at harrived
  exact harrived.tail (.hand _ _ rfl)

/-- A round of the watcher that finds nothing new. -/
theorem round_quiet (s : Site C υ) (idle : s.watch = .idle) (told : 0 < s.events)
    (quiet : s.core.presence = .of s.core.present) :
    Calm s { s with watch := .idle, events := 0 } := by
  have hlooked := Relation.ReflTransGen.refl.tail (Move.wake s idle told) |>.tail (.forget _ rfl)
    |>.tail (.look _ rfl)
  have hjudged := hlooked.tail (.judge _ s.core.present rfl)
  dsimp only at hjudged
  have hsame : ¬ s.core.presence = .of !s.core.present := by
    rw [quiet]
    exact (Presence.of_not_ne _).symm
  rwa [Watch.decide_eq, if_neg hsame] at hjudged

/-- A site without a device, and modems that answer everything. -/
def vacant : Site Simulator Unit := opened .telitSerial (.initial ()) .working false

/-- The device has come, and the core has created its modem. -/
def served : Site Simulator Unit :=
  ⟨Core.createModem { vacant.core with present := true, presence := .attached }, .idle, 0, []⟩

/-- The core is late, but not too late: it handles the action when the watcher, called once more, has
forgotten the events and has yet to look. -/
theorem served_timely : Relation.ReflTransGen Timely vacant served := by
  have htold : Relation.ReflTransGen Timely vacant _ :=
    .tail (.single ⟨.move _ _ (.scan vacant rfl), nofun⟩) ⟨.change _, nofun⟩
  have hlooked := htold.tail ⟨.move _ _ (.wake _ rfl (by decide)), nofun⟩
    |>.tail ⟨.move _ _ (.forget _ rfl), nofun⟩
    |>.tail ⟨.move _ _ (.look _ rfl), fun _ _ => rfl⟩
    |>.tail ⟨.move _ _ (.judge _ true rfl), nofun⟩
  have hhanded := hlooked.tail ⟨.move _ _ (.set _ .create rfl), nofun⟩
    |>.tail ⟨.move _ _ (.arrive _ .create rfl), nofun⟩
    |>.tail ⟨.move _ _ (.hand _ .create rfl), nofun⟩
  have hcalled := hhanded.tail ⟨.change _, nofun⟩
    |>.tail ⟨.change _, nofun⟩
    |>.tail ⟨.move _ _ (.wake _ rfl (by decide)), nofun⟩
    |>.tail ⟨.move _ _ (.forget _ rfl), nofun⟩
  have hhandled := hcalled.tail ⟨.move _ _ (.handle _ .create [] rfl), fun _ h => absurd rfl h⟩
  exact hhandled.tail ⟨.move _ _ (.look _ rfl), fun _ _ => rfl⟩
    |>.tail ⟨.move _ _ (.judge _ true rfl), nofun⟩

/-- The modem is there with the device, and goes with it. -/
theorem presence_follows_device_served :
    Run vacant served ∧ served.AtRest ∧ served.core.presence = .attached ∧
      served.core.hasModem = true ∧
      ∃ t, Calm served.change t ∧ t.AtRest ∧ t.core.presence = .detached ∧
        t.core.hasModem = false := by
  have hrun : Run vacant served := Relation.ReflTransGen.mono (fun _ _ => And.left) _ _ served_timely
  obtain ⟨hpresence, hmodem, hone, -⟩ := presence_follows_device .telitSerial (.initial ())
    Simulator.working false served hrun ⟨rfl, rfl, rfl⟩
  have hgone := (round_news served.change rfl (by decide) rfl).tail (.handle _ .remove [] rfl)
  obtain ⟨hmodem', hpresence'⟩ := hone _ hgone ⟨rfl, rfl, rfl⟩
  exact ⟨hrun, ⟨rfl, rfl, rfl⟩, hpresence, hmodem served_timely, _, hgone, ⟨rfl, rfl, rfl⟩,
    hpresence', hmodem'⟩

/-- The core comes to the first two actions after the device has changed once more. A device that came
back stays without a modem, and a modem stays whose device has gone again. -/
theorem modem_astray :
    (∃ s, Run vacant s ∧ s.AtRest ∧ s.core.present = true ∧ s.core.presence = .attached ∧
      s.core.hasModem = false) ∧
    ∃ s, Run vacant s ∧ s.AtRest ∧ s.core.present = false ∧ s.core.presence = .detached ∧
      s.core.hasModem = true := by
  have hidle : Run vacant _ := .single (.move _ _ (.scan vacant rfl))
  have hcame := (hidle.tail (.change _)).trans (round_news _ rfl (by decide) rfl).run
  constructor
  · have hgone := (hcame.tail (.change _)).trans (round_news _ rfl (by decide) rfl).run
    have hback := hgone.tail (.change _)
    have hhandled := hback.tail (.move _ _ (.handle _ _ _ rfl)) |>.tail (.move _ _ (.handle _ _ _ rfl))
    have hrest := hhandled.trans (round_quiet _ rfl (by decide) rfl).run
    exact ⟨_, hrest, ⟨rfl, rfl, rfl⟩, rfl, rfl, rfl⟩
  · have hcreated := hcame.tail (.move _ _ (.handle _ _ _ rfl))
    have hgone := (hcreated.tail (.change _)).trans (round_news _ rfl (by decide) rfl).run
    have hback := (hgone.tail (.change _)).trans (round_news _ rfl (by decide) rfl).run
    have hleft := hback.tail (.change _)
    have hhandled := hleft.tail (.move _ _ (.handle _ _ _ rfl)) |>.tail (.move _ _ (.handle _ _ _ rfl))
    have hrest := hhandled.trans (round_quiet _ rfl (by decide) rfl).run
    exact ⟨_, hrest, ⟨rfl, rfl, rfl⟩, rfl, rfl, rfl⟩

end Site

end CellModem
