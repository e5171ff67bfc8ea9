import CellModem.Presence.Rehearsal
import CellModem.Proofs.Presence.Vigil

/-!
# Rehearsals without interference

A rehearsal in which nobody overrules the presence state goes as it may go with a watcher that has the
presence state to itself. So the actions handed over in it are in turn, too.
-/

namespace CellModem

open Vigil

def Entry.actions : Entry → List PresenceAction
  | .looked look => look.actions
  | .abandoned actions => actions

namespace Rehearsal

/-- All that has been handed over, on record or not. -/
def handed (r : Rehearsal) : List PresenceAction := r.entries.flatMap Entry.actions ++ r.actions

/-- The watcher has come as far in the rehearsal as it has otherwise. -/
structure Mirrors (r : Rehearsal) (v : Vigil) : Prop where
  watcher : r.watcher = v.watcher
  presence : r.presence = v.presence
  handed : r.handed = Note.actions v.log

variable {r : Rehearsal} {v : Vigil}

@[simp] theorem events_advance (r : Rehearsal) (input : Watcher.Input) :
    (r.advance input).events = r.events := by
  unfold advance
  split
  · rfl
  · split <;> rfl

/-! ## One step -/

theorem Mirrors.advance (h : r.Mirrors v) (input : Watcher.Input)
    (heard : r.heard = true ∨ (v.watcher.step v.presence input).2.2 = none) :
    (r.advance input).Mirrors (v.advance input) := by
  unfold Rehearsal.advance Vigil.advance
  rw [h.watcher, h.presence]
  rcases hstep : v.watcher.step v.presence input with ⟨w, p, _ | action⟩
  · exact ⟨rfl, rfl, h.handed⟩
  · have hheard : r.heard = true := heard.resolve_right (by simp [hstep])
    simp only [hheard, if_true]
    refine ⟨rfl, rfl, ?_⟩
    have hhanded := h.handed
    unfold Rehearsal.handed at hhanded ⊢
    simp [← hhanded, Note.action?]

theorem Mirrors.leave (h : r.Mirrors v) : (r.advance .shutdown).Mirrors (v.advance .shutdown) := by
  apply h.advance .shutdown
  rw [Watcher.step_leaving _ _ (.inl rfl)]
  exact .inr rfl

theorem Mirrors.unheard (h : r.Mirrors v) (unheard : r.heard = false) {action : PresenceAction}
    (moving : v.watcher = .moving action) (present : Bool) :
    (r.advance (.elapsed present)).Mirrors v.unheard := by
  rw [unheard_eq moving]
  unfold Rehearsal.advance
  rw [h.watcher, moving, Watcher.step_moving]
  simp only [unheard, Bool.false_eq_true, if_false]
  exact ⟨rfl, rfl, h.handed⟩

theorem Mirrors.take (h : r.Mirrors v) (told : v.events.length = r.events)
    (idle : v.watcher = .idle) (more : r.events ≠ 0) :
    ∃ w, Run v w ∧ w.watcher = .detecting ∧ w.events.length = r.events - 1 ∧
      ({ r with events := r.events - 1 }.advance .event).Mirrors w := by
  obtain ⟨e, rest, hevents⟩ := List.exists_cons_of_length_pos (show 0 < v.events.length by omega)
  have htaken : Mirrors { r with events := r.events - 1 } { v with events := rest } :=
    ⟨h.watcher, h.presence, h.handed⟩
  have hnone : (v.watcher.step v.presence .event).2.2 = none := by
    rw [idle]
    rfl
  refine ⟨_, .single (.take v e rest idle hevents), ?_, ?_, htaken.advance _ (.inr hnone)⟩
  · rw [advance_event (v := { v with events := rest }) idle]
  · rw [advance_event (v := { v with events := rest }) idle, ← told, hevents]
    rfl

theorem Mirrors.tell (h : r.Mirrors v) (count : Nat) :
    ∃ w, Run v w ∧ r.Mirrors w ∧ w.events.length = v.events.length + count := by
  induction count with
  | zero => exact ⟨v, .refl, h, rfl⟩
  | succ count ih =>
    obtain ⟨w, hrun, hw, hevents⟩ := ih
    refine ⟨_, hrun.tail (.tell w .created), ⟨hw.watcher, hw.presence, ?_⟩, ?_⟩
    · simpa [Note.action?] using hw.handed
    · simp [hevents, Nat.add_assoc]

/-! ## One look -/

theorem run_present (v : Vigil) (present : Bool) : Run v { v with present := present } := by
  by_cases hsame : v.present = present
  · rw [← hsame]
  · have hother : present = !v.present := by
      cases present <;> cases hpresent : v.present <;> simp_all
    rw [hother]
    exact .single (.change v)

theorem Mirrors.set (h : r.Mirrors v) {scene : Scene} (alone : scene.overruled = none) :
    (r.set scene).Mirrors { v with present := scene.present }.look where
  watcher := h.watcher
  presence := by
    unfold Rehearsal.set
    rw [alone]
    exact h.presence
  handed := by
    have hhanded := h.handed
    unfold Rehearsal.handed at hhanded ⊢
    cases habandoned : scene.abandoned <;>
      simp [Rehearsal.set, habandoned, Entry.actions, Vigil.look, Note.action?, ← hhanded]

theorem Mirrors.look (h : r.Mirrors v) (detecting : v.watcher = .detecting) {scene : Scene}
    (alone : scene.overruled = none) :
    ∃ w, Run v w ∧ w.events.length = scene.eventsBehind ∧
      ((r.set scene).advance (.elapsed scene.present)).Mirrors w ∧
      (w.watcher = .idle ∨ ∃ action, w.watcher = .moving action) := by
  let seen : Vigil := { v with present := scene.present }
  have hrun : Run v (seen.look.advance (.elapsed scene.present)) :=
    (run_present v scene.present).tail (.look seen detecting)
  have hnone : (seen.look.watcher.step seen.look.presence (.elapsed scene.present)).2.2 = none := by
    rw [show seen.look.watcher = .detecting from detecting]
    rfl
  have hlooked := (h.set alone).advance _ (.inr hnone)
  obtain ⟨w, hrun', hw, hevents⟩ := hlooked.tell scene.eventsBehind
  have hcases := advance_detecting (v := seen.look) detecting scene.present
  refine ⟨w, hrun.trans hrun', ?_, hw, ?_⟩
  · rw [hevents, hcases]
    split <;> simp [Vigil.look]
  · rw [← hw.watcher, hlooked.watcher, hcases]
    split
    · exact .inr ⟨_, rfl⟩
    · exact .inl rfl

theorem Mirrors.wait (h : r.Mirrors v) {action : PresenceAction} (moving : v.watcher = .moving action)
    (endless : Option Watcher) (present : Bool) :
    ∃ w, Run v w ∧ w.events = v.events ∧ (r.wait endless present).Mirrors w := by
  unfold Rehearsal.wait
  split
  · refine ⟨_, .single (.stop v), ?_, h.leave⟩
    rw [advance_leaving v (.inl rfl)]
  · cases hheard : r.heard with
    | true =>
      have hhanded := h.advance (.elapsed present) (.inl hheard)
      rw [advance_moving moving present, ← advance_moving moving v.present] at hhanded
      refine ⟨_, .single (.hand v action moving), ?_, hhanded⟩
      rw [advance_moving moving]
    | false =>
      refine ⟨_, .single (.unheard v action moving), ?_, h.unheard hheard moving present⟩
      rw [unheard_eq moving]

theorem Mirrors.evaluate (h : (r.advance .event).Mirrors v) (detecting : v.watcher = .detecting)
    (told : v.events.length = r.events) (endless : Option Watcher)
    (scene : Scene) (alone : scene.overruled = none) :
    ∃ w, Run v w ∧ w.events.length = (r.evaluate endless scene).events ∧
      (r.evaluate endless scene).Mirrors w := by
  unfold Rehearsal.evaluate
  dsimp only
  by_cases hends : endless = some (r.advance .event).watcher
  · rw [if_pos hends]
    refine ⟨_, .single (.stop v), ?_, h.leave⟩
    rw [advance_leaving v (.inl rfl)]
    simpa using told
  · rw [if_neg hends]
    obtain ⟨w, hrun, hevents, hw, hidle | ⟨action, hmoving⟩⟩ := h.look detecting alone
    · rw [if_pos (hw.watcher.trans hidle)]
      exact ⟨w, hrun, by simp [hevents, Rehearsal.set], hw⟩
    · have hbusy := hw.watcher.trans hmoving
      rw [if_neg (by rw [hbusy]; exact (Watcher.moving_ne action).1)]
      obtain ⟨w', hrun', hevents', hw'⟩ := hw.wait hmoving endless scene.present
      refine ⟨w', hrun.trans hrun', ?_, hw'⟩
      simp [hevents', hevents, Rehearsal.wait, Rehearsal.set]

/-! ## The whole -/

theorem Mirrors.run (h : r.Mirrors v) (told : v.events.length = r.events)
    (endless : Option Watcher) {scenes : List Scene} (alone : ∀ s ∈ scenes, s.overruled = none) :
    ∃ w, Run v w ∧ (Rehearsal.run endless scenes r).Mirrors w := by
  induction scenes generalizing r v with
  | nil =>
    unfold Rehearsal.run
    split
    · exact ⟨v, .refl, h⟩
    · next hgoes =>
      rw [not_or, not_not] at hgoes
      obtain ⟨w, hrun, hdetecting, hevents, hw⟩ :=
        h.take told (h.watcher.symm.trans hgoes.1) hgoes.2
      obtain ⟨w', hrun', -, hw'⟩ := hw.evaluate hdetecting hevents endless
        (afterwards { r with events := r.events - 1 }) rfl
      exact ⟨w', hrun.trans hrun', hw'⟩
  | cons scene scenes ih =>
    obtain ⟨hscene, hscenes⟩ := List.forall_mem_cons.mp alone
    unfold Rehearsal.run
    split
    · exact ⟨v, .refl, h⟩
    · next hgoes =>
      rw [not_or, not_not] at hgoes
      obtain ⟨w, hrun, hdetecting, hevents, hw⟩ :=
        h.take told (h.watcher.symm.trans hgoes.1) hgoes.2
      obtain ⟨w', hrun', hevents', hw'⟩ := hw.evaluate hdetecting hevents endless scene hscene
      obtain ⟨w'', hrun'', hw''⟩ := ih hw' hevents' hscenes
      exact ⟨w'', (hrun.trans hrun').trans hrun'', hw''⟩

theorem exists_vigil (first : Bool) (events : List DeviceEvent) (endless : Option Watcher)
    {scenes : List Scene} (alone : ∀ s ∈ scenes, s.overruled = none) :
    ∃ v, Run (opened first events) v ∧
      (perform .detached first events.length scenes endless).Mirrors v := by
  have hnone : Note.actions (events.map .told) = [] := by
    simp [Note.actions, List.filterMap_eq_nil_iff, Note.action?]
  unfold perform
  cases first with
  | false =>
    have hstart : (start .detached events.length).Mirrors (opened false events) :=
      ⟨rfl, rfl, hnone.symm⟩
    exact hstart.run rfl endless alone
  | true =>
    have hstart : ((start .detached events.length).advance .event).Mirrors (opened true events) :=
      ⟨rfl, rfl, hnone.symm⟩
    cases scenes with
    | nil =>
      obtain ⟨w, hrun, hevents, hw⟩ := hstart.evaluate rfl rfl endless
        (start .detached events.length).afterwards rfl
      obtain ⟨w', hrun', hw'⟩ := hw.run hevents endless alone
      exact ⟨w', hrun.trans hrun', hw'⟩
    | cons scene scenes =>
      obtain ⟨hscene, hscenes⟩ := List.forall_mem_cons.mp alone
      obtain ⟨w, hrun, hevents, hw⟩ := hstart.evaluate rfl rfl endless scene hscene
      obtain ⟨w', hrun', hw'⟩ := hw.run hevents endless hscenes
      exact ⟨w', hrun.trans hrun', hw'⟩

/-- What is handed over in a rehearsal is to create and to remove in turn. -/
theorem perform_inTurn (first : Bool) (events : List DeviceEvent) (endless : Option Watcher)
    {scenes : List Scene} (alone : ∀ s ∈ scenes, s.overruled = none) :
    (PresenceAction.remove ::
      (perform .detached first events.length scenes endless).handed).IsChain (· ≠ ·) := by
  obtain ⟨v, hrun, hv⟩ := exists_vigil first events endless alone
  rw [hv.handed]
  exact (regular_run hrun (regular_opened first events)).turns

end Rehearsal

end CellModem
