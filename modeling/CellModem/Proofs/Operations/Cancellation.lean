import CellModem.Channel.SerialPort
import CellModem.Modem.Power
import CellModem.Proofs.Operations.Discipline

/-!
# Cancelled calls

A channel that cancels what it holds drops the completions, and with a completion goes all that
would have freed the instance and answered the caller.
-/

namespace CellModem.Calls.World

variable {ι : Type} {α : ι → Type} {calls : Calls α} {w w' : World α}

/-- All that the channel holds is dropped. -/
def cancelled (w : World α) : World α :=
  { w with held := [], dropped := (w.held.map (·.1)).reverse ++ w.dropped }

theorem cancelled_run (opened : w.Open) : Run calls w w.cancelled := by
  generalize hheld : w.held = held
  induction held generalizing w with
  | nil =>
    have hsame : w.cancelled = w := by
      cases w
      cases hheld
      rfl
    rw [hsame]
  | cons k rest ih =>
    have hdrop : Step calls w { w with held := [] ++ rest, dropped := k.1 :: w.dropped } :=
      .drop w k.1 [] rest k.2 opened hheld
    have hrest := ih (w := { w with held := [] ++ rest, dropped := k.1 :: w.dropped }) opened rfl
    rw [cancelled, hheld, List.map_cons, List.reverse_cons, List.append_assoc]
    exact .head hdrop hrest

theorem dropped_run (run : Run calls w w') {i : ι} (dropped : i ∈ w.dropped) : i ∈ w'.dropped := by
  induction run with
  | refl => exact dropped
  | tail _ step ih =>
    cases step with
    | drop j => exact List.mem_cons_of_mem j ih
    | grant | refuse | ask | settle | reply | pop | answer | hold | deliver | other => exact ih

variable [DecidableEq ι]

theorem Sound.idle (h : w.Sound calls) (rest : w.stack = []) (nothing : w.held = []) {i : ι}
    (started : i ∈ w.started) : w.lost i + w.answers i = 1 := by
  have hplaced := h.placed i
  simpa [running, holding, rest, nothing, started] using hplaced

/-- With no code on the stack and nothing in the channel, a call has been answered, and once, if and
only if no completion of it was dropped, and an instance is busy if and only if one of a call of it
was. That is so for good: such a call is never answered and its instance is busy ever after. It comes
to every call that waits when the channel cancels what it holds. -/
theorem wedged_iff_dropped (calls : Calls α) (w : World α) (run : Run calls .empty w) :
    (w.stack = [] → w.held = [] →
      (∀ i ∈ w.started, w.answers i = 1 ↔ i ∉ w.dropped) ∧
      ∀ f n, w.host.busy? f n = some true ↔ ∃ i ∈ w.dropped, calls.At f n i) ∧
    (∀ i ∈ w.dropped, ∀ w', Run calls w w' → w'.answers i = 0 ∧
      w'.host.busy? (calls.facility i) (calls.number i) = some true) ∧
    (w.Open → Run calls w w.cancelled ∧ ∀ k ∈ w.held, k.1 ∈ w.cancelled.dropped) := by
  obtain ⟨hsound, hbooked, -⟩ := run_keeps run
  refine ⟨fun hrest hnothing => ⟨fun i hstarted => ?_, fun f n => ?_⟩, fun i hi w' run' => ?_, ?_⟩
  · have hsum := hsound.idle hrest hnothing hstarted
    rw [← List.count_pos_iff]
    change _ ↔ ¬ 0 < w.lost i
    omega
  · rw [hbooked.busy]
    constructor
    · rintro ⟨i, hat, hoccupies⟩
      have hsum := hsound.idle hrest hnothing (hsound.claimed i hoccupies.1)
      rw [hsound.unanswered i hoccupies] at hsum
      have hlost : 0 < w.dropped.count i := by
        change 0 < w.lost i
        omega
      exact ⟨i, List.count_pos_iff.mp hlost, hat⟩
    · rintro ⟨i, hdropped, hat⟩
      exact ⟨i, hat, hsound.dropped i hdropped⟩
  · obtain ⟨hsound', hbooked', -⟩ := run_keeps (run.trans run')
    have hoccupies := hsound'.dropped i (dropped_run run' hi)
    exact ⟨hsound'.unanswered i hoccupies, (hbooked'.busy _ _).mpr ⟨i, ⟨rfl, rfl⟩, hoccupies⟩⟩
  · intro opened
    refine ⟨cancelled_run opened, fun k hk => List.mem_append_left _ ?_⟩
    exact List.mem_reverse.mpr (List.mem_map_of_mem hk)

theorem wedged_iff_dropped_querying : ∃ w : World fun _ : Bool => Properties, Run pair .empty w ∧
    w.stack = [] ∧ w.held = [] ∧ false ∈ w.started ∧ w.answers false = 0 ∧
    w.host.busy? .power 0 = some true := by
  obtain ⟨w, hrun, hkept, hrest, hout, hhost⟩ := exists_querying
  obtain ⟨hsound, -⟩ := run_keeps hrun
  have hopened : w.Open := by
    intro frame hframe
    rw [hrest] at hframe
    cases hframe
  obtain ⟨-, -, hcancel⟩ := wedged_iff_dropped pair w hrun
  obtain ⟨hcancelled, hdropped⟩ := hcancel hopened
  obtain ⟨-, hholding, -⟩ := slot_discipline pair w hrun hkept
  have hwaits : false ∈ w.cancelled.dropped := by
    have hone : 0 < w.holding false := by
      rw [hholding hrest false hout]
      decide
    obtain ⟨k, hk, hfalse⟩ := List.countP_pos_iff.mp hone
    rw [decide_eq_true_eq] at hfalse
    exact hfalse ▸ hdropped k hk
  obtain ⟨-, hforever, -⟩ := wedged_iff_dropped pair w.cancelled (hrun.trans hcancelled)
  obtain ⟨hanswers, hbusy⟩ := hforever false hwaits _ .refl
  exact ⟨w.cancelled, hrun.trans hcancelled, hrest, rfl, hsound.claimed false hout.1, hanswers, hbusy⟩

/-- A call is made, and the modem is switched off before the answer comes. -/
def switchedOff {C : Type → Type} [Channel C]
    (channel : C (Resume (Logged fun _ : Bool => Properties))) :
    Machine C (Logged fun _ : Bool => Properties) :=
  let m : Machine C _ := ⟨channel, (powered.addModem .telitSerial).2⟩
  (m.start (pair.act false)).start do
    let _ ← (Modem.disable 0).run

/-- The first caller is not answered, and the second one is told that the instance is busy. -/
def Wedged {C : Type → Type} [Channel C] (m : Machine C (Logged fun _ : Bool => Properties)) : Prop :=
  m.state.observed = [] ∧ m.state.busy? .power 0 = some true ∧
    (m.start (pair.act true)).state.observed = [⟨true, .error .busy⟩]

/-- The modem has answered all it was sent, one in memory that keeps its answers and one on a serial
line, and the channel holds nothing any more. -/
theorem wedged_by_disable :
    (let m := switchedOff { Simulator.empty with deferred := true, unscripted := .ok }
     m.flush.2.channel.queued = [] ∧ Wedged m.flush.2) ∧
    (let m := switchedOff SerialPort.opened
     (m.receive "OK").channel = { SerialPort.opened with
        wire := ["AT+CFUN?\r", "AT+CFUN=4\r"], generation := 1 } ∧ Wedged (m.receive "OK")) :=
  ⟨⟨rfl, rfl, rfl, rfl⟩, rfl, rfl, rfl, rfl⟩

end CellModem.Calls.World
