import CellModem.Proofs.Conduct.Desk

/-!
# How final it is to drop all commands

Neither channel keeps the answers it is about to hand over: the scripted modem takes all of them out
of its queue before it hands over the first, and the serial line answers the commands it could not
write behind the one that ended. Dropping all commands does not reach those. So when commands are
dropped by code that runs because another command was answered, those that are due behind it are
answered nevertheless, and only those.
-/

namespace CellModem.Desk

open SerialPort (Ticket)
open Attended

variable {κ σ : Type} {C : Type → Type} [Channel C] [Attended C]

structure Vacant (d : Desk C κ) : Prop where
  waiting : waiting d.channel = []
  due : d.due = []

/-- None of the commands accepted so far is answered later. -/
def Final (d : Desk C κ) : Prop :=
  ∀ t, Run d t → ∀ later, t.completed = d.completed ++ later → ∀ n ∈ later, d.accepted ≤ n

/-- Of the commands that had been accepted before all were dropped, exactly those are answered, or
still due, whose answers were due at that time, and in that order. -/
structure DroppedAs (before after : Desk C κ) : Prop where
  account : ∀ t, Run after t → ∃ later, t.completed = before.completed ++ later ∧
    later.filter (· < before.accepted) ++ (t.due.map (·.1.number)).filter (· < before.accepted)
      = before.due.map (·.1.number)
  final_iff : after.Final ↔ before.due = []

/-- Between two of the things that happen to a machine, all commands of its desk are dropped for
good. -/
def FinalAtRest [Impartial C] (drop : Desk C (Resume σ) → Desk C (Resume σ)) : Prop :=
  ∀ (code : Routine σ → Prop) (m now : Machine C σ) (given : List String),
    Machine.Course code m given now → ∀ start : Desk C (Resume σ), start.Vacant → start.Carries m →
      ∃ s, Run start s ∧ s.Carries now ∧ (drop s).Final

/-! ## Numbers -/

structure Numbered (d : Desk C κ) : Prop where
  waiting : ∀ k ∈ waiting d.channel, k.number < d.accepted
  due : ∀ w ∈ d.due, w.1.number < d.accepted

theorem Vacant.numbered {d : Desk C κ} (h : d.Vacant) : d.Numbered where
  waiting := by
    rw [h.waiting]
    exact nofun
  due := by
    rw [h.due]
    exact nofun

theorem numbered_move {d t : Desk C κ} (move : Move d t) (h : d.Numbered) : t.Numbered := by
  cases move with
  | complete ticket response due next after =>
    rw [after]
    refine ⟨h.waiting, fun w hw => h.due w ?_⟩
    rw [next]
    exact List.mem_cons_of_mem _ hw
  | other answered completed due accepted known =>
    have hknown : ∀ k ∈ answered.map Prod.fst ++ waiting t.channel, k.number < t.accepted := by
      intro k hk
      rcases known k hk with hk | ⟨hnumber, hmore⟩
      · exact Nat.lt_of_lt_of_le (h.waiting k hk) accepted
      · rw [hnumber]
        exact hmore
    refine ⟨fun k hk => hknown k (List.mem_append_right _ hk), fun w hw => ?_⟩
    rw [due] at hw
    rcases List.mem_append.mp hw with hw | hw
    · exact hknown w.1 (List.mem_append_left _ (List.mem_map_of_mem hw))
    · exact Nat.lt_of_lt_of_le (h.due w hw) accepted

/-! ## After everything has been dropped -/

/-- Everyone who waits came after all were dropped, and what was due then has been handed over or is
due still. -/
structure Since (before t : Desk C κ) : Prop where
  accepted : before.accepted ≤ t.accepted
  waiting : ∀ k ∈ waiting t.channel, before.accepted ≤ k.number
  account : ∃ later, t.completed = before.completed ++ later ∧
    later.filter (· < before.accepted) ++ (t.due.map (·.1.number)).filter (· < before.accepted)
      = before.due.map (·.1.number)

theorem since_dropped {d : Desk C κ} (h : d.Numbered) {channel : C (Ticket κ)}
    (nobody : waiting channel = []) : Since d { d with channel := channel } where
  accepted := Nat.le_refl _
  waiting := by
    rw [nobody]
    exact nofun
  account := by
    refine ⟨[], (List.append_nil _).symm, List.filter_eq_self.mpr fun n hn => ?_⟩
    obtain ⟨w, hw, rfl⟩ := List.mem_map.mp hn
    exact decide_eq_true (h.due w hw)

theorem since_move {before d t : Desk C κ} (move : Move d t) (h : Since before d) :
    Since before t := by
  obtain ⟨later, hcompleted, haccount⟩ := h.account
  cases move with
  | complete ticket response due next after =>
    rw [after]
    refine ⟨h.accepted, h.waiting, later ++ [ticket.number], ?_, ?_⟩
    · rw [hcompleted, List.append_assoc]
    · rw [next, List.map_cons, ← List.singleton_append, List.filter_append,
        ← List.append_assoc] at haccount
      rw [List.filter_append]
      exact haccount
  | other answered completed due accepted known =>
    have hlater : ∀ k ∈ answered.map Prod.fst ++ waiting t.channel,
        before.accepted ≤ k.number := by
      intro k hk
      rcases known k hk with hk | ⟨hnumber, -⟩
      · exact h.waiting k hk
      · rw [hnumber]
        exact h.accepted
    refine ⟨h.accepted.trans accepted, fun k hk => hlater k (List.mem_append_right _ hk), later,
      completed.trans hcompleted, ?_⟩
    -- Answers that become due now are to commands given since.
    have hnew : (answered.map (·.1.number)).filter (· < before.accepted) = [] := by
      refine List.filter_eq_nil_iff.mpr fun n hn hold => ?_
      obtain ⟨w, hw, rfl⟩ := List.mem_map.mp hn
      have hge := hlater w.1 (List.mem_append_left _ (List.mem_map_of_mem hw))
      exact absurd (of_decide_eq_true hold) (Nat.not_lt.mpr hge)
    rw [due, List.map_append, List.filter_append, hnew, List.nil_append]
    exact haccount

/-! ## Both channels -/

section

variable [AttendedLaws C]

theorem dropped_as {start s : Desk C κ} (vacant : start.Vacant) (run : Run start s)
    {channel : C (Ticket κ)} (nobody : waiting channel = []) :
    DroppedAs s { s with channel := channel } := by
  have hnumbered : s.Numbered := run_keeps (fun _ _ => numbered_move) run vacant.numbered
  have haccount : ∀ t, Run { s with channel := channel } t → Since s t := fun t more =>
    run_keeps (fun _ _ => since_move) more (since_dropped hnumbered nobody)
  refine ⟨fun t more => (haccount t more).account, fun final => ?_, fun nothing t more later => ?_⟩
  · -- If something is due, it is the next to be handed over.
    cases hdue : s.due with
    | nil => rfl
    | cons w due =>
      have hnext := final _ (.single (.complete _)) [w.1.number] (by simp [complete, hdue])
        w.1.number (List.mem_singleton_self _)
      have hold := hnumbered.due w (by rw [hdue]; exact List.mem_cons_self)
      exact absurd hold (Nat.not_lt.mpr hnext)
  · intro hlater n hn
    obtain ⟨later', hlater', hnone⟩ := (haccount t more).account
    obtain rfl : later = later' := List.append_cancel_left (hlater.symm.trans hlater')
    rw [nothing] at hnone
    obtain ⟨hnone, -⟩ := List.append_eq_nil_iff.mp hnone
    refine Nat.not_lt.mp fun hold => ?_
    exact List.filter_eq_nil_iff.mp hnone n hn (decide_eq_true hold)

end

theorem final_at_rest [Impartial C] {drop : Desk C (Resume σ) → Desk C (Resume σ)}
    (dropped : ∀ start s : Desk C (Resume σ), start.Vacant → Run start s → DroppedAs s (drop s)) :
    FinalAtRest drop := by
  intro code m now given course start vacant carries
  obtain ⟨s, hrun, hdue, hcarries⟩ := course_run course carries vacant.due
  exact ⟨s, hrun, hcarries, (dropped start s vacant hrun).final_iff.mpr hdue⟩

/-- When all commands are dropped, or the serial line is closed, then of the commands accepted before
exactly those are answered later whose answers were due at that time. So it is final exactly when it is
done while no answer is due, as it is between two of the things that happen to a machine. -/
theorem dropping_final_iff :
    ((∀ start s : Desk SerialPort κ, start.Vacant → Run start s →
        DroppedAs s s.cancelAll ∧ DroppedAs s s.close) ∧
      ∀ start s : Desk Simulator κ, start.Vacant → Run start s → DroppedAs s s.cancelAll) ∧
    FinalAtRest (fun s : Desk SerialPort (Resume σ) => s.cancelAll) ∧
    FinalAtRest (fun s : Desk SerialPort (Resume σ) => s.close) ∧
    FinalAtRest (fun s : Desk Simulator (Resume σ) => s.cancelAll) := by
  have hcancelled {C : Type → Type} [Channel C] [Attended C] [AttendedLaws C] {κ : Type}
      (start s : Desk C κ) (vacant : start.Vacant) (run : Run start s) : DroppedAs s s.cancelAll :=
    dropped_as vacant run (AttendedLaws.cancelAll s.channel).2.1
  have hclosed {κ : Type} (start s : Desk SerialPort κ) (vacant : start.Vacant)
      (run : Run start s) : DroppedAs s s.close := dropped_as vacant run rfl
  refine ⟨⟨fun start s vacant run => ?_, hcancelled⟩, ?_, ?_, ?_⟩
  · exact ⟨hcancelled start s vacant run, hclosed start s vacant run⟩
  · exact final_at_rest hcancelled
  · exact final_at_rest hclosed
  · exact final_at_rest hcancelled

/-- A scripted modem that keeps its answers back, and has taken two commands. -/
def scripted : Desk Simulator Unit :=
  ((⟨{ Simulator.empty with deferred := true }, [], 0, []⟩ : Desk Simulator Unit).send
    "AT+CFUN?" [] ()).send "AT#QSS?" [] ()

/-- Its answers are flushed, and the first has been handed over. -/
def flushed : Desk Simulator Unit := (scripted.input Simulator.Input.flush).complete

/-- A serial line with two commands, on which the second cannot be written. -/
def lined : Desk SerialPort Unit :=
  ((⟨{ SerialPort.opened with faults := [none, some .write] }, [], 0, []⟩ :
    Desk SerialPort Unit).send "AT+CFUN?" [] ()).send "AT#QSS?" [] ()

/-- The first command has ended, and has been answered. -/
def ended : Desk SerialPort Unit := (lined.input (SerialPort.Input.line "OK")).complete

/-- Notes that the command has been answered, and goes on. -/
def telling (command : String) (onwards : Act (List String) Unit) : Act (List String) Unit := do
  match ← Act.send command [] with
  | some _ =>
    modify (· ++ [command])
    onwards
  | none => pure ()

theorem dropping_final_iff_halfway :
    (scripted.cancelAll.Final ∧ flushed.due.map (·.1.number) = [1] ∧ ¬ flushed.cancelAll.Final) ∧
      (lined.cancelAll.Final ∧ lined.close.Final ∧ ended.due.map (·.1.number) = [1] ∧
        ¬ ended.cancelAll.Final ∧ ¬ ended.close.Final) ∧
      let line : Machine SerialPort (List String) :=
        ⟨{ SerialPort.opened with faults := [none, some .write] }, []⟩
      ∃ s : Desk SerialPort (Resume (List String)),
        s.Carries ((line.start (telling "AT+CFUN?" (pure ()))).start
          (telling "AT#QSS?" (pure ()))) ∧ s.cancelAll.Final := by
  obtain ⟨⟨hserial, hscripted⟩, hrests, -⟩ := dropping_final_iff (κ := Unit) (σ := List String)
  have hsim : ∀ s : Desk Simulator Unit, Run scripted s → DroppedAs s s.cancelAll := fun s run =>
    hscripted _ s ⟨rfl, rfl⟩ (.head (.send _ _ _ _) (.head (.send _ _ _ _) run))
  have hport : ∀ s : Desk SerialPort Unit, Run lined s →
      DroppedAs s s.cancelAll ∧ DroppedAs s s.close := fun s run =>
    hserial _ s ⟨rfl, rfl⟩ (.head (.send _ _ _ _) (.head (.send _ _ _ _) run))
  have hflushed := hsim flushed (.head (.input _ _) (.single (.complete _)))
  obtain ⟨hlinedCancelled, hlinedClosed⟩ := hport lined .refl
  obtain ⟨hcancelled, hclosed⟩ := hport ended (.head (.input _ _) (.single (.complete _)))
  refine ⟨⟨(hsim scripted .refl).final_iff.mpr rfl, rfl, fun final => ?_⟩,
    ⟨hlinedCancelled.final_iff.mpr rfl, hlinedClosed.final_iff.mpr rfl, rfl, fun final => ?_,
      fun final => ?_⟩, ?_⟩
  · exact List.cons_ne_nil _ _ (hflushed.final_iff.mp final)
  · exact List.cons_ne_nil _ _ (hcancelled.final_iff.mp final)
  · exact List.cons_ne_nil _ _ (hclosed.final_iff.mp final)
  · intro line
    obtain ⟨s, -, hcarries, hfinal⟩ := hrests (fun _ => True) line _ _
      (.start (.start .refl (telling "AT+CFUN?" (pure ())).routine trivial)
        (telling "AT#QSS?" (pure ())).routine trivial)
      ⟨{ SerialPort.opened with faults := [none, some .write] }, [], 0, []⟩ ⟨rfl, rfl⟩ rfl
    exact ⟨s, hcarries, hfinal⟩

/-- The first command, once it is answered, drops all commands; the second is answered afterwards. -/
theorem answered_after_dropping :
    let sim : Machine Simulator (List String) := ⟨{ Simulator.empty with deferred := true }, []⟩
    let port : Machine SerialPort (List String) :=
      ⟨{ SerialPort.opened with faults := [none, some .write] }, []⟩
    let dropping := telling "AT+CFUN?" (Act.cancelAll *> modify (· ++ ["dropped"]))
    let closing := telling "AT+CFUN?" (Act.close *> modify (· ++ ["closed"]))
    let other := telling "AT#QSS?" (pure ())
    ((sim.start dropping).start other).flush.2.state = ["AT+CFUN?", "dropped", "AT#QSS?"] ∧
      (((port.start dropping).start other).receive "OK").state
        = ["AT+CFUN?", "dropped", "AT#QSS?"] ∧
      (((port.start closing).start other).receive "OK").state
        = ["AT+CFUN?", "closed", "AT#QSS?"] :=
  ⟨rfl, rfl, rfl⟩

end CellModem.Desk
