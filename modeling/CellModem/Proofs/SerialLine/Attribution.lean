import CellModem.Modem.Power
import CellModem.Proofs.SerialLine.Conversation
import CellModem.Proofs.SerialLine.Kept

/-!
# Whose answer a command gets

The port counts on every final line being for the command in flight. It is unless a command was
given up before its final line came: because everything was dropped, or because its bytes could not
be pushed out. Commands get their own answers exactly as long as nothing is written while the final
line of such a command is owed.
-/

namespace CellModem.SerialPort

/-- Every command whose final line is owed was given up. -/
def GivenUp (c : Conversation) : Prop := ∀ n ∈ c.owed, n ∈ c.abandoned

theorem always_append {P : Conversation → Occurrence → Prop} {log more : List Occurrence}
    (h : Always P (log ++ more)) : Always P log := by
  intro before o after hlog
  refine h before o (after ++ more) ?_
  rw [hlog, List.append_assoc, List.cons_append]

theorem InOrder.unorphaned {log : List Occurrence} (h : InOrder log) : Unorphaned log := by
  intro before o after hlog hwrite n hn
  rw [h before o after hlog hwrite] at hn
  cases hn

theorem InOrder.silent {log : List Occurrence} (h : InOrder log) {o : Occurrence}
    (silent : o.isWrite = false) : InOrder (log ++ [o]) := by
  refine always_concat.mpr ⟨h, fun hwrite => ?_⟩
  rw [silent] at hwrite
  cases hwrite

theorem GivenUp.line {c : Conversation} (h : GivenUp c) (text : String) : GivenUp (c.take text) := by
  cases howed : c.owed with
  | nil => rwa [Conversation.take_free howed]
  | cons m owed =>
    rw [Conversation.take_owed howed]
    intro n hn
    refine h n ?_
    rw [howed]
    dsimp only at hn
    split at hn
    · exact List.mem_cons_of_mem _ hn
    · exact hn

/-! ## Attempts -/

theorem GivenUp.attempted {log : List Occurrence} {a : Attempt Nat} (h : GivenUp (conversation log))
    (order : InOrder log) (unorphaned : Unorphaned (log ++ [.attempted a])) :
    InOrder (log ++ [.attempted a]) ∧
      (a.fault.isSome → GivenUp (conversation (log ++ [.attempted a]))) ∧
      (a.fault = none → (conversation (log ++ [.attempted a])).owed = [a.pending.waiting]) := by
  obtain ⟨-, hlast⟩ := always_concat.mp unorphaned
  -- All that is owed was given up, so when something is written nothing can be owed.
  have hwrite : a.fault ≠ some .write → (conversation log).owed = [] := by
    intro hfault
    rw [List.eq_nil_iff_forall_not_mem]
    intro n hn
    exact hlast (by simp [Occurrence.isWrite, hfault]) n hn (h n hn)
  refine ⟨?_, ?_, ?_⟩
  · refine always_concat.mpr ⟨order, fun hisWrite => hwrite ?_⟩
    simpa [Occurrence.isWrite] using hisWrite
  · intro hfault
    rw [conversation_concat]
    obtain ⟨p, _ | _ | _⟩ := a
    · cases hfault
    · exact h
    · have howed := hwrite (by simp)
      intro n hn
      rw [Conversation.hear, howed] at hn
      exact List.mem_append_right _ hn
  · intro hfault
    rw [conversation_concat]
    obtain ⟨p, fault⟩ := a
    obtain rfl : fault = none := hfault
    rw [Conversation.hear, hwrite (by simp)]
    rfl

theorem GivenUp.tried {log : List Occurrence} {tried : List (Attempt Nat)}
    (h : GivenUp (conversation log)) (order : InOrder log) (faults : ∀ a ∈ tried, a.fault.isSome)
    (unorphaned : Unorphaned (log ++ tried.map .attempted)) :
    InOrder (log ++ tried.map .attempted) ∧ GivenUp (conversation (log ++ tried.map .attempted)) := by
  induction tried generalizing log with
  | nil => simpa using ⟨order, h⟩
  | cons a tried ih =>
    have hlog : log ++ (a :: tried).map .attempted = (log ++ [.attempted a]) ++ tried.map .attempted := by
      simp
    rw [hlog] at unorphaned ⊢
    obtain ⟨hfault, hfaults⟩ := List.forall_mem_cons.mp faults
    obtain ⟨horder, hgivenUp, -⟩ := h.attempted order (always_append unorphaned)
    exact ih (hgivenUp hfault) horder hfaults unorphaned

/-! ## Runs -/

namespace Moment

variable {κ : Type}

/-- The final line that is owed is that of the command in flight, or all that is owed was given up. -/
def Heeded (s : Moment κ) : Prop :=
  match s.port.current with
  | some c => (conversation s.log).owed = [c.pending.number]
  | none => GivenUp (conversation s.log)

theorem Heeded.busy {s : Moment κ} (h : s.Heeded) {c : InFlight (Ticket κ)}
    (busy : s.port.current = some c) : (conversation s.log).owed = [c.pending.number] := by
  unfold Heeded at h
  rwa [busy] at h

theorem Heeded.free {s : Moment κ} (h : s.Heeded) (free : s.port.current = none) :
    GivenUp (conversation s.log) := by
  unfold Heeded at h
  rwa [free] at h

theorem heeded_busy {s : Moment κ} {c : InFlight (Ticket κ)} (busy : s.port.current = some c)
    (owed : (conversation s.log).owed = [c.pending.number]) : s.Heeded := by
  unfold Heeded
  rwa [busy]

theorem heeded_free {s : Moment κ} (free : s.port.current = none)
    (givenUp : GivenUp (conversation s.log)) : s.Heeded := by
  unfold Heeded
  rwa [free]

theorem Heeded.advance {s : Moment κ} (h : s.Heeded) (order : InOrder s.log)
    {port : SerialPort (Ticket κ)} {due : List (Ticket κ × Response)}
    {tried : List (Attempt (Ticket κ))} {taken : Option (Pending (Ticket κ))}
    (free : s.port.current = none) (faults : ∀ a ∈ tried, a.fault.isSome)
    (current : port.current = taken.map (⟨·, []⟩))
    (unorphaned : Unorphaned
      (s.log ++ ((Attempt.row tried taken).map Attempt.numbered).map .attempted)) :
    InOrder (s.log ++ ((Attempt.row tried taken).map Attempt.numbered).map .attempted) ∧
      Heeded ⟨port, due,
        s.log ++ ((Attempt.row tried taken).map Attempt.numbered).map .attempted⟩ := by
  have hfaults : ∀ a ∈ tried.map Attempt.numbered, a.fault.isSome := by
    intro a ha
    obtain ⟨b, hb, rfl⟩ := List.mem_map.mp ha
    exact faults b hb
  have hrow : s.log ++ ((Attempt.row tried taken).map Attempt.numbered).map .attempted
      = (s.log ++ (tried.map Attempt.numbered).map .attempted)
        ++ taken.toList.map fun p => .attempted ⟨p.numbered, none⟩ := by
    simp [Attempt.row, Attempt.numbered]
  rw [hrow] at unorphaned ⊢
  obtain ⟨horder, hgivenUp⟩ := (h.free free).tried order hfaults (always_append unorphaned)
  cases taken with
  | none =>
    rw [Option.toList_none, List.map_nil, List.append_nil]
    exact ⟨horder, heeded_free current hgivenUp⟩
  | some p =>
    rw [Option.toList_some, List.map_cons, List.map_nil] at unorphaned ⊢
    obtain ⟨hlast, -, howed⟩ := hgivenUp.attempted horder unorphaned
    exact ⟨hlast, heeded_busy current (howed rfl)⟩

/-- An occurrence in which the modem has no part. -/
theorem Heeded.quiet {s : Moment κ} (h : s.Heeded) {t : Moment κ} {o : Occurrence}
    (log : t.log = s.log ++ [o]) (current : t.port.current = s.port.current)
    (quiet : (conversation s.log).hear o = conversation s.log) : t.Heeded := by
  unfold Heeded
  rw [log, conversation_concat, quiet, current]
  exact h

theorem Heeded.hear {s : Moment κ} (h : s.Heeded) {line : String} {port : SerialPort (Ticket κ)}
    (hears : Hears s.port line port) :
    Heeded { s with port := port, log := s.log ++ [.line line] } := by
  have hkept : ∀ c, s.port.current = some c → isFinal line = false →
      (conversation (s.log ++ [.line line])).owed = [c.pending.number] := by
    intro c hbusy hopen
    rw [conversation_concat, Conversation.hear, Conversation.take_owed (h.busy hbusy)]
    simp [hopen]
  cases hears with
  | kept c busy open_ wanted => exact heeded_busy rfl (hkept c busy open_)
  | passed unwanted =>
    cases hcurrent : s.port.current with
    | some c => exact heeded_busy hcurrent (hkept c hcurrent (unwanted c hcurrent).1)
    | none =>
      refine heeded_free hcurrent ?_
      rw [conversation_concat]
      exact (h.free hcurrent).line line

theorem Heeded.finish {s : Moment κ} (h : s.Heeded) {c : InFlight (Ticket κ)} {line : String}
    (busy : s.port.current = some c) (final : isFinal line = true)
    (due : List (Ticket κ × Response)) :
    Heeded ⟨{ s.port with current := none }, due, s.log ++ [.line line]⟩ := by
  refine heeded_free rfl ?_
  intro n hn
  rw [conversation_concat, Conversation.hear, Conversation.take_owed (h.busy busy)] at hn
  simp [final] at hn

theorem givenUp_dropped {log : List Occurrence} {o : Occurrence}
    (dropped : o = .cancelled ∨ o = .closed) : GivenUp (conversation (log ++ [o])) := by
  rw [conversation_concat]
  intro n hn
  rcases dropped with rfl | rfl
  · exact List.mem_append_right _ hn
  · exact List.mem_append_right _ hn

theorem heeded_move {s t : Moment κ} (move : Move s t) (order : InOrder s.log) (h : s.Heeded)
    (unorphaned : Unorphaned t.log) : InOrder t.log ∧ t.Heeded := by
  cases move with
  | advance port due tried taken free queue faults current wire dues =>
    exact h.advance order free faults current unorphaned
  | accept p next => exact ⟨order.silent rfl, h.quiet rfl rfl rfl⟩
  | finish c line busy final free => exact ⟨order.silent rfl, h.finish busy final _⟩
  | hear line port hears => exact ⟨order.silent rfl, h.hear hears⟩
  | complete ticket response due next => exact ⟨order.silent rfl, h.quiet rfl rfl rfl⟩
  | cancelAll => exact ⟨order.silent rfl, heeded_free rfl (givenUp_dropped (.inl rfl))⟩
  | close => exact ⟨order.silent rfl, heeded_free rfl (givenUp_dropped (.inr rfl))⟩

theorem inOrder_run {faults : List (Option WriteFault)} {s : Moment κ} (run : Run (opened faults) s)
    (unorphaned : Unorphaned s.log) : InOrder s.log := by
  have hkeeps : ∀ s t : Moment κ, Move s t → (Unorphaned s.log → InOrder s.log ∧ s.Heeded) →
      (Unorphaned t.log → InOrder t.log ∧ t.Heeded) := by
    -- A log without orphans has none before its last move either.
    intro s t move hs hunorphaned
    obtain ⟨more, hlog⟩ := move_log move
    have hbefore := hunorphaned
    rw [hlog] at hbefore
    obtain ⟨horder, hheeded⟩ := hs (always_append hbefore)
    exact heeded_move move horder hheeded hunorphaned
  have hopened : (opened faults : Moment κ).Settled := fun _ => rfl
  have hstart : InOrder (opened faults : Moment κ).log ∧ (opened faults : Moment κ).Heeded :=
    ⟨always_nil, by rintro n ⟨⟩⟩
  exact ((run_keeps hkeeps run hopened fun _ => hstart).2 unorphaned).1

theorem attributed_run {faults : List (Option WriteFault)} {s : Moment κ}
    (run : Run (opened faults) s) (order : InOrder s.log) : Attributed s.log := by
  obtain ⟨-, hkept⟩ := kept_run run
  rintro ⟨n, r⟩ hdone a ha hnumber hfault
  obtain ⟨b, hb, hnumber', hfits⟩ := hkept.answered n r (List.mem_append_left _ hdone)
  obtain rfl := hkept.attempt_unique ha hb (hnumber.trans hnumber'.symm)
  unfold Fits at hfits
  rw [hfault] at hfits
  have hwritten : n ∈ written s.log := mem_written.mpr ⟨a, ha, hfault, hnumber⟩
  have htold := order.told (List.nodup_append.mp hkept.nodup).1 hwritten
  rw [hnumber] at hfits
  exact htold.firstAnswer hfits

/-- Commands are written one behind the other's final line, and get their own answers, exactly when
nothing is written while the final line of a command that was given up is owed.

The text of a command and its end are written one after the other. A write that fails between them is
assumed to leave nothing on the line, as one that fails before them does: a text without its end is
no command to the modem, and no final line is owed for it. -/
theorem answers_attributed_iff (faults : List (Option WriteFault)) (s : Moment κ)
    (run : Run (opened faults) s) : (InOrder s.log ∧ Attributed s.log) ↔ Unorphaned s.log := by
  constructor
  · rintro ⟨horder, -⟩
    exact horder.unorphaned
  · intro hunorphaned
    have horder := inOrder_run run hunorphaned
    exact ⟨horder, attributed_run run horder⟩

/-- Everything is dropped, and the answer that is owed comes before the next command. -/
def patient : Moment Unit :=
  ((((((opened [some .write]).send "ATE0" [] ()).complete.send "AT+COPS=2" [] ()).cancelAll.receive
    "OK").send "AT+CFUN=4" [] ()).receive "ERROR").complete

theorem answers_attributed_iff_patient :
    Run (opened [some .write]) patient ∧ Unorphaned patient.log ∧
      completed patient.log = [(0, writeFailed), (2, ⟨false, "ERROR", []⟩)] ∧
      InOrder patient.log ∧ Attributed patient.log := by
  have hrun : Run (opened [some .write]) patient := by
    have hfailed := Relation.ReflTransGen.refl.tail (Step.send (opened [some .write]) "ATE0" [] ())
      |>.tail (.complete _)
    have hdropped := hfailed.tail (.send _ "AT+COPS=2" [] ()) |>.tail (.cancelAll _)
    have hfree := hdropped.tail (.receive _ "OK" rfl) |>.tail (.send _ "AT+CFUN=4" [] ())
    exact hfree.tail (.receive _ "ERROR" rfl) |>.tail (.complete _)
  have hunorphaned : Unorphaned patient.log := by
    unfold Unorphaned
    decide +kernel
  exact ⟨hrun, hunorphaned, by decide +kernel,
    (answers_attributed_iff _ _ hrun).mpr hunorphaned⟩

/-- Everything is dropped while an answer is owed, and the next command is written at once. -/
def overtaken : Moment Unit :=
  (((((opened []).send "AT+COPS=2" [] ()).cancelAll.send "AT+CFUN=4" [] ()).receive
    "OK").complete).receive "ERROR"

/-- A modem is switched off before the answer to another command has come. -/
def hurried (host : Host Unit) : Machine SerialPort (Host Unit) :=
  ((⟨SerialPort.opened, host⟩ : Machine SerialPort (Host Unit)).start
    (discard (Act.send "AT+COPS=2" []))).start (discard (Modem.disable 0).run)

/-- The command behind the one that was dropped is completed with the answer to that one; so a modem
counts as switched off before it has said so. -/
theorem answer_of_another_command :
    (Run (opened []) overtaken ∧ Answering overtaken.log ∧
      (conversation overtaken.log).produced = [(0, "OK"), (1, "ERROR")] ∧
      completed overtaken.log = [(1, ⟨true, "OK", []⟩)] ∧
      ¬ InOrder overtaken.log ∧ ¬ Attributed overtaken.log) ∧
    ∀ host : Host Unit, (hurried host).channel.wire = ["AT+COPS=2\r", "AT+CFUN=4\r"] ∧
      ((hurried host).receive "OK").state = host.setPowered 0 false := by
  refine ⟨⟨?_, ?_, by decide +kernel, by decide +kernel, ?_, ?_⟩, fun host => ⟨rfl, rfl⟩⟩
  · have hdropped := Relation.ReflTransGen.refl.tail (Step.send (opened []) "AT+COPS=2" [] ())
      |>.tail (.cancelAll _)
    have hsent := hdropped.tail (.send _ "AT+CFUN=4" [] ())
    exact hsent.tail (.receive _ "OK" rfl) |>.tail (.complete _) |>.tail (.receive _ "ERROR" rfl)
  · unfold Answering
    decide +kernel
  · unfold InOrder
    decide +kernel
  · unfold Attributed
    decide +kernel

end Moment

end CellModem.SerialPort
