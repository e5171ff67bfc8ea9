import CellModem.Proofs.Lifetime.SimEvents

/-!
# One status code after the other

Whatever codes the modem reports, in whatever order, the SIM that can be used is there, and what is
told is the whole of what changes: the SIM comes and goes in turn, and is told to be usable once each
time it is there.
-/

namespace CellModem

namespace SimStatus

/-- The status after all the codes, and what has been told meanwhile. -/
def applyAll (s : SimStatus) : List Int → SimStatus × List Event
  | [] => (s, [])
  | code :: codes =>
    let last := (s.apply code).1.applyAll codes
    (last.1, (s.apply code).2 ++ last.2)

theorem applyAll_append (s : SimStatus) (codes more : List Int) :
    s.applyAll (codes ++ more) = (((s.applyAll codes).1.applyAll more).1,
      (s.applyAll codes).2 ++ ((s.applyAll codes).1.applyAll more).2) := by
  induction codes generalizing s with
  | nil => rfl
  | cons code codes ih => simp [applyAll, ih]

/-! ## One code -/

/-- A code changes nothing the second time. -/
theorem apply_again (s : SimStatus) (code : Int) :
    (s.apply code).1.apply code = ((s.apply code).1, []) := by
  obtain ⟨inserted, ready⟩ := s
  unfold apply
  by_cases hgone : code = 0
  · simp [hgone, absent]
  · by_cases hthere : code = 1 ∨ code = 2
    · cases inserted <;> simp [hgone, hthere]
    · by_cases hready : code = 3
      · cases ready <;> simp [hready]
      · simp [hgone, hthere, hready]

theorem apply_unknown (s : SimStatus) {code : Int} (unknown : code ∉ [0, 1, 2, 3]) :
    s.apply code = (s, []) := by
  simp only [List.mem_cons, List.not_mem_nil, or_false, not_or] at unknown
  unfold apply
  simp [unknown]

/-! ## When the SIM is told to be usable -/

/-- It is told to be usable only where it is taken for there, and not yet for usable. -/
def ReadyInTurn : SimStatus → List Event → Prop
  | _, [] => True
  | s, e :: rest => (e = .simReady → s = ⟨true, false⟩) ∧ ReadyInTurn (s.hear e) rest

theorem readyInTurn_append {s : SimStatus} {events more : List Event} :
    s.ReadyInTurn (events ++ more) ↔
      s.ReadyInTurn events ∧ (events.foldl hear s).ReadyInTurn more := by
  induction events generalizing s with
  | nil => simp [ReadyInTurn]
  | cons e rest ih => simp [ReadyInTurn, ih, and_assoc]

theorem ReadyInTurn.taken {s : SimStatus} {before behind : List Event}
    (turns : s.ReadyInTurn (before ++ .simReady :: behind)) :
    before.foldl hear s = ⟨true, false⟩ :=
  (readyInTurn_append.mp turns).2.1 rfl

/-- As long as the SIM does not come anew, it is told to be usable at most once. -/
theorem ReadyInTurn.count_le {s : SimStatus} {events : List Event} (turns : s.ReadyInTurn events)
    (stays : .simInserted true ∉ events) :
    events.count .simReady ≤ if s = ⟨true, false⟩ then 1 else 0 := by
  induction events generalizing s with
  | nil => simp
  | cons e rest ih =>
    obtain ⟨hready, hrest⟩ := turns
    rw [List.mem_cons, not_or] at stays
    obtain ⟨hne, hstays⟩ := stays
    have hcount := ih hrest hstays
    cases e with
    | simReady =>
      rw [hready rfl] at hcount ⊢
      simpa [hear] using hcount
    | simInserted inserted =>
      cases inserted with
      | true => exact absurd rfl hne
      | false =>
        have hnone : rest.count .simReady = 0 := by simpa [hear, absent] using hcount
        simp [hnone]
    | _ =>
      rw [List.count_cons_of_ne (by simp)]
      exact hcount

theorem readyInTurn_apply {s : SimStatus} (sensible : s.Sensible) (code : Int) :
    s.ReadyInTurn (s.apply code).2 := by
  obtain ⟨inserted, ready⟩ := s
  rcases apply_cases ⟨inserted, ready⟩ code with happly | happly | ⟨-, happly⟩ | ⟨hready, happly⟩
  · rw [happly]
    cases inserted <;> simp [ReadyInTurn]
  · simp [happly, ReadyInTurn]
  · simp [happly, ReadyInTurn]
  · obtain rfl : ready = false := hready
    rw [happly]
    cases inserted <;> simp [ReadyInTurn, hear]

/-! ## All codes -/

theorem readyInTurn_applyAll {s : SimStatus} (sensible : s.Sensible) (codes : List Int) :
    s.ReadyInTurn (s.applyAll codes).2 := by
  induction codes generalizing s with
  | nil => trivial
  | cons code codes ih =>
    have hrest := ih (sensible_apply sensible code)
    unfold applyAll
    rw [readyInTurn_append, hear_apply sensible]
    exact ⟨readyInTurn_apply sensible code, hrest⟩

theorem UpToDate.applyAll {events : List Event} {s : SimStatus} (h : UpToDate events s)
    (codes : List Int) : UpToDate (events ++ (s.applyAll codes).2) (s.applyAll codes).1 := by
  induction codes generalizing events s with
  | nil => simpa [SimStatus.applyAll] using h
  | cons code codes ih => simpa [SimStatus.applyAll] using ih (h.apply code)

theorem sensible_absent : absent.Sensible := fun h => h

theorem upToDate_absent : UpToDate [] absent :=
  ⟨rfl, List.isChain_singleton _, sensible_absent⟩

/-- After any codes the SIM is as one takes it for who has been told what was told of it. It was told
to come and go in turn, and while it was there, at most once to be usable. A code without a meaning
changes nothing, and neither does one that comes again at once. -/
theorem codes_followed (codes : List Int) :
    ((absent.applyAll codes).1.ready = true → (absent.applyAll codes).1.inserted = true) ∧
    told (absent.applyAll codes).2 = (absent.applyAll codes).1 ∧
    Event.InTurn (absent.applyAll codes).2 ∧
    (∀ before behind, (absent.applyAll codes).2 = before ++ .simReady :: behind →
      (told before).inserted = true) ∧
    (∀ before between behind, (absent.applyAll codes).2 = before ++ between ++ behind →
      .simInserted true ∉ between → between.count .simReady ≤ 1) ∧
    (∀ code ∉ [0, 1, 2, 3], (absent.applyAll codes).1.apply code = ((absent.applyAll codes).1, [])) ∧
    (∀ code more, absent.applyAll (codes ++ code :: code :: more)
      = absent.applyAll (codes ++ code :: more)) := by
  have hkept := upToDate_absent.applyAll codes
  rw [List.nil_append] at hkept
  have hturns := readyInTurn_applyAll sensible_absent codes
  refine ⟨hkept.sensible, hkept.told, hkept.turns, ?_, ?_, fun code => apply_unknown _, ?_⟩
  · intro before behind hevents
    rw [hevents] at hturns
    have htold : told before = ⟨true, false⟩ := hturns.taken
    rw [htold]
  · intro before between behind hevents hstays
    rw [hevents, List.append_assoc, readyInTurn_append, readyInTurn_append] at hturns
    have hcount := hturns.2.1.count_le hstays
    split at hcount <;> omega
  · intro code more
    rw [applyAll_append, applyAll_append]
    simp [applyAll, apply_again]

end SimStatus

end CellModem
