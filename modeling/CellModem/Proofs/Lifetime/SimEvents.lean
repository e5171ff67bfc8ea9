import CellModem.Sim.Status
import Mathlib.Data.List.Chain

/-!
# What the host is told of a SIM

The host is told when a SIM comes, when it can be used and when it goes, and can keep its own status
of the SIM from that. Each status code changes both alike. Once the SIM counts as absent without
anybody having been told, no status code brings the two together again.
-/

namespace CellModem

def Event.ofSim : Event → Bool
  | .simInserted _ | .simReady => true
  | _ => false

/-- What is told of the SIM's being there, in order. -/
def Event.insertions (events : List Event) : List Bool :=
  events.filterMap fun
    | .simInserted inserted => some inserted
    | _ => none

namespace SimStatus

/-- What the SIM is taken for after the event, by one who takes it for `s`. -/
def hear (s : SimStatus) : Event → SimStatus
  | .simInserted true => { s with inserted := true }
  | .simInserted false => absent
  | .simReady => { s with ready := true }
  | _ => s

/-- What the SIM is taken for by one who has been told just that. -/
def told (events : List Event) : SimStatus := events.foldl hear absent

theorem told_append (events more : List Event) :
    told (events ++ more) = more.foldl hear (told events) :=
  List.foldl_append

/-! ## Taking in a status code -/

/-- A usable SIM is there. -/
def Sensible (s : SimStatus) : Prop := s.ready = true → s.inserted = true

theorem apply_cases (s : SimStatus) (code : Int) :
    s.apply code = (absent, if s.inserted then [.simInserted false] else []) ∨
    s.apply code = (s, []) ∨
    (s.inserted = false ∧ s.apply code = ({ s with inserted := true }, [.simInserted true])) ∨
    (s.ready = false ∧ s.apply code =
      (⟨true, true⟩, (if s.inserted then [] else [.simInserted true]) ++ [.simReady])) := by
  unfold apply
  split
  · exact .inl rfl
  · split
    · cases hinserted : s.inserted with
      | true => exact .inr (.inl rfl)
      | false => exact .inr (.inr (.inl ⟨rfl, rfl⟩))
    · split
      · cases hready : s.ready with
        | true => exact .inr (.inl rfl)
        | false => exact .inr (.inr (.inr ⟨rfl, rfl⟩))
      · exact .inr (.inl rfl)

theorem eq_absent {s : SimStatus} (sensible : s.Sensible) (gone : s.inserted = false) :
    s = absent := by
  obtain ⟨inserted, ready⟩ := s
  cases ready with
  | false => exact congrArg (SimStatus.mk · false) gone
  | true => exact absurd (sensible rfl) (by rw [gone]; decide)

theorem sensible_apply {s : SimStatus} (sensible : s.Sensible) (code : Int) :
    (s.apply code).1.Sensible := by
  rcases s.apply_cases code with happly | happly | ⟨-, happly⟩ | ⟨-, happly⟩
  · rw [happly]
    exact fun h => h
  · rw [happly]
    exact sensible
  · rw [happly]
    exact fun _ => rfl
  · rw [happly]
    exact fun _ => rfl

/-- Who has the status from before comes to have the new one. -/
theorem hear_apply {s : SimStatus} (sensible : s.Sensible) (code : Int) :
    (s.apply code).2.foldl hear s = (s.apply code).1 := by
  rcases s.apply_cases code with happly | happly | ⟨-, happly⟩ | ⟨-, happly⟩
  · rw [happly]
    cases hinserted : s.inserted with
    | true => rfl
    | false => exact eq_absent sensible hinserted
  · rw [happly]
    rfl
  · rw [happly]
    rfl
  · rw [happly]
    obtain ⟨inserted, ready⟩ := s
    cases inserted <;> rfl

/-- What is told is what has changed. -/
theorem insertions_apply (s : SimStatus) (code : Int) :
    Event.insertions (s.apply code).2 =
      if (s.apply code).1.inserted = s.inserted then [] else [(s.apply code).1.inserted] := by
  rcases s.apply_cases code with happly | happly | ⟨hgone, happly⟩ | ⟨-, happly⟩
  · rw [happly]
    cases hinserted : s.inserted <;> rfl
  · rw [happly, if_pos rfl]
    rfl
  · rw [happly, hgone]
    rfl
  · rw [happly]
    cases hinserted : s.inserted <;> rfl

end SimStatus

/-! ## What has been told, and what is so -/

namespace Event

/-- It has been told in turn that the SIM has come and that it has gone. -/
def InTurn (events : List Event) : Prop := (false :: insertions events).IsChain (· ≠ ·)

theorem insertions_append (events more : List Event) :
    insertions (events ++ more) = insertions events ++ insertions more :=
  List.filterMap_append

theorem getLast?_insertions (s : SimStatus) (events : List Event) :
    (s.inserted :: insertions events).getLast? = some (events.foldl SimStatus.hear s).inserted := by
  induction events generalizing s with
  | nil => rfl
  | cons e rest ih =>
    rw [List.foldl_cons, ← ih (s.hear e)]
    cases e with
    | simInserted inserted => cases inserted <;> exact List.getLast?_cons_cons
    | _ => rfl

theorem getLast?_told (events : List Event) :
    (false :: insertions events).getLast? = some (SimStatus.told events).inserted :=
  getLast?_insertions .absent events

theorem InTurn.of_append {events more : List Event} (turns : InTurn (events ++ more)) :
    InTurn events := by
  unfold InTurn at turns
  rw [insertions_append, ← List.cons_append] at turns
  exact (List.isChain_append.mp turns).1

/-- One more is in turn if it is other than what the SIM has been taken for. -/
theorem inTurn_append_iff {events more : List Event} {inserted : Bool}
    (one : insertions more = [inserted]) : InTurn (events ++ more) ↔
      InTurn events ∧ (SimStatus.told events).inserted ≠ inserted := by
  unfold InTurn
  rw [insertions_append, one, ← List.cons_append, List.isChain_append, getLast?_told]
  simp

theorem inTurn_append_of_none {events more : List Event} (none : insertions more = []) :
    InTurn (events ++ more) ↔ InTurn events := by
  unfold InTurn
  rw [insertions_append, none, List.append_nil]

theorem hear_quiet {more : List Event} (quiet : ∀ e ∈ more, e.ofSim = false) (s : SimStatus) :
    more.foldl SimStatus.hear s = s := by
  induction more generalizing s with
  | nil => rfl
  | cons e rest ih =>
    obtain ⟨he, hrest⟩ := List.forall_mem_cons.mp quiet
    have hsame : s.hear e = s := by
      cases e with
      | simInserted _ => cases he
      | simReady => cases he
      | _ => rfl
    rw [List.foldl_cons, hsame, ih hrest]

theorem insertions_quiet {more : List Event} (quiet : ∀ e ∈ more, e.ofSim = false) :
    insertions more = [] := by
  refine List.filterMap_eq_nil_iff.mpr fun e he => ?_
  have hquiet := quiet e he
  cases e with
  | simInserted _ => cases hquiet
  | _ => rfl

end Event

namespace SimStatus

open Event

variable {events : List Event} {s : SimStatus}

/-- What has been told gives the status. -/
structure UpToDate (events : List Event) (s : SimStatus) : Prop where
  told : told events = s
  turns : InTurn events
  sensible : s.Sensible

/-- It has been told twice that the SIM has come or has gone, or what is taken for there counts as
absent. -/
def OutOfDate (events : List Event) (s : SimStatus) : Prop :=
  ¬ InTurn events ∨ (told events).inserted = true ∧ s.inserted = false

theorem UpToDate.quiet (h : UpToDate events s) {more : List Event}
    (quiet : ∀ e ∈ more, e.ofSim = false) : UpToDate (events ++ more) s where
  told := by rw [told_append, hear_quiet quiet, h.told]
  turns := (inTurn_append_of_none (insertions_quiet quiet)).mpr h.turns
  sensible := h.sensible

theorem OutOfDate.quiet (h : OutOfDate events s) {more : List Event}
    (quiet : ∀ e ∈ more, e.ofSim = false) : OutOfDate (events ++ more) s := by
  unfold OutOfDate
  rwa [inTurn_append_of_none (insertions_quiet quiet), told_append, hear_quiet quiet]

theorem UpToDate.apply (h : UpToDate events s) (code : Int) :
    UpToDate (events ++ (s.apply code).2) (s.apply code).1 where
  told := by rw [told_append, h.told, hear_apply h.sensible]
  turns := by
    have hinsertions := s.insertions_apply code
    split at hinsertions
    · exact (inTurn_append_of_none hinsertions).mpr h.turns
    · next hchanged =>
      rw [inTurn_append_iff hinsertions, h.told]
      exact ⟨h.turns, Ne.symm hchanged⟩
  sensible := sensible_apply h.sensible code

theorem OutOfDate.apply (h : OutOfDate events s) (code : Int) :
    OutOfDate (events ++ (s.apply code).2) (s.apply code).1 := by
  rcases h with hturns | ⟨htold, hgone⟩
  · exact .inl fun turns => hturns turns.of_append
  · have hinsertions := s.insertions_apply code
    split at hinsertions
    · next hsame =>
      -- Nothing has been told, so the last that was told is still that the SIM has come.
      have hlast := getLast?_told (events ++ (s.apply code).2)
      rw [insertions_append, hinsertions, List.append_nil, getLast?_told, htold] at hlast
      exact .inr ⟨(Option.some.inj hlast).symm, hsame.trans hgone⟩
    · next hchanged =>
      refine .inl fun turns => ((inTurn_append_iff hinsertions).mp turns).2 ?_
      rw [hgone] at hchanged
      rw [htold, (Bool.not_eq_false _).mp hchanged]

theorem UpToDate.absent (h : UpToDate events s) (gone : s.inserted = false) : UpToDate events absent :=
  eq_absent h.sensible gone ▸ h

theorem UpToDate.lapses (h : UpToDate events s) (there : s.inserted = true) :
    OutOfDate events SimStatus.absent :=
  .inr ⟨by rw [h.told, there], rfl⟩

theorem OutOfDate.absent (h : OutOfDate events s) : OutOfDate events SimStatus.absent :=
  h.imp_right fun ⟨htold, _⟩ => ⟨htold, rfl⟩

end SimStatus

end CellModem
