import CellModem.Proofs.Conduct.Attended

/-!
# One who waits alone

Code that works towards a state, with a command now and then, has the channel to itself until it gets
there: nobody else waits, and handlers only look on. So it goes on at most once from every stop, and
gets there at most once. After that there may be many who wait.
-/

namespace CellModem

open scoped List

variable {σ : Type} {before after : σ → Prop} {may : String → Prop}

/-- The code ends or waits in a state with `before`, until it leaves one with `after`, which it then
keeps. Until then it goes on from whatever `before` state there is. The handlers it registers do nothing
to the channel and keep both. -/
inductive Routine.Alone (before after : σ → Prop) (may : String → Prop) : Routine σ → σ → Prop where
  | done {s : σ} (hs : before s) : Alone before after may .done s
  | arrives {r : Routine σ} {s : σ} (keeps : r.Keeps after may after s) : Alone before after may r s
  | read {next : σ → Routine σ} {s : σ} (goes : Alone before after may (next s) s) :
    Alone before after may (.read next) s
  | write {s s' : σ} {next : Routine σ} (goes : Alone before after may next s') :
    Alone before after may (.write s' next) s
  | send {command : String} {leads : List String} {next : Option Response → Routine σ} {s : σ}
    (hs : before s) (now : ∀ answer, Alone before after may (next answer) s)
    (later : ∀ response s', before s' → Alone before after may (next (some response)) s') :
    Alone before after may (.send command leads next) s
  | register {lead : String} {handler : Response → Routine σ} {next : Option Nat → Routine σ} {s : σ}
    (looksOn : ∀ line s', before s' → (handler line).Inward before s')
    (looksOn' : ∀ line s', after s' → (handler line).Inward after s')
    (goes : ∀ id, Alone before after may (next id) s) :
    Alone before after may (.register lead handler next) s

/-- An act that only sends, changes the state, and registers handlers has the channel to itself as
long as whoever comes after it has. -/
theorem Act.Made.alone {change : σ → σ → Prop} {α : Type} {act : Act σ α}
    (made : act.Made change Anything) (hbefore : Stable change before) (hafter : Stable change after)
    {next : α → Routine σ} (hnext : ∀ a s, before s → (next a).Alone before after may s) {s : σ}
    (hs : before s) : (act next).Alone before after may s := by
  refine made (fun r => ∀ s, before s → r.Alone before after may s) ?_ ?_ ?_ next hnext s hs
  · intro command leads next _ ih s hs
    exact .send hs (fun answer => ih answer s hs) fun response => ih (some response)
  · intro γ g next hg ih s hs
    exact .read (.write (ih _ _ (hbefore s _ (hg s) hs)))
  · intro lead handler next hhandler ih s hs
    exact .register (fun line => hhandler line before hbefore)
      (fun line => hhandler line after hafter) fun id => ih id s hs

section

variable {C : Type → Type} [Channel C] [Attended C]

open Attended

/-- Whoever may be given a line does nothing to the channel. -/
def Handler.LooksOn (before after : σ → Prop) (h : Handler (Resume σ)) : Prop :=
  (∀ line s, before s → (h.handler line).Inward before s) ∧
    ∀ line s, after s → (h.handler line).Inward after s

namespace Machine

/-- At most one waits, who has the channel to itself. -/
structure Lone (before after : σ → Prop) (may : String → Prop) (m : Machine C σ) : Prop where
  state : before m.state
  single : (waiting m.channel).length ≤ 1
  waiting : ∀ resume ∈ waiting m.channel, ∀ response s, before s →
    (resume response).Alone before after may s
  handlers : ∀ h ∈ handlers m.channel, h.LooksOn before after

/-- One who waits alone is still on the way, or the state is there and all keep it. -/
def Goes (before after : σ → Prop) (may : String → Prop) (m : Machine C σ) : Prop :=
  m.Lone before after may ∨ after m.state ∧ m.Attends after may

theorem Lone.inward {m m' : Machine C σ} (lone : m.Lone before after may) (state : before m'.state)
    (channel : m'.channel = m.channel) : m'.Lone before after may where
  state := state
  single := channel ▸ lone.single
  waiting := channel ▸ lone.waiting
  handlers := channel ▸ lone.handlers

end Machine

variable [AttendedLaws C]

/-- Code that has the channel to itself, where nobody waits. -/
theorem Routine.Alone.goes {r : Routine σ} {m : Machine C σ} (alone : r.Alone before after may m.state)
    (nobody : waiting m.channel = []) (looksOn : ∀ h ∈ handlers m.channel, h.LooksOn before after) :
    (r.exec m).Goes before after may := by
  generalize hs : m.state = s at alone
  induction alone generalizing m with
  | done hbefore =>
    refine .inl ⟨hs ▸ hbefore, ?_, fun resume hresume => ?_, looksOn⟩
    · rw [Routine.exec, nobody]
      exact Nat.zero_le 1
    · rw [Routine.exec, nobody] at hresume
      cases hresume
  | arrives keeps =>
    rw [← hs] at keeps
    have hattends : m.Attends after may := by
      refine ⟨fun resume hresume => ?_, fun h hh line s => ?_⟩
      · rw [nobody] at hresume
        cases hresume
      · exact fun hafter => ((looksOn h hh).2 line s hafter).keeps
    exact .inr ⟨keeps.exec, (keeps.attends hattends).1⟩
  | read goes ih =>
    subst hs
    exact ih nobody looksOn rfl
  | write goes ih => exact ih (m := { m with state := _ }) nobody looksOn rfl
  | @send command leads next s hbefore now later ih =>
    cases hsent : Channel.send m.channel command leads fun response => next (some response) with
    | refused channel =>
      rw [exec_refused hsent]
      have hless := AttendedLaws.refused hsent
      refine ih none (m := { m with channel := channel }) ?_ ?_ hs
      · exact List.sublist_nil.mp (nobody ▸ hless.waiting)
      · exact fun h hh => looksOn h (hless.handlers h hh)
    | answered channel response =>
      rw [exec_answered hsent]
      obtain ⟨-, hwaiting, hhandlers, -⟩ := AttendedLaws.answered hsent
      refine ih (some response) (m := { m with channel := channel }) (hwaiting nobody) ?_ hs
      exact fun h hh => looksOn h (hhandlers ▸ hh)
    | held channel =>
      rw [exec_held hsent]
      obtain ⟨hwaiting, hhandlers, -⟩ := AttendedLaws.held hsent
      rw [nobody, List.nil_append] at hwaiting
      refine .inl ⟨hs ▸ hbefore, hwaiting.length_le, fun resume hresume => ?_, ?_⟩
      · rw [List.mem_singleton.mp (hwaiting.subset hresume)]
        exact later
      · exact fun h hh => looksOn h (hhandlers ▸ hh)
  | @register lead handler next s hlooks hlooks' goes ih =>
    unfold Routine.exec
    cases hregister : Channel.register m.channel lead handler with
    | none => exact ih none nobody looksOn hs
    | some taken =>
      obtain ⟨hwaiting, hhandlers, -⟩ := AttendedLaws.register hregister
      refine ih _ (m := { m with channel := taken.2 }) (hwaiting.trans nobody) (fun h hh => ?_) hs
      rw [hhandlers] at hh
      rcases List.mem_append.mp hh with hh | hh
      · exact looksOn h hh
      · rw [List.mem_singleton.mp hh]
        exact ⟨hlooks, hlooks'⟩

namespace Machine

theorem Lone.answers {m : Machine C σ} (lone : m.Lone before after may) {input : Attended.Input C}
    {channel : C (Resume σ)} {answered : List (Resume σ × Response)}
    (delivered : Attended.deliver m.channel input = .answers channel answered) :
    Goes before after may (resumeAll { m with channel := channel } answered) := by
  obtain ⟨hwaiting, hhandlers, -⟩ := AttendedLaws.answers delivered
  have hlooksOn : ∀ h ∈ Attended.handlers channel, h.LooksOn before after :=
    fun h hh => lone.handlers h (hhandlers ▸ hh)
  have hlength := Nat.le_trans hwaiting.length_le lone.single
  rw [List.length_append, List.length_map] at hlength
  -- Either nobody is answered, or the one who waited is, and then nobody waits.
  match answered with
  | [] =>
    refine .inl ⟨lone.state, ?_, fun resume hresume => ?_, hlooksOn⟩
    · exact Nat.le_trans (Nat.le_add_left _ _) hlength
    · exact lone.waiting resume (hwaiting.subset hresume)
  | [(resume, response)] =>
    have hresume : resume ∈ Attended.waiting m.channel := hwaiting.subset List.mem_cons_self
    have hnobody : Attended.waiting channel = [] :=
      List.eq_nil_of_length_eq_zero (Nat.le_zero.mp (Nat.le_of_add_le_add_left hlength))
    exact Routine.Alone.goes (m := { m with channel := channel })
      (lone.waiting resume hresume response m.state lone.state) hnobody hlooksOn
  | _ :: _ :: _ =>
    simp only [List.length_cons] at hlength
    omega

theorem Lone.hears {m : Machine C σ} (lone : m.Lone before after may) {input : Attended.Input C}
    {channel : C (Resume σ)} {given : List (Handler (Resume σ))} {line : String}
    {back : C (Resume σ) → C (Resume σ)}
    (delivered : Attended.deliver m.channel input = .hears channel given line back) :
    let heard := Machine.deliver { m with channel := channel } given line
    Machine.Lone before after may { heard with channel := back heard.channel } := by
  obtain ⟨hlessened, hgiven, hback⟩ := AttendedLaws.hears delivered
  have hinward : ∀ w ∈ Handler.informed given line, ∀ s, before s → (w.1 w.2).Inward before s := by
    intro w hw
    obtain ⟨h, hh, rfl⟩ := List.mem_map.mp hw
    exact (lone.handlers h (hgiven h (List.mem_filter.mp hh).1)).1 _
  obtain ⟨hstate, hchannel⟩ :=
    resumeAll_inward (m := { m with channel := channel }) lone.state hinward
  have hwaiting : Attended.waiting (back _) <+ Attended.waiting m.channel :=
    ((hback _).1.trans (congrArg Attended.waiting hchannel)) ▸ hlessened.waiting
  refine ⟨hstate, Nat.le_trans hwaiting.length_le lone.single, fun resume hresume => ?_, fun h hh => ?_⟩
  · exact lone.waiting resume (hwaiting.subset hresume)
  · rcases (hback _).2.1 h hh with hh | hh
    · exact lone.handlers h hh
    · have hh : h ∈ Attended.handlers channel := (congrArg Attended.handlers hchannel) ▸ hh
      exact lone.handlers h (hlessened.handlers h hh)

/-- Whatever happens on the channel. -/
theorem feed_goes {m : Machine C σ} (goes : m.Goes before after may) (input : Attended.Input C) :
    (m.feed input).Goes before after may := by
  rcases goes with lone | ⟨hafter, hattends⟩
  · unfold feed
    cases hdelivered : Attended.deliver m.channel input with
    | answers channel answered => exact lone.answers hdelivered
    | hears channel given line back => exact .inl (lone.hears hdelivered)
  · obtain ⟨hafter', hattends', -⟩ := feed_attends hafter hattends input
    exact .inr ⟨hafter', hattends'⟩

/-- Code that keeps the state, and leaves the channel alone as long as somebody is on the way. -/
theorem exec_goes {m : Machine C σ} (goes : m.Goes before after may) {r : Routine σ}
    (inward : ∀ s, before s → r.Inward before s) (keeps : ∀ s, after s → r.Keeps after may after s) :
    (r.exec m).Goes before after may := by
  rcases goes with lone | ⟨hafter, hattends⟩
  · obtain ⟨hstate, hchannel⟩ := (inward m.state lone.state).exec
    exact .inl (lone.inward hstate hchannel)
  · exact .inr ⟨(keeps m.state hafter).exec, ((keeps m.state hafter).attends hattends).1⟩

end Machine

end

end CellModem
