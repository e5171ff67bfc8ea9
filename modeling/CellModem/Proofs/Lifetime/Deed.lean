import CellModem.Modem.BringUp
import CellModem.Proofs.Conduct.Routine
import CellModem.Proofs.Lifetime.Account
import CellModem.Proofs.Operations.Plan

/-!
# What code does to the host

Once the instances of a modem have been created, code does two kinds of things to the host. It shows
and removes instances; and it changes what has nothing to do with their lives, and may announce that.
-/

namespace CellModem

variable {υ : Type} {f : Facility} {n : Nat} {ρ : Type}

/-- The event tells that there is a modem now, or that there is none any more. -/
def Event.ofModem : Event → Bool
  | .modemAdded _ | .modemRemoved => true
  | _ => false

namespace Host

/-- The lives of the instances, and the places of the modems, are as before. -/
structure Alike (h h' : Host υ) : Prop where
  accounts : ∀ f n, h'.account? f n = h.account? f n
  retirals : ∀ f n, h'.retirals f n = h.retirals f n
  places : ∀ i : Nat, h'.modems[i]?.map Modem.facilities = h.modems[i]?.map Modem.facilities

/-- Such events, at most, have been added. -/
structure Announces (ok : Event → Prop) (h h' : Host υ) : Prop where
  listening : h'.listening = h.listening
  events : ∃ added, h'.events = h.events ++ added ∧ ∀ e ∈ added, ok e

/-- What code may do to the host at once. -/
inductive Deed (ok : Event → Prop) : Host υ → Host υ → Prop where
  | shown (h : Host υ) (f : Facility) (n : Nat) : Deed ok h (h.showInstance f n)
  | retracted (h : Host υ) (f : Facility) (n : Nat) : Deed ok h (h.retract f n)
  | dismissed (h : Host υ) (f : Facility) (n : Nat) : Deed ok h (h.removeInstance f n)
  | aside (h h' : Host υ) (alike : h.Alike h') (announces : h.Announces ok h') : Deed ok h h'

theorem Alike.refl (h : Host υ) : h.Alike h := ⟨fun _ _ => rfl, fun _ _ => rfl, fun _ => rfl⟩

theorem Alike.trans {h h' h'' : Host υ} (first : h.Alike h') (second : h'.Alike h'') :
    h.Alike h'' where
  accounts f n := (second.accounts f n).trans (first.accounts f n)
  retirals f n := (second.retirals f n).trans (first.retirals f n)
  places i := (second.places i).trans (first.places i)

namespace Announces

variable {ok : Event → Prop}

theorem nothing {h h' : Host υ} (listening : h'.listening = h.listening)
    (events : h'.events = h.events) : h.Announces ok h' :=
  ⟨listening, [], by rw [events, List.append_nil], nofun⟩

theorem trans {h h' h'' : Host υ} (first : h.Announces ok h') (second : h'.Announces ok h'') :
    h.Announces ok h'' := by
  obtain ⟨added, hadded, hok⟩ := first.events
  obtain ⟨added', hadded', hok'⟩ := second.events
  refine ⟨second.listening.trans first.listening, added ++ added', ?_, ?_⟩
  · rw [hadded', hadded, List.append_assoc]
  · exact List.forall_mem_append.mpr ⟨hok, hok'⟩

theorem weaken {ok' : Event → Prop} {h h' : Host υ} (announces : h.Announces ok h')
    (weaker : ∀ e, ok e → ok' e) : h.Announces ok' h' := by
  obtain ⟨added, hadded, hok⟩ := announces.events
  exact ⟨announces.listening, added, hadded, fun e he => weaker e (hok e he)⟩

end Announces

section

variable {ok : Event → Prop}

theorem alike_emit (h : Host υ) (e : Event) : h.Alike (h.emit e) := by
  unfold emit
  split
  · exact ⟨fun _ _ => rfl, fun _ _ => rfl, fun _ => rfl⟩
  · exact .refl h

theorem announces_emit (h : Host υ) {e : Event} (he : ok e) : h.Announces ok (h.emit e) := by
  unfold emit
  split
  · exact ⟨rfl, [e], rfl, fun e' he' => List.mem_singleton.mp he' ▸ he⟩
  · exact .nothing rfl rfl

theorem alike_emitAll (h : Host υ) (events : List Event) : h.Alike (h.emitAll events) := by
  induction events generalizing h with
  | nil => exact .refl h
  | cons e rest ih => exact (h.alike_emit e).trans (ih _)

theorem announces_emitAll (h : Host υ) {events : List Event} (hok : ∀ e ∈ events, ok e) :
    h.Announces ok (h.emitAll events) := by
  induction events generalizing h with
  | nil => exact .nothing rfl rfl
  | cons e rest ih =>
    obtain ⟨he, hrest⟩ := List.forall_mem_cons.mp hok
    exact (h.announces_emit he).trans (ih _ hrest)

theorem alike_modifyModem (h : Host υ) (i : Nat) {change : Modem → Modem}
    (same : ∀ m, (change m).facilities = m.facilities) : h.Alike (h.modifyModem i change) := by
  refine ⟨fun _ _ => rfl, fun _ _ => rfl, fun k => ?_⟩
  unfold modifyModem
  rw [List.getElem?_modify]
  cases h.modems[k]? with
  | none => rfl
  | some m =>
    by_cases hk : i = k
    · simp [hk, same]
    · simp [hk]

theorem alike_modifyInstance (h : Host υ) {change : Instance f → Instance f}
    (same : ∀ inst, (change inst).life = inst.life ∧ (change inst).driver = inst.driver ∧
      (change inst).driverName = inst.driverName) : h.Alike (h.modifyInstance f n change) := by
  refine ⟨fun g k => ?_, fun _ _ => rfl, fun _ => rfl⟩
  have hrevised : Revised f n id h (h.modifyInstance f n change) :=
    revised_modifyInstance h change fun inst retirals => by
      obtain ⟨hlife, hdriver, hname⟩ := same inst
      rw [hlife, hdriver, hname]
      rfl
  by_cases hat : g = f ∧ k = n
  · obtain ⟨rfl, rfl⟩ := hat
    rw [hrevised.own, Option.map_id]
    rfl
  · exact hrevised.others g k hat

theorem Revised.announces {revise : Account → Account} {h h' : Host υ}
    (revised : Revised f n revise h h') : h.Announces ok h' :=
  .nothing revised.listening revised.events

/-! ## Deeds -/

theorem Deed.announces {h h' : Host υ} (deed : Deed ok h h') : h.Announces ok h' := by
  cases deed with
  | shown f n => exact (h.revised_showInstance f n).announces
  | retracted f n => exact (h.revised_retract f n).announces
  | dismissed f n => exact (h.revised_removeInstance f n).announces
  | aside _ _ announces => exact announces

theorem Deed.weaken {ok' : Event → Prop} (weaker : ∀ e, ok e → ok' e) {h h' : Host υ}
    (deed : Deed ok h h') : Deed ok' h h' := by
  cases deed with
  | shown f n => exact .shown h f n
  | retracted f n => exact .retracted h f n
  | dismissed f n => exact .dismissed h f n
  | aside _ alike announces => exact .aside h h' alike (announces.weaken weaker)

/-- A deed does something usual to one account, or nothing to any. -/
theorem Deed.cases {h h' : Host υ} (deed : Deed ok h h') :
    (∃ f n revise, Account.Usual revise ∧ Revised f n revise h h') ∨ h.Alike h' := by
  cases deed with
  | shown f n => exact .inl ⟨f, n, _, .shown, h.revised_showInstance f n⟩
  | retracted f n => exact .inl ⟨f, n, _, .retracted, h.revised_retract f n⟩
  | dismissed f n => exact .inl ⟨f, n, _, .dismissed, h.revised_removeInstance f n⟩
  | aside _ alike _ => exact .inr alike

theorem Deed.account?_eq_none_iff {h h' : Host υ} (deed : Deed ok h h') (f : Facility) (n : Nat) :
    h'.account? f n = none ↔ h.account? f n = none := by
  rcases deed.cases with ⟨g, k, revise, -, hrevised⟩ | halike
  · exact hrevised.account?_eq_none_iff f n
  · rw [halike.accounts]

theorem deed_modifyModem (h : Host υ) (i : Nat) {change : Modem → Modem}
    (same : ∀ m, (change m).facilities = m.facilities) : Deed ok h (h.modifyModem i change) :=
  .aside _ _ (h.alike_modifyModem i same) (.nothing rfl rfl)

theorem setPowered_cases (i : Nat) (on : Bool) (h : Host υ) : h.setPowered i on = h ∨
    h.setPowered i on = (h.modifyModem i fun m => { m with powered := on }).emit (.powered on) := by
  unfold setPowered
  split
  · exact .inl rfl
  · split
    · exact .inl rfl
    · exact .inr rfl

theorem alike_setPowered (h : Host υ) (i : Nat) (on : Bool) : h.Alike (h.setPowered i on) := by
  rcases h.setPowered_cases i on with hsame | hset
  · rw [hsame]
    exact .refl h
  · have hmodified : h.Alike (h.modifyModem i fun m => { m with powered := on }) :=
      h.alike_modifyModem i fun _ => rfl
    rw [hset]
    exact hmodified.trans (alike_emit _ _)

theorem announces_setPowered (h : Host υ) (i : Nat) (on : Bool) (hok : ok (.powered on)) :
    h.Announces ok (h.setPowered i on) := by
  rcases h.setPowered_cases i on with hsame | hset
  · rw [hsame]
    exact .nothing rfl rfl
  · have hquiet : h.Announces ok (h.modifyModem i fun m => { m with powered := on }) :=
      .nothing rfl rfl
    rw [hset]
    exact hquiet.trans (announces_emit _ hok)

theorem deed_setPowered (h : Host υ) (i : Nat) (on : Bool) (hok : ok (.powered on)) :
    Deed ok h (h.setPowered i on) :=
  .aside _ _ (h.alike_setPowered i on) (h.announces_setPowered i on hok)

theorem deed_applySimStatus (h : Host υ) (i : Nat) (code : Int)
    (hok : ∀ inserted, ok (.simInserted inserted)) (hready : ok .simReady) :
    Deed ok h (h.applySimStatus i code) := by
  have hevents (s : SimStatus) : ∀ e ∈ (s.apply code).2, ok e := by
    unfold SimStatus.apply
    repeat' split
    all_goals simp [hok, hready]
  unfold applySimStatus
  split
  · exact .aside _ _ (.refl h) (.nothing rfl rfl)
  · next m _ =>
    have hmodified : h.Alike (h.modifyModem i fun m' => { m' with sim := (m.sim.apply code).1 }) :=
      h.alike_modifyModem i fun _ => rfl
    have hannounces : h.Announces ok
        (h.modifyModem i fun m' => { m' with sim := (m.sim.apply code).1 }) := .nothing rfl rfl
    exact .aside _ _ (hmodified.trans (alike_emitAll _ _))
      (hannounces.trans (announces_emitAll _ (hevents m.sim)))

theorem deed_allowance (h : Host υ) (allowance : Allowance) :
    Deed ok h { h with allowance := allowance } :=
  .aside _ _ ⟨fun _ _ => rfl, fun _ _ => rfl, fun _ => rfl⟩ (.nothing rfl rfl)

theorem deed_claim (h : Host υ) (f : Facility) (n : Nat) : Deed ok h (h.claim f n).2 := by
  rcases claim_cases f n h with ⟨e, hclaim⟩ | ⟨taken, hclaim, -⟩
  · rw [hclaim]
    exact .aside _ _ (.refl h) (.nothing rfl rfl)
  · rw [hclaim]
    exact .aside _ _ (h.alike_modifyInstance fun _ => ⟨rfl, rfl, rfl⟩) (.nothing rfl rfl)

theorem deed_settle (h : Host υ) (n : Nat) (result : Except Error (Settled f ρ))
    (hok : ∀ name property value, ok (.propertyChanged name property value)) :
    Deed ok h (h.settle n result) := by
  have hreleased : h.Alike (h.release f n) := h.alike_modifyInstance fun _ => ⟨rfl, rfl, rfl⟩
  cases result with
  | error e => exact .aside _ _ hreleased (.nothing rfl rfl)
  | ok settled =>
    have hstored : h.Alike ((h.release f n).modifyInstance f n fun inst =>
        { inst with cache := settled.store inst.cache }) :=
      hreleased.trans (alike_modifyInstance _ fun _ => ⟨rfl, rfl, rfl⟩)
    have hquiet : h.Announces ok ((h.release f n).modifyInstance f n fun inst =>
        { inst with cache := settled.store inst.cache }) := .nothing rfl rfl
    unfold settle
    dsimp only
    split
    · exact .aside _ _ hstored hquiet
    · unfold announce
      split
      · split
        · exact .aside _ _ (hstored.trans (alike_emit _ _))
            (hquiet.trans (announces_emit _ (hok _ _ _)))
        · exact .aside _ _ hstored hquiet
      · exact .aside _ _ hstored hquiet

end

end Host

end CellModem
