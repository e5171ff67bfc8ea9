import Mathlib.Logic.Relation
import CellModem.Proofs.Lifetime.Callers

/-!
# Drivers are let go once

Instances are offered to drivers, which accept or decline them. An instance may be shown and removed
at any time: while a driver probes it, before it is bound to the driver that accepted it, and any time
after. However that goes, the driver that accepted it is let go once, as soon as the instance is both
bound and removed, and no other driver ever is.
-/

namespace CellModem

variable {υ : Type}

/-- What a driver has said about the instance it was offered. -/
inductive Verdict where
  | awaited
  | accepted
  | declined
  deriving DecidableEq

namespace LifeState

/-- How a state may go on. -/
inductive Onward : LifeState → LifeState → Prop where
  | stays (s : LifeState) : Onward s s
  | shown : Onward .probing .registered
  | removed (s : LifeState) : Onward s .removed

end LifeState

/-- A host, and for each instance what has become of the offer. -/
structure Offers (υ : Type) where
  host : Host υ
  verdict? : Facility → Nat → Option Verdict

namespace Offers

def judge (w : Offers υ) (f : Facility) (n : Nat) (v : Verdict) : Facility → Nat → Option Verdict :=
  fun g k => if g = f ∧ k = n then some v else w.verdict? g k

/-- A new instance is offered to a driver. -/
def offer (w : Offers υ) (f : Facility) (vendor : Vendor) : Offers υ :=
  ⟨(w.host.addInstance f vendor).2, w.judge f (w.host.addInstance f vendor).1 .awaited⟩

/-- The driver accepts the instance, and is bound to it. -/
def accept (w : Offers υ) (f : Facility) (n : Nat) (d : Descriptor Driver) : Offers υ :=
  ⟨w.host.bindInstance f n d, w.judge f n .accepted⟩

def decline (w : Offers υ) (f : Facility) (n : Nat) : Offers υ := ⟨w.host, w.judge f n .declined⟩

/-- A verdict is awaited once for each offer; all else that is done to the host may be done at any
time. -/
inductive Step : Offers υ → Offers υ → Prop where
  | offer (w : Offers υ) (f : Facility) (vendor : Vendor) : Step w (w.offer f vendor)
  | accept (w : Offers υ) (f : Facility) (n : Nat) (d : Descriptor Driver)
    (awaited : w.verdict? f n = some .awaited) : Step w (w.accept f n d)
  | decline (w : Offers υ) (f : Facility) (n : Nat) (awaited : w.verdict? f n = some .awaited) :
    Step w (w.decline f n)
  | deed (w : Offers υ) (host : Host υ) (deed : Host.Deed (fun _ => True) w.host host) :
    Step w { w with host := host }

abbrev Run : Offers υ → Offers υ → Prop := Relation.ReflTransGen Step

/-- No instance has been offered yet. -/
def opened (host : Host υ) : Offers υ := ⟨host, fun _ _ => none⟩

/-- The account fits the verdict. -/
def Fits : Option Verdict → Option Account → Prop
  | none, a => a = none
  | some .accepted, a => ∃ b, a = some b ∧ b.Owned
  | some _, a => ∃ b, a = some b ∧ b.Unbound

/-- All accounts fit. -/
structure Sound (w : Offers υ) : Prop where
  tidy : w.host.Tidy
  fits : ∀ f n, Fits (w.verdict? f n) (w.host.account? f n)

theorem Fits.usual {v : Option Verdict} {a : Option Account} (h : Fits v a)
    {revise : Account → Account} (usual : Account.Usual revise) : Fits v (a.map revise) := by
  cases v with
  | none =>
    rw [Fits] at h ⊢
    rw [h]
    rfl
  | some v =>
    cases v with
    | accepted =>
      obtain ⟨b, rfl, hb⟩ := h
      exact ⟨_, rfl, usual.owned hb⟩
    | awaited | declined =>
      obtain ⟨b, rfl, hb⟩ := h
      exact ⟨_, rfl, usual.unbound hb⟩

theorem deed_sound {w : Offers υ} (h : w.Sound) {host : Host υ}
    (deed : Host.Deed (fun _ => True) w.host host) : Sound { w with host := host } := by
  rcases deed.cases with ⟨f, n, revise, husual, hrevised⟩ | halike
  · refine ⟨h.tidy.revised hrevised, fun g k => ?_⟩
    by_cases hat : g = f ∧ k = n
    · obtain ⟨rfl, rfl⟩ := hat
      rw [hrevised.own]
      exact (h.fits g k).usual husual
    · rw [hrevised.others g k hat]
      exact h.fits g k
  · refine ⟨fun f n hnone => ?_, fun f n => ?_⟩
    · rw [halike.retirals]
      exact h.tidy f n (halike.accounts f n ▸ hnone)
    · rw [halike.accounts]
      exact h.fits f n

theorem step_sound {w w' : Offers υ} (h : w.Sound) (step : Step w w') : w'.Sound := by
  cases step with
  | offer f vendor =>
    refine ⟨Host.tidy_addInstance w.host f vendor h.tidy, fun g k => ?_⟩
    unfold offer judge
    dsimp only
    split
    · next hat =>
      obtain ⟨rfl, rfl⟩ := hat
      exact ⟨_, (Host.account?_addInstance_self w.host g vendor h.tidy).2, Account.unbound_opened⟩
    · next hat =>
      rw [Host.account?_addInstance_of_ne w.host f vendor hat]
      exact h.fits g k
  | accept f n d awaited =>
    have hbound := w.host.revised_bindInstance f n d
    refine ⟨h.tidy.revised hbound, fun g k => ?_⟩
    unfold accept judge
    dsimp only
    split
    · next hat =>
      obtain ⟨rfl, rfl⟩ := hat
      have hfits := h.fits g k
      rw [awaited] at hfits
      obtain ⟨b, hb, hunbound⟩ := hfits
      rw [hbound.own, hb]
      exact ⟨_, rfl, hunbound.bound d⟩
    · next hat =>
      rw [hbound.others g k hat]
      exact h.fits g k
  | decline f n awaited =>
    refine ⟨h.tidy, fun g k => ?_⟩
    unfold decline judge
    dsimp only
    split
    · next hat =>
      obtain ⟨rfl, rfl⟩ := hat
      have hfits := h.fits g k
      rw [awaited] at hfits
      exact hfits
    · exact h.fits g k
  | deed host deed => exact deed_sound h deed

theorem run_sound {w w' : Offers υ} (h : w.Sound) (run : Run w w') : w'.Sound := by
  induction run with
  | refl => exact h
  | tail _ step ih => exact step_sound ih step

/-! ## States go on -/

theorem onward_of_revised {f g : Facility} {n k : Nat} {revise : Account → Account} {h h' : Host υ}
    (revised : Host.Revised f n revise h h')
    (onward : ∀ a : Account, a.life.state.Onward (revise a).life.state) {a : Account}
    (found : h.account? g k = some a) :
    ∃ a', h'.account? g k = some a' ∧ a.life.state.Onward a'.life.state := by
  by_cases hat : g = f ∧ k = n
  · obtain ⟨rfl, rfl⟩ := hat
    refine ⟨_, ?_, onward a⟩
    rw [revised.own, found]
    rfl
  · exact ⟨a, by rw [revised.others g k hat, found], .stays _⟩

theorem onward_usual {revise : Account → Account} (usual : Account.Usual revise) (a : Account) :
    a.life.state.Onward (revise a).life.state := by
  cases usual with
  | shown =>
    rcases a.shown_cases with hsame | ⟨hprobing, hshown⟩
    · rw [hsame]
      exact .stays _
    · rw [hshown, hprobing]
      exact .shown
  | retracted =>
    rw [a.state_retracted]
    exact .removed _
  | dismissed => exact a.state_retracted ▸ .removed _

theorem step_onward {w w' : Offers υ} (step : Step w w') {f : Facility} {n : Nat} {a : Account}
    (found : w.host.account? f n = some a) (tidy : w.host.Tidy) :
    ∃ a', w'.host.account? f n = some a' ∧ a.life.state.Onward a'.life.state := by
  cases step with
  | offer g vendor =>
    have hne : ¬ (f = g ∧ n = (w.host.addInstance g vendor).1) := by
      rintro ⟨rfl, rfl⟩
      rw [(Host.account?_addInstance_self w.host f vendor tidy).1] at found
      cases found
    exact ⟨a, (Host.account?_addInstance_of_ne w.host g vendor hne).trans found, .stays _⟩
  | accept g k d awaited =>
    refine onward_of_revised (w.host.revised_bindInstance g k d) (fun b => ?_) found
    unfold Account.bound Lifecycle.bind
    split
    · exact .stays _
    · exact .stays _
  | decline g k awaited => exact ⟨a, found, .stays _⟩
  | deed host deed =>
    rcases deed.cases with ⟨g, k, revise, husual, hrevised⟩ | halike
    · exact onward_of_revised hrevised (onward_usual husual) found
    · exact ⟨a, by rw [halike.accounts, found], .stays _⟩

/-! ## Creating instances -/

/-- The host may be this one after more steps. -/
def Reached (w : Offers υ) (h : Host υ) : Prop := ∃ w', Run w w' ∧ w'.host = h

/-- Such a driver probes an instance at once. It may show and remove it, or have that done later, and
do other things, but does not bind it. -/
def Lawful (probe : Descriptor Driver → Nat → Act (Host υ) Bool) : Prop :=
  ∀ d n, (probe d n).Prompt (Host.Deed fun _ => True) Anything

theorem lawful_probe (f : Facility) (vendor : Vendor) :
    Lawful (Host.probe f vendor : Descriptor Driver → Nat → Act (Host υ) Bool) :=
  fun d n => (Host.prompt_probe f vendor d n).mono fun _ _ use =>
    use.ordinary.weaken fun _ _ => trivial

theorem stable_reached (w : Offers υ) : Stable (Host.Deed fun _ => True) w.Reached := by
  rintro h h' deed ⟨w', run, rfl⟩
  exact ⟨_, run.tail (.deed w' h' deed), rfl⟩

/-- Whoever creates an instance offers it, and binds it to the driver that accepts it. -/
theorem create_keeps {w₀ w : Offers υ} {f : Facility}
    {probe : Descriptor Driver → Nat → Act (Host υ) Bool} (lawful : Lawful probe)
    (r : Registry Driver) (name? : Option String) (vendor : Vendor) (run : Run w₀ w)
    {next : Except Error (Descriptor Driver × Nat) → Routine (Host υ)}
    (hnext : ∀ created h, w₀.Reached h → (next created).Keeps w₀.Reached Anything w₀.Reached h) :
    (r.create name? (modifyGet (·.addInstance f vendor)) probe
      (fun d n => modify (·.bindInstance f n d)) next).Keeps w₀.Reached Anything w₀.Reached w.host := by
  let probed (n : Nat) (h : Host υ) : Prop :=
    ∃ w', Run w₀ w' ∧ w'.host = h ∧ w'.verdict? f n = some .awaited
  have hprobed (n : Nat) : Stable (Host.Deed fun _ => True) (probed n) := by
    rintro h h' deed ⟨w', hrun, rfl, hawaited⟩
    exact ⟨_, hrun.tail (.deed w' h' deed), rfl, hawaited⟩
  refine Registry.create_keeps (Q := probed) w₀.stable_reached lawful hprobed ?_ ?_ r
    (fun e => hnext _) ?_ ⟨w, run, rfl⟩
  · rintro _ ⟨w', hrun, rfl⟩
    exact ⟨_, hrun.tail (.offer w' f vendor), rfl, if_pos ⟨rfl, rfl⟩⟩
  · rintro n _ ⟨w', hrun, rfl, hawaited⟩
    exact ⟨_, hrun.tail (.decline w' f n hawaited), rfl⟩
  · rintro d n _ - ⟨w', hrun, rfl, hawaited⟩
    exact hnext _ _ ⟨_, hrun.tail (.accept w' f n d hawaited), rfl⟩

end Offers

/-! ## Instances that are gone -/

namespace Host

variable {f : Facility} {n : Nat} {ρ : Type} {h : Host υ} {inst : Instance f}

/-- Showing an instance that has been removed changes nothing. -/
theorem showInstance_removed (found : h.instance? f n = some inst)
    (removed : inst.life.state = .removed) : h.showInstance f n = h := by
  have hsame : (h.instances.get f).modify n
      (fun inst => { inst with life := inst.life.register }) = h.instances.get f := by
    refine List.ext_getElem? fun k => ?_
    rw [List.getElem?_modify]
    by_cases hk : n = k
    · subst hk
      change (h.instances.get f)[n]? = some inst at found
      have hlife : inst.life.register = inst.life := by
        unfold Lifecycle.register
        rw [removed]
        rfl
      rw [found]
      simp [hlife]
    · simp [hk]
  unfold showInstance modifyInstance
  rw [hsame, PerFacility.set_get]

/-- An operation of an instance that has been removed is answered at once, and nothing is sent. -/
theorem perform_removed {C : Type → Type} [Channel C] {m : Machine C (Host υ)}
    (found : m.state.instance? f n = some inst) (removed : inst.life.state = .removed)
    (op : Operation υ f ρ) (reply : Except Error ρ → Routine (Host υ)) :
    ((perform n op).routine reply).exec m = (reply (.error .instanceGone)).exec m := by
  rw [routine_perform, Routine.exec, Routine.exec, claim_removed found removed]

end Host

namespace Offers

theorem opened_sound {host : Host υ} (empty : ∀ f n, host.instance? f n = none)
    (unretired : host.retired = []) : (opened host).Sound where
  tidy f n _ := by
    unfold Host.retirals opened
    rw [unretired]
    rfl
  fits f n := Host.account?_eq_none.mpr (empty f n)

theorem retirals_of_fits {w : Offers υ} (h : w.Sound) {f : Facility} {n : Nat} {inst : Instance f}
    (found : w.host.instance? f n = some inst) : w.host.retirals f n =
      if w.verdict? f n = some .accepted ∧ inst.life.state = .removed then 1 else 0 := by
  have hfits := h.fits f n
  rw [Host.account?_of_instance found] at hfits
  cases hverdict : w.verdict? f n with
  | none =>
    rw [hverdict] at hfits
    cases hfits
  | some v =>
    rw [hverdict] at hfits
    cases v with
    | accepted =>
      obtain ⟨b, hb, howned⟩ := hfits
      obtain rfl := Option.some.inj hb
      exact howned.retirals.trans (by simp)
    | awaited | declined =>
      obtain ⟨b, hb, hunbound⟩ := hfits
      obtain rfl := Option.some.inj hb
      exact hunbound.retirals

/-- However instances are offered to drivers, and shown and removed: the driver of an instance has
been let go exactly when it had accepted the instance and the instance has been removed, and then
once. The state of an instance only goes on; once it has been removed it cannot be shown, and its
operations are turned away with nothing sent. Instances are created in this way with whatever drivers
there are, on whatever channel, whenever the modem answers about the radio settings. -/
theorem driver_let_go_once {host : Host υ} (empty : ∀ f n, host.instance? f n = none)
    (unretired : host.retired = []) {w : Offers υ} (run : Run (opened host) w) :
    (∀ f n (inst : Instance f), w.host.instance? f n = some inst →
      w.host.retirals f n =
        (if w.verdict? f n = some .accepted ∧ inst.life.state = .removed then 1 else 0) ∧
      (∀ w', Step w w' → ∃ inst', w'.host.instance? f n = some inst' ∧
        inst.life.state.Onward inst'.life.state) ∧
      (inst.life.state = .removed → w.host.showInstance f n = w.host ∧
        ∀ {C : Type → Type} [Channel C] {ρ : Type} (op : Operation υ f ρ)
          (reply : Except Error ρ → Routine (Host υ)) (m : Machine C (Host υ)), m.state = w.host →
          ((Host.perform n op).routine reply).exec m = (reply (.error .instanceGone)).exec m)) ∧
    (∀ f vendor (r : Registry Driver) name? probe, Lawful probe →
      (r.create name? (modifyGet (·.addInstance f vendor)) probe
        (fun d n => modify (·.bindInstance f n d)) fun _ => .done).Keeps w.Reached Anything
          w.Reached w.host) ∧
    ∀ f vendor name?, ((Host.create f vendor name?).routine fun _ => .done).Keeps w.Reached Anything
      w.Reached w.host := by
  have hsound := run_sound (opened_sound empty unretired) run
  refine ⟨fun f n inst found => ⟨?_, fun w' step => ?_, fun removed => ⟨?_, ?_⟩⟩, ?_, ?_⟩
  · exact retirals_of_fits hsound found
  · obtain ⟨a', ha', honward⟩ := step_onward step (Host.account?_of_instance found) hsound.tidy
    obtain ⟨inst', hinst', hlife, -⟩ := Host.instance_of_account? ha'
    exact ⟨inst', hinst', hlife ▸ honward⟩
  · exact Host.showInstance_removed found removed
  · intro C _ ρ op reply m hm
    exact Host.perform_removed (hm.symm ▸ found) removed op reply
  · intro f vendor r name? probe lawful
    exact create_keeps lawful r name? vendor .refl fun _ _ hreached => hreached
  · intro f vendor name?
    exact create_keeps (lawful_probe f vendor) _ name? vendor .refl fun _ _ hreached => hreached

/-- Two instances for the radio settings. The driver of the first removes it while it is still being
probed, and then accepts it; late it is shown. The second is declined. -/
def withdrawn : Offers Unit :=
  let offered := (opened (Host.initial ())).offer .radioSettings .default
  let removed := { offered with host := offered.host.retract .radioSettings 0 }
  let accepted := removed.accept .radioSettings 0 ⟨0, "telitmodem", .full⟩
  let late := { accepted with host := accepted.host.showInstance .radioSettings 0 }
  (late.offer .radioSettings .default).decline .radioSettings 1

theorem driver_let_go_once_withdrawn :
    (∀ f n, (Host.initial ()).instance? f n = none) ∧ (Host.initial ()).retired = [] ∧
    Run (opened (Host.initial ())) withdrawn ∧
    withdrawn.host.retirals .radioSettings 0 = 1 ∧
    withdrawn.host.retirals .radioSettings 1 = 0 := by
  have hempty : ∀ f n, (Host.initial ()).instance? f n = none := fun f n => by
    cases f <;> rfl
  have hrun : Run (opened (Host.initial ())) withdrawn := by
    exact Relation.ReflTransGen.refl.tail (.offer _ .radioSettings .default) |>.tail
      (.deed _ _ (.retracted _ .radioSettings 0)) |>.tail
      (.accept _ .radioSettings 0 ⟨0, "telitmodem", .full⟩ rfl) |>.tail
      (.deed _ _ (.shown _ .radioSettings 0)) |>.tail (.offer _ .radioSettings .default) |>.tail
      (.decline _ .radioSettings 1 rfl)
  obtain ⟨hinstances, -⟩ := driver_let_go_once hempty rfl hrun
  refine ⟨hempty, rfl, hrun, ?_, ?_⟩
  · exact (hinstances .radioSettings 0 _ rfl).1
  · exact (hinstances .radioSettings 1 _ rfl).1

end Offers

end CellModem
