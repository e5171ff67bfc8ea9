import CellModem.Proofs.Lifetime.BringUp

/-!
# Where the instances of a modem stand

Of all instances the host has had since a modem was brought up, those that a driver accepted are in
the places of the modem, or have been removed. Of the others no driver has been bound. So nothing is
lost track of: what is in the places is all there is to take down.
-/

namespace CellModem

variable {υ : Type} {f : Facility} {n : Nat}

namespace Account

/-- No operation reaches the instance. -/
def Dead (a : Account) : Prop := a.life.state = .removed ∨ a.driver = none

/-- No driver has accepted the instance. -/
structure Spare (a : Account) : Prop where
  unbound : a.Unbound
  driver : a.driver = none
  driverName : a.driverName = ""

/-- A driver of this library has accepted the instance. -/
structure Taken (a : Account) : Prop where
  owned : a.Owned
  driverName : a.driverName = CellModem.driverName

theorem spare_opened : opened.Spare := ⟨unbound_opened, rfl, rfl⟩

theorem Spare.dead {a : Account} (h : a.Spare) : a.Dead := .inr h.driver

theorem Spare.bound {a : Account} (h : a.Spare) {d : Descriptor Driver}
    (named : d.name = CellModem.driverName) : (a.bound d).Taken :=
  ⟨h.unbound.bound d, named⟩

namespace Usual

variable {revise : Account → Account} (usual : Usual revise) {a : Account}

include usual

theorem removed (h : a.life.state = .removed) : (revise a).life.state = .removed := by
  cases usual with
  | shown =>
    rcases a.shown_cases with hsame | ⟨hprobing, -⟩
    · rw [hsame, h]
    · rw [hprobing] at h
      cases h
  | retracted => exact a.state_retracted
  | dismissed => exact a.state_retracted

theorem dead (h : a.Dead) : (revise a).Dead := by
  rcases h with hremoved | hdriver
  · exact .inl (usual.removed hremoved)
  · cases usual with
    | shown => exact .inr hdriver
    | retracted => exact .inl a.state_retracted
    | dismissed => exact .inr rfl

theorem spare (h : a.Spare) : (revise a).Spare := by
  have hunbound := usual.unbound h.unbound
  cases usual with
  | shown => exact ⟨hunbound, h.driver, h.driverName⟩
  | retracted => exact ⟨hunbound, h.driver, h.driverName⟩
  | dismissed => exact ⟨hunbound, rfl, h.driverName⟩

theorem taken (h : a.Taken) : (revise a).Taken := by
  have howned := usual.owned h.owned
  cases usual with
  | shown => exact ⟨howned, h.driverName⟩
  | retracted => exact ⟨howned, h.driverName⟩
  | dismissed => exact ⟨howned, h.driverName⟩

end Usual

end Account

namespace Host

/-- The places of a modem, by facility. -/
abbrev Places : Type := PerFacility fun _ => Option Nat

/-- Where the instances stand since the host was `h₀`, and what is in the places of the modem. Of
those that are new, only the ones that are `held` are neither removed nor without a driver. -/
structure Standing (h₀ : Host υ) (i : Nat) (held : Facility → Nat → Prop) (places : Places)
    (h : Host υ) : Prop where
  tidy : h.Tidy
  places : h.modems[i]?.map Modem.facilities = some places
  known : ∀ f n, h.account? f n = none → h₀.account? f n = none
  old : ∀ f n a, h₀.account? f n ≠ none → h.account? f n = some a → a.Dead
  new : ∀ f n a, h₀.account? f n = none → h.account? f n = some a →
    a.Spare ∨ a.Taken ∧ (a.life.state = .removed ∨ held f n)

/-- The instance is new, and no driver has accepted it yet. -/
def Offered (h₀ : Host υ) (f : Facility) (n : Nat) (h : Host υ) : Prop :=
  h₀.account? f n = none ∧ ∃ a, h.account? f n = some a ∧ a.Spare

namespace Standing

variable {h₀ h h' : Host υ} {i : Nat} {held held' : Facility → Nat → Prop} {places : Places}

theorem weaken (standing : Standing h₀ i held places h) (wider : ∀ f n, held f n → held' f n) :
    Standing h₀ i held' places h :=
  { standing with
    new := fun f n a habsent ha => by
      rcases standing.new f n a habsent ha with hspare | ⟨htaken, hgone⟩
      · exact .inl hspare
      · exact .inr ⟨htaken, hgone.imp_right (wider f n)⟩ }

theorem revised {revise : Account → Account} (standing : Standing h₀ i held places h)
    (revised : Revised f n revise h h') (usual : Account.Usual revise) :
    Standing h₀ i held places h' where
  tidy := standing.tidy.revised revised
  places := revised.modems ▸ standing.places
  known g k hnone := standing.known g k ((revised.account?_eq_none_iff g k).mp hnone)
  old g k a hold ha := by
    rcases revised.cases ha with ha | ⟨-, -, b, hb, rfl⟩
    · exact standing.old g k a hold ha
    · exact usual.dead (standing.old g k b hold hb)
  new g k a hnew ha := by
    rcases revised.cases ha with ha | ⟨-, -, b, hb, rfl⟩
    · exact standing.new g k a hnew ha
    · rcases standing.new g k b hnew hb with hspare | ⟨htaken, hremoved | hheld⟩
      · exact .inl (usual.spare hspare)
      · exact .inr ⟨usual.taken htaken, .inl (usual.removed hremoved)⟩
      · exact .inr ⟨usual.taken htaken, .inr hheld⟩

theorem alike (standing : Standing h₀ i held places h) (alike : h.Alike h') :
    Standing h₀ i held places h' where
  tidy f n hnone := (alike.retirals f n).trans (standing.tidy f n (alike.accounts f n ▸ hnone))
  places := (alike.places i).trans standing.places
  known f n hnone := standing.known f n (alike.accounts f n ▸ hnone)
  old f n a hold ha := standing.old f n a hold (alike.accounts f n ▸ ha)
  new f n a hnew ha := standing.new f n a hnew (alike.accounts f n ▸ ha)

theorem stable {ok : Event → Prop} : Stable (Deed ok) (Standing h₀ i held places) := by
  intro h h' deed standing
  rcases deed.cases with ⟨f, n, revise, husual, hrevised⟩ | halike
  · exact standing.revised hrevised husual
  · exact standing.alike halike

/-- A new instance has no driver. -/
theorem added (standing : Standing h₀ i held places h) (f : Facility) (vendor : Vendor) :
    Standing h₀ i held places (h.addInstance f vendor).2 ∧
      Offered h₀ f (h.addInstance f vendor).1 (h.addInstance f vendor).2 := by
  obtain ⟨habsent, hopened⟩ := account?_addInstance_self h f vendor standing.tidy
  have hnew := standing.known _ _ habsent
  have hother (g : Facility) (k : Nat) (a : Account)
      (ha : (h.addInstance f vendor).2.account? g k = some a) :
      h.account? g k = some a ∨ h₀.account? g k = none ∧ a = .opened := by
    by_cases hat : g = f ∧ k = (h.addInstance f vendor).1
    · obtain ⟨rfl, rfl⟩ := hat
      exact .inr ⟨hnew, Option.some.inj (ha.symm.trans hopened)⟩
    · exact .inl (account?_addInstance_of_ne h f vendor hat ▸ ha)
  refine ⟨⟨tidy_addInstance h f vendor standing.tidy, standing.places, fun g k hnone => ?_,
    fun g k a hold ha => ?_, fun g k a hnew ha => ?_⟩, hnew, _, hopened, Account.spare_opened⟩
  · by_cases hat : g = f ∧ k = (h.addInstance f vendor).1
    · rw [hat.1, hat.2]
      exact hnew
    · exact standing.known g k (account?_addInstance_of_ne h f vendor hat ▸ hnone)
  · rcases hother g k a ha with ha | ⟨hnew, -⟩
    · exact standing.old g k a hold ha
    · exact absurd hnew hold
  · rcases hother g k a ha with ha | ⟨-, rfl⟩
    · exact standing.new g k a hnew ha
    · exact .inl Account.spare_opened

/-- The instance that a driver of this library accepts is held from then on. -/
theorem bound (standing : Standing h₀ i held places h) (offered : Offered h₀ f n h)
    {d : Descriptor Driver} (named : d.name = driverName) :
    Standing h₀ i (fun g k => held g k ∨ g = f ∧ k = n) places (h.bindInstance f n d) := by
  have hbound := h.revised_bindInstance f n d
  have standing' : Standing h₀ i (fun g k => held g k ∨ g = f ∧ k = n) places h :=
    standing.weaken fun _ _ => .inl
  obtain ⟨habsent, b, hb, hspare⟩ := offered
  refine ⟨standing.tidy.revised hbound, hbound.modems ▸ standing.places,
    fun g k hnone => standing.known g k ((hbound.account?_eq_none_iff g k).mp hnone),
    fun g k a hold ha => ?_, fun g k a hnew ha => ?_⟩
  · by_cases hat : g = f ∧ k = n
    · rw [hat.1, hat.2] at hold
      exact absurd habsent hold
    · exact standing.old g k a hold (hbound.others g k hat ▸ ha)
  · by_cases hat : g = f ∧ k = n
    · rw [hat.1, hat.2, hbound.own, hb] at ha
      obtain rfl := Option.some.inj ha
      exact .inr ⟨hspare.bound named, .inr (.inr hat)⟩
    · exact standing'.new g k a hnew (hbound.others g k hat ▸ ha)

/-- An instance that is removed is not held any more. -/
theorem dismissed (standing : Standing h₀ i held places h) (f : Facility) (n : Nat) :
    Standing h₀ i (fun g k => held g k ∧ ¬ (g = f ∧ k = n)) places (h.removeInstance f n) := by
  have hdismissed := h.revised_removeInstance f n
  have hstanding := standing.revised hdismissed .dismissed
  refine { hstanding with new := fun g k a hnew ha => ?_ }
  rcases hstanding.new g k a hnew ha with hspare | ⟨htaken, hremoved | hheld⟩
  · exact .inl hspare
  · exact .inr ⟨htaken, .inl hremoved⟩
  · by_cases hat : g = f ∧ k = n
    · obtain ⟨rfl, rfl⟩ := hat
      rw [hdismissed.own] at ha
      obtain ⟨b, -, rfl⟩ := Option.map_eq_some_iff.mp ha
      exact .inr ⟨htaken, .inl b.state_retracted⟩
    · exact .inr ⟨htaken, .inr ⟨hheld, hat⟩⟩

/-- Other instances are put in the places. -/
theorem placed (standing : Standing h₀ i held places h) {change : Modem → Modem}
    (place : Places → Places) (same : ∀ m, (change m).facilities = place m.facilities) :
    Standing h₀ i held (place places) (h.modifyModem i change) := by
  obtain ⟨m, hm, hplaces⟩ := Option.map_eq_some_iff.mp standing.places
  refine ⟨standing.tidy, ?_, standing.known, standing.old, standing.new⟩
  unfold modifyModem
  rw [List.getElem?_modify, hm, ← hplaces, ← same]
  simp

end Standing

theorem stable_offered {h₀ : Host υ} {ok : Event → Prop} : Stable (Deed ok) (Offered h₀ f n) := by
  rintro h h' deed ⟨habsent, a, ha, hspare⟩
  rcases deed.cases with ⟨g, k, revise, husual, hrevised⟩ | halike
  · by_cases hat : f = g ∧ n = k
    · obtain ⟨rfl, rfl⟩ := hat
      exact ⟨habsent, revise a, by rw [hrevised.own, ha]; rfl, husual.spare hspare⟩
    · exact ⟨habsent, a, (hrevised.others f n hat).trans ha, hspare⟩
  · exact ⟨habsent, a, (halike.accounts f n).trans ha, hspare⟩

end Host

end CellModem
