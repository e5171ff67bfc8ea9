import CellModem.Proofs.Operations.Slot

/-!
# The account of an instance

What decides over the life of an instance, with how often its driver has been let go. Showing,
removing and binding an instance change its own account only.
-/

namespace CellModem

structure Account where
  life : Lifecycle Unit
  driver : Option Driver
  driverName : String
  /-- How often the driver has been let go. -/
  retirals : Nat

namespace Account

/-- The account of an instance that is being probed. -/
def opened : Account := ⟨.probing, none, "", 0⟩

def shown (a : Account) : Account := { a with life := a.life.register }

def retracted (a : Account) : Account :=
  { a with life := a.life.remove.2, retirals := a.retirals + a.life.remove.1.toList.length }

def dismissed (a : Account) : Account := { a.retracted with driver := none }

def bound (d : Descriptor Driver) (a : Account) : Account where
  life := (a.life.bind ()).2
  driver := some d.body
  driverName := d.name
  retirals := a.retirals + (a.life.bind ()).1.toList.length

/-- No driver has been bound. -/
structure Unbound (a : Account) : Prop where
  teardown : a.life.teardown = none
  retirals : a.retirals = 0

/-- A driver has been bound. It has been let go, once, if the instance has been removed; otherwise
that is still to be done. -/
structure Owned (a : Account) : Prop where
  teardown : a.life.teardown = if a.life.state = .removed then none else some ()
  retirals : a.retirals = if a.life.state = .removed then 1 else 0

section

variable {a : Account}

theorem unbound_opened : opened.Unbound := ⟨rfl, rfl⟩

theorem shown_cases (a : Account) :
    a.shown = a ∨ a.life.state = .probing ∧
      a.shown = { a with life := { a.life with state := .registered } } := by
  unfold shown Lifecycle.register
  split
  · next hprobing => exact .inr ⟨hprobing, rfl⟩
  · exact .inl rfl

theorem retracted_of_removed (removed : a.life.state = .removed) : a.retracted = a := by
  unfold retracted Lifecycle.remove
  rw [if_pos removed]
  rfl

theorem retracted_of_kept (kept : a.life.state ≠ .removed) : a.retracted =
    { a with life := ⟨.removed, none⟩, retirals := a.retirals + a.life.teardown.toList.length } := by
  unfold retracted Lifecycle.remove
  rw [if_neg kept]

theorem state_retracted (a : Account) : a.retracted.life.state = .removed := by
  by_cases hremoved : a.life.state = .removed
  · rw [retracted_of_removed hremoved, hremoved]
  · rw [retracted_of_kept hremoved]

theorem Unbound.shown (h : a.Unbound) : a.shown.Unbound := by
  rcases a.shown_cases with hsame | ⟨-, hshown⟩
  · rw [hsame]
    exact h
  · rw [hshown]
    exact ⟨h.teardown, h.retirals⟩

theorem Unbound.retracted (h : a.Unbound) : a.retracted.Unbound := by
  by_cases hremoved : a.life.state = .removed
  · rw [retracted_of_removed hremoved]
    exact h
  · rw [retracted_of_kept hremoved, h.teardown]
    exact ⟨rfl, h.retirals⟩

theorem Unbound.dismissed (h : a.Unbound) : a.dismissed.Unbound :=
  ⟨h.retracted.teardown, h.retracted.retirals⟩

theorem Unbound.bound (h : a.Unbound) (d : Descriptor Driver) : (a.bound d).Owned := by
  unfold Account.bound Lifecycle.bind
  by_cases hremoved : a.life.state = .removed
  · rw [if_pos hremoved]
    exact ⟨by rw [if_pos hremoved]; exact h.teardown, by rw [if_pos hremoved, h.retirals]; rfl⟩
  · rw [if_neg hremoved]
    exact ⟨by rw [if_neg hremoved], by rw [if_neg hremoved, h.retirals]; rfl⟩

theorem Owned.shown (h : a.Owned) : a.shown.Owned := by
  rcases a.shown_cases with hsame | ⟨hprobing, hshown⟩
  · rw [hsame]
    exact h
  · have hteardown := h.teardown
    have hretirals := h.retirals
    rw [hprobing] at hteardown hretirals
    rw [hshown]
    exact ⟨hteardown, hretirals⟩

theorem Owned.retracted (h : a.Owned) : a.retracted.Owned := by
  by_cases hremoved : a.life.state = .removed
  · rw [retracted_of_removed hremoved]
    exact h
  · have hteardown := h.teardown
    have hretirals := h.retirals
    rw [if_neg hremoved] at hteardown hretirals
    rw [retracted_of_kept hremoved, hteardown, hretirals]
    exact ⟨rfl, rfl⟩

theorem Owned.dismissed (h : a.Owned) : a.dismissed.Owned :=
  ⟨h.retracted.teardown, h.retracted.retirals⟩

end

/-- What is done to an account at any time. -/
inductive Usual : (Account → Account) → Prop where
  | shown : Usual shown
  | retracted : Usual retracted
  | dismissed : Usual dismissed

namespace Usual

variable {revise : Account → Account} (usual : Usual revise) {a : Account}

include usual

theorem unbound (h : a.Unbound) : (revise a).Unbound := by
  cases usual with
  | shown => exact h.shown
  | retracted => exact h.retracted
  | dismissed => exact h.dismissed

theorem owned (h : a.Owned) : (revise a).Owned := by
  cases usual with
  | shown => exact h.shown
  | retracted => exact h.retracted
  | dismissed => exact h.dismissed

end Usual

end Account

namespace Host

variable {υ : Type} {f g : Facility} {n k : Nat}

def retirals (h : Host υ) (f : Facility) (n : Nat) : Nat := h.retired.count (f, n)

def account? (h : Host υ) (f : Facility) (n : Nat) : Option Account :=
  (h.instance? f n).map fun inst => ⟨inst.life, inst.driver, inst.driverName, h.retirals f n⟩

theorem account?_of_instance {h : Host υ} {inst : Instance f} (found : h.instance? f n = some inst) :
    h.account? f n = some ⟨inst.life, inst.driver, inst.driverName, h.retirals f n⟩ := by
  rw [account?, found]
  rfl

theorem instance_of_account? {h : Host υ} {a : Account} (found : h.account? f n = some a) :
    ∃ inst, h.instance? f n = some inst ∧ inst.life = a.life ∧ inst.driver = a.driver ∧
      inst.driverName = a.driverName ∧ h.retirals f n = a.retirals := by
  obtain ⟨inst, hinst, rfl⟩ := Option.map_eq_some_iff.mp found
  exact ⟨inst, hinst, rfl, rfl, rfl, rfl⟩

theorem account?_eq_none {h : Host υ} : h.account? f n = none ↔ h.instance? f n = none :=
  Option.map_eq_none_iff

theorem account?_congr {h h' : Host υ} (hinstance : h'.instance? f n = h.instance? f n)
    (hretirals : h'.retirals f n = h.retirals f n) : h'.account? f n = h.account? f n := by
  unfold account?
  rw [hinstance, hretirals]

/-! ## Changing one instance -/

theorem retirals_retire (h : Host υ) (f : Facility) (n : Nat) (teardown : Option Unit) :
    (h.retire f n teardown).retirals f n = h.retirals f n + teardown.toList.length := by
  cases teardown with
  | none => rfl
  | some _ => simp [retire, retirals]

theorem retirals_retire_of_ne (h : Host υ) (teardown : Option Unit) (ne : ¬ (g = f ∧ k = n)) :
    (h.retire f n teardown).retirals g k = h.retirals g k := by
  cases teardown with
  | none => rfl
  | some _ =>
    have hne : (f, n) ≠ (g, k) := fun heq =>
      ne ⟨(congrArg Prod.fst heq).symm, (congrArg Prod.snd heq).symm⟩
    simp [retire, retirals, hne]

/-- An instance is changed, and its driver perhaps let go. -/
theorem account?_modifyInstance_retire (h : Host υ) (change : Instance f → Instance f)
    (teardown : Option Unit) {inst : Instance f} (found : h.instance? f n = some inst) :
    ((h.modifyInstance f n change).retire f n teardown).account? f n
      = some ⟨(change inst).life, (change inst).driver, (change inst).driverName,
        h.retirals f n + teardown.toList.length⟩ := by
  have hinstance : ((h.modifyInstance f n change).retire f n teardown).instance? f n
      = some (change inst) := by
    have hmodified := instance?_modifyInstance (f := f) (n := n) h change
    rw [found] at hmodified
    cases teardown with
    | none => exact hmodified
    | some _ => exact hmodified
  rw [account?_of_instance hinstance, retirals_retire]
  rfl

theorem account?_modifyInstance_retire_of_ne (h : Host υ) (change : Instance f → Instance f)
    (teardown : Option Unit) (ne : ¬ (g = f ∧ k = n)) :
    ((h.modifyInstance f n change).retire f n teardown).account? g k = h.account? g k := by
  refine account?_congr ?_ ?_
  · have hmodified := instance?_modifyInstance_of_ne h change ne
    cases teardown with
    | none => exact hmodified
    | some _ => exact hmodified
  · rw [retirals_retire_of_ne _ teardown ne]
    rfl

/-- The account of the instance is changed so, and no other account; the modems and what has been
told of them are left alone. -/
structure Revised (f : Facility) (n : Nat) (revise : Account → Account) (h h' : Host υ) : Prop where
  own : h'.account? f n = (h.account? f n).map revise
  others : ∀ g k, ¬ (g = f ∧ k = n) → h'.account? g k = h.account? g k
  /-- Drivers of instances that do not exist are not let go. -/
  absent : ∀ g k, h.account? g k = none → h'.retirals g k = h.retirals g k
  modems : h'.modems = h.modems
  events : h'.events = h.events
  listening : h'.listening = h.listening

namespace Revised

variable {revise : Account → Account} {h h' : Host υ}

theorem account?_eq_none_iff (revised : Revised f n revise h h') (g : Facility) (k : Nat) :
    h'.account? g k = none ↔ h.account? g k = none := by
  by_cases hat : g = f ∧ k = n
  · obtain ⟨rfl, rfl⟩ := hat
    rw [revised.own, Option.map_eq_none_iff]
  · rw [revised.others g k hat]

/-- What held of the account before, or came of the change. -/
theorem cases (revised : Revised f n revise h h') {a : Account}
    (found : h'.account? g k = some a) :
    h.account? g k = some a ∨ g = f ∧ k = n ∧ ∃ b, h.account? g k = some b ∧ a = revise b := by
  by_cases hat : g = f ∧ k = n
  · obtain ⟨rfl, rfl⟩ := hat
    rw [revised.own] at found
    obtain ⟨b, hb, rfl⟩ := Option.map_eq_some_iff.mp found
    exact .inr ⟨rfl, rfl, b, hb, rfl⟩
  · rw [revised.others g k hat] at found
    exact .inl found

theorem of_modifyInstance_retire {h : Host υ} {change : Instance f → Instance f}
    {teardown : Option Unit} {inst : Instance f} (found : h.instance? f n = some inst)
    (same : (⟨(change inst).life, (change inst).driver, (change inst).driverName,
      h.retirals f n + teardown.toList.length⟩ : Account)
      = revise ⟨inst.life, inst.driver, inst.driverName, h.retirals f n⟩) :
    Revised f n revise h ((h.modifyInstance f n change).retire f n teardown) where
  own := by
    rw [account?_modifyInstance_retire h change teardown found, account?_of_instance found, same]
    rfl
  others g k := account?_modifyInstance_retire_of_ne h change teardown
  absent g k hnone := by
    have hne : ¬ (g = f ∧ k = n) := by
      rintro ⟨rfl, rfl⟩
      rw [account?_of_instance found] at hnone
      cases hnone
    rw [retirals_retire_of_ne _ teardown hne]
    rfl
  modems := by cases teardown <;> rfl
  events := by cases teardown <;> rfl
  listening := by cases teardown <;> rfl

theorem of_absent {h : Host υ} (absent : h.instance? f n = none) : Revised f n revise h h where
  own := by rw [account?_eq_none.mpr absent]; rfl
  others _ _ _ := rfl
  absent _ _ _ := rfl
  modems := rfl
  events := rfl
  listening := rfl

end Revised

theorem revised_modifyInstance (h : Host υ) (change : Instance f → Instance f)
    {revise : Account → Account} (same : ∀ (inst : Instance f) (retirals : Nat),
      (⟨(change inst).life, (change inst).driver, (change inst).driverName, retirals⟩ : Account)
        = revise ⟨inst.life, inst.driver, inst.driverName, retirals⟩) :
    Revised f n revise h (h.modifyInstance f n change) where
  own := by
    unfold account?
    rw [instance?_modifyInstance, Option.map_map, Option.map_map]
    exact congrArg (Option.map · _) (funext fun inst => same inst _)
  others g k ne := account?_congr (instance?_modifyInstance_of_ne h change ne) rfl
  absent _ _ _ := rfl
  modems := rfl
  events := rfl
  listening := rfl

theorem Revised.trans {revise revise' : Account → Account} {h h' h'' : Host υ}
    (first : Revised f n revise h h') (second : Revised f n revise' h' h'') :
    Revised f n (revise' ∘ revise) h h'' where
  own := by rw [second.own, first.own, Option.map_map]
  others g k ne := (second.others g k ne).trans (first.others g k ne)
  absent g k hnone :=
    (second.absent g k ((first.account?_eq_none_iff g k).mpr hnone)).trans (first.absent g k hnone)
  modems := second.modems.trans first.modems
  events := second.events.trans first.events
  listening := second.listening.trans first.listening

theorem revised_showInstance (h : Host υ) (f : Facility) (n : Nat) :
    Revised f n Account.shown h (h.showInstance f n) :=
  revised_modifyInstance h _ fun _ _ => rfl

theorem revised_retract (h : Host υ) (f : Facility) (n : Nat) :
    Revised f n Account.retracted h (h.retract f n) := by
  unfold retract
  cases hinst : h.instance? f n with
  | none => exact .of_absent hinst
  | some inst => exact .of_modifyInstance_retire hinst rfl

theorem revised_removeInstance (h : Host υ) (f : Facility) (n : Nat) :
    Revised f n Account.dismissed h (h.removeInstance f n) := by
  have hunbound : Revised f n (fun a => { a with driver := none }) h
      (h.modifyInstance f n fun inst => { inst with driver := none }) :=
    revised_modifyInstance h _ fun _ _ => rfl
  exact hunbound.trans (revised_retract _ f n)

theorem revised_bindInstance (h : Host υ) (f : Facility) (n : Nat) (d : Descriptor Driver) :
    Revised f n (Account.bound d) h (h.bindInstance f n d) := by
  unfold bindInstance
  cases hinst : h.instance? f n with
  | none => exact .of_absent hinst
  | some inst => exact .of_modifyInstance_retire hinst rfl

/-! ## New instances -/

/-- Only drivers of instances that exist have been let go. -/
def Tidy (h : Host υ) : Prop := ∀ f n, h.account? f n = none → h.retirals f n = 0

theorem Tidy.revised {revise : Account → Account} {h h' : Host υ} (tidy : h.Tidy)
    (revised : Revised f n revise h h') : h'.Tidy := by
  intro g k hnone
  have hbefore := (revised.account?_eq_none_iff g k).mp hnone
  rw [revised.absent g k hbefore, tidy g k hbefore]

section

variable (h : Host υ) (f : Facility) (vendor : Vendor)

theorem account?_addInstance_self (tidy : h.Tidy) :
    h.account? f (h.addInstance f vendor).1 = none ∧
      (h.addInstance f vendor).2.account? f (h.addInstance f vendor).1 = some .opened := by
  have habsent : h.instance? f (h.addInstance f vendor).1 = none :=
    List.getElem?_eq_none (Nat.le_refl _)
  have hnone := account?_eq_none.mpr habsent
  refine ⟨hnone, ?_⟩
  have hadded : (h.addInstance f vendor).2.instance? f (h.addInstance f vendor).1
      = some (.fresh f vendor) := by
    unfold addInstance instance?
    dsimp only
    rw [PerFacility.get_set_self, List.getElem?_concat_length]
  have hretirals : (h.addInstance f vendor).2.retirals f (h.addInstance f vendor).1 = 0 :=
    tidy f _ hnone
  rw [account?_of_instance hadded, hretirals]
  rfl

theorem account?_addInstance_of_ne (ne : ¬ (g = f ∧ k = (h.addInstance f vendor).1)) :
    (h.addInstance f vendor).2.account? g k = h.account? g k := by
  refine account?_congr ?_ rfl
  unfold addInstance instance?
  by_cases hg : g = f
  · subst hg
    rw [PerFacility.get_set_self]
    rcases Nat.lt_or_ge k (h.instances.get g).length with hk | hk
    · exact List.getElem?_append_left hk
    · have hk : (h.instances.get g).length < k := Nat.lt_of_le_of_ne hk fun hk => ne ⟨rfl, hk.symm⟩
      rw [List.getElem?_eq_none (Nat.le_of_lt hk), List.getElem?_eq_none]
      rw [List.length_append]
      exact hk
  · rw [PerFacility.get_set_of_ne _ _ hg]

theorem tidy_addInstance (tidy : h.Tidy) : (h.addInstance f vendor).2.Tidy := by
  intro g k hnone
  by_cases hat : g = f ∧ k = (h.addInstance f vendor).1
  · obtain ⟨rfl, rfl⟩ := hat
    rw [(account?_addInstance_self h g vendor tidy).2] at hnone
    cases hnone
  · rw [account?_addInstance_of_ne h f vendor hat] at hnone
    exact tidy g k hnone

end

end Host

end CellModem
