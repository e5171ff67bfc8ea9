import CellModem.Host.Operation

/-!
# The slot of an instance

An instance has one slot for operations, and is busy while it is taken. It is taken by a claim and
freed when the operation is settled; nothing else the host does touches it.
-/

namespace CellModem.Host

variable {υ : Type} {f g : Facility} {n k : Nat} {ρ : Type}

/-- Whether an instance is busy, if there is one. -/
def busy? (f : Facility) (n : Nat) (h : Host υ) : Option Bool := (h.instance? f n).map Instance.busy

theorem busy?_of_instance {h : Host υ} {inst : Instance f} (found : h.instance? f n = some inst) :
    h.busy? f n = some inst.busy := by
  rw [busy?, found]
  rfl

theorem instance?_modifyInstance (h : Host υ) (change : Instance f → Instance f) :
    (h.modifyInstance f n change).instance? f n = (h.instance? f n).map change := by
  simp [instance?, modifyInstance]

theorem instance?_modifyInstance_of_ne (h : Host υ) (change : Instance f → Instance f)
    (ne : ¬ (g = f ∧ k = n)) : (h.modifyInstance f n change).instance? g k = h.instance? g k := by
  unfold instance? modifyInstance
  by_cases hg : g = f
  · subst hg
    have hk : n ≠ k := fun hk => ne ⟨rfl, hk.symm⟩
    rw [PerFacility.get_set_self, List.getElem?_modify_ne _ _ hk]
  · rw [PerFacility.get_set_of_ne _ _ hg]

/-- Whatever happened, no slot was taken or freed, no answer was given, and what is new is free. -/
structure Apart (h h' : Host υ) : Prop where
  observed : h'.observed = h.observed
  kept : ∀ f n, h.busy? f n ≠ none → h'.busy? f n = h.busy? f n
  fresh : ∀ f n, h.busy? f n = none → h'.busy? f n ≠ some true

theorem Apart.of_busy? {h h' : Host υ} (observed : h'.observed = h.observed)
    (same : ∀ f n, h'.busy? f n = h.busy? f n) : h.Apart h' where
  observed := observed
  kept f n _ := same f n
  fresh f n hnone := by
    rw [same, hnone]
    nofun

theorem Apart.refl (h : Host υ) : h.Apart h := .of_busy? rfl fun _ _ => rfl

theorem Apart.trans {h h' h'' : Host υ} (first : h.Apart h') (second : h'.Apart h'') :
    h.Apart h'' where
  observed := second.observed.trans first.observed
  kept f n hsome := by
    have hfirst := first.kept f n hsome
    rw [second.kept f n (hfirst ▸ hsome), hfirst]
  fresh f n hnone := by
    by_cases hsome : h'.busy? f n = none
    · exact second.fresh f n hsome
    · rw [second.kept f n hsome]
      exact first.fresh f n hnone

theorem busy?_modifyInstance (h : Host υ) (change : Instance f → Instance f)
    (same : ∀ inst, (change inst).busy = inst.busy) (g : Facility) (k : Nat) :
    (h.modifyInstance f n change).busy? g k = h.busy? g k := by
  unfold busy?
  by_cases hat : g = f ∧ k = n
  · obtain ⟨rfl, rfl⟩ := hat
    rw [instance?_modifyInstance, Option.map_map]
    exact congrArg (Option.map · _) (funext same)
  · rw [instance?_modifyInstance_of_ne h change hat]

theorem apart_modifyInstance (h : Host υ) (change : Instance f → Instance f)
    (same : ∀ inst, (change inst).busy = inst.busy) : h.Apart (h.modifyInstance f n change) :=
  .of_busy? rfl (busy?_modifyInstance h change same)

theorem apart_retire (h : Host υ) (f : Facility) (n : Nat) (teardown : Option Unit) :
    h.Apart (h.retire f n teardown) := by
  cases teardown with
  | none => exact .refl h
  | some _ => exact .of_busy? rfl fun _ _ => rfl

theorem apart_retract (h : Host υ) (f : Facility) (n : Nat) : h.Apart (h.retract f n) := by
  unfold retract
  cases h.instance? f n with
  | none => exact .refl h
  | some inst =>
    have hremoved : h.Apart (h.modifyInstance f n fun i => { i with life := inst.life.remove.2 }) :=
      apart_modifyInstance h _ fun _ => rfl
    exact hremoved.trans (apart_retire _ f n _)

theorem apart_removeInstance (h : Host υ) (f : Facility) (n : Nat) :
    h.Apart (h.removeInstance f n) := by
  have hunbound : h.Apart (h.modifyInstance f n fun i => { i with driver := none }) :=
    apart_modifyInstance h _ fun _ => rfl
  exact hunbound.trans (apart_retract _ f n)

theorem apart_showInstance (h : Host υ) (f : Facility) (n : Nat) : h.Apart (h.showInstance f n) :=
  apart_modifyInstance h _ fun _ => rfl

theorem apart_bindInstance (h : Host υ) (f : Facility) (n : Nat) (d : Descriptor Driver) :
    h.Apart (h.bindInstance f n d) := by
  unfold bindInstance
  cases h.instance? f n with
  | none => exact .refl h
  | some inst =>
    have hbound : h.Apart (h.modifyInstance f n fun i =>
        { i with life := (inst.life.bind ()).2, driver := some d.body, driverName := d.name }) :=
      apart_modifyInstance h _ fun _ => rfl
    exact hbound.trans (apart_retire _ f n _)

theorem apart_addInstance (h : Host υ) (f : Facility) (vendor : Vendor) :
    h.Apart (h.addInstance f vendor).2 := by
  have hadded : ∀ g k, (h.addInstance f vendor).2.busy? g k = h.busy? g k ∨
      h.busy? g k = none ∧ (h.addInstance f vendor).2.busy? g k = some false := by
    intro g k
    unfold addInstance busy? instance?
    by_cases hg : g = f
    · subst hg
      rw [PerFacility.get_set_self]
      rcases Nat.lt_trichotomy k (h.instances.get g).length with hk | rfl | hk
      · rw [List.getElem?_append_left hk]
        exact .inl rfl
      · simp [Instance.fresh]
      · have hlong : (h.instances.get g ++ [Instance.fresh g vendor]).length ≤ k := by
          rw [List.length_append]
          exact hk
        rw [List.getElem?_eq_none hlong, List.getElem?_eq_none (Nat.le_of_lt hk)]
        exact .inl rfl
    · rw [PerFacility.get_set_of_ne _ _ hg]
      exact .inl rfl
  refine ⟨rfl, fun g k hsome => ?_, fun g k hnone => ?_⟩
  · rcases hadded g k with hsame | ⟨hnone, -⟩
    · exact hsame
    · exact absurd hnone hsome
  · rcases hadded g k with hsame | ⟨-, hfree⟩
    · rw [hsame, hnone]
      nofun
    · rw [hfree]
      nofun

/-! ## Taking and freeing -/

/-- What a claim of an instance may come to. -/
theorem claim_cases (f : Facility) (n : Nat) (h : Host υ) :
    (∃ e, Host.claim f n h = (.error e, h)) ∨
    ∃ taken, Host.claim f n h
        = (.ok taken, h.modifyInstance f n fun inst => { inst with busy := true }) ∧
      h.busy? f n = some false := by
  unfold Host.claim
  cases hinst : h.instance? f n with
  | none => exact .inl ⟨_, rfl⟩
  | some inst =>
    dsimp only
    split
    · exact .inl ⟨_, rfl⟩
    · split
      · exact .inl ⟨_, rfl⟩
      · next hfree =>
        cases inst.driver with
        | none => exact .inl ⟨_, rfl⟩
        | some driver =>
          refine .inr ⟨_, rfl, ?_⟩
          rw [busy?_of_instance hinst, Bool.eq_false_iff.mpr hfree]

theorem observed_claim (f : Facility) (n : Nat) (h : Host υ) :
    (Host.claim f n h).2.observed = h.observed := by
  rcases claim_cases f n h with ⟨e, hclaim⟩ | ⟨taken, hclaim, -⟩
  · rw [hclaim]
  · rw [hclaim]
    rfl

theorem instance?_claim_of_ne (h : Host υ) (ne : ¬ (g = f ∧ k = n)) :
    (Host.claim f n h).2.instance? g k = h.instance? g k := by
  rcases claim_cases f n h with ⟨e, hclaim⟩ | ⟨taken, hclaim, -⟩
  · rw [hclaim]
  · rw [hclaim]
    exact instance?_modifyInstance_of_ne h _ ne

theorem claim_ok {h host : Host υ} {taken : Vendor × Driver}
    (granted : Host.claim f n h = (.ok taken, host)) :
    host = h.modifyInstance f n (fun inst => { inst with busy := true }) ∧
      h.busy? f n = some false := by
  rcases claim_cases f n h with ⟨e, hclaim⟩ | ⟨taken', hclaim, hfree⟩
  · rw [hclaim] at granted
    cases granted
  · rw [hclaim] at granted
    exact ⟨(Prod.mk.inj granted).2.symm, hfree⟩

theorem claim_error {h : Host υ} {e : Error} (refused : (Host.claim f n h).1 = .error e) :
    Host.claim f n h = (.error e, h) := by
  rcases claim_cases f n h with ⟨e', hclaim⟩ | ⟨taken, hclaim, -⟩
  · rw [hclaim] at refused ⊢
    rw [Except.error.inj refused]
  · rw [hclaim] at refused
    cases refused

theorem busy?_of_claim {h : Host υ} (refused : (Host.claim f n h).1 = .error .busy) :
    h.busy? f n = some true := by
  unfold Host.claim at refused
  split at refused
  · cases refused
  · next inst hinst =>
    rw [busy?_of_instance hinst]
    split at refused
    · cases refused
    · split at refused
      · next hbusy => rw [hbusy]
      · split at refused <;> cases refused

/-- A busy instance is not taken. -/
theorem claim_busy {h : Host υ} {inst : Instance f} (found : h.instance? f n = some inst)
    (busy : inst.busy = true) : Host.claim f n h
      = (.error (if inst.life.state = .removed then .instanceGone else .busy), h) := by
  unfold Host.claim
  rw [found]
  dsimp only
  split
  · rfl
  · rfl

theorem busy?_take (h : Host υ) (g : Facility) (k : Nat) :
    (h.modifyInstance f n fun inst => { inst with busy := true }).busy? g k
      = if g = f ∧ k = n then (h.busy? g k).map fun _ => true else h.busy? g k := by
  unfold busy?
  split
  · next hat =>
    obtain ⟨rfl, rfl⟩ := hat
    rw [instance?_modifyInstance, Option.map_map, Option.map_map]
    rfl
  · next hat => rw [instance?_modifyInstance_of_ne _ _ hat]

theorem busy?_settle (h : Host υ) (result : Except Error (Settled f ρ)) (g : Facility) (k : Nat) :
    (h.settle n result).busy? g k = if g = f ∧ k = n then (h.busy? g k).map fun _ => false
      else h.busy? g k := by
  have hrelease : (h.release f n).busy? g k = if g = f ∧ k = n then
      (h.busy? g k).map fun _ => false else h.busy? g k := by
    unfold release busy?
    split
    · next hat =>
      obtain ⟨rfl, rfl⟩ := hat
      rw [instance?_modifyInstance, Option.map_map, Option.map_map]
      rfl
    · next hat => rw [instance?_modifyInstance_of_ne _ _ hat]
  cases result with
  | error e => exact hrelease
  | ok settled =>
    have hstored := busy?_modifyInstance (n := n) (h.release f n)
      (fun inst => { inst with cache := settled.store inst.cache }) (fun _ => rfl) g k
    rw [hrelease] at hstored
    rw [← hstored]
    unfold settle
    dsimp only
    cases settled.change with
    | none => rfl
    | some change =>
      dsimp only
      unfold announce emit
      repeat' split
      all_goals rfl

theorem instance?_settle_of_ne (h : Host υ) (result : Except Error (Settled f ρ))
    (ne : ¬ (g = f ∧ k = n)) : (h.settle n result).instance? g k = h.instance? g k := by
  have hrelease := instance?_modifyInstance_of_ne h (fun inst : Instance f =>
    { inst with busy := false }) ne
  cases result with
  | error e => exact hrelease
  | ok settled =>
    have hstored := instance?_modifyInstance_of_ne (h.release f n) (fun inst : Instance f =>
      { inst with cache := settled.store inst.cache }) ne
    refine Eq.trans ?_ (hstored.trans hrelease)
    unfold settle
    dsimp only
    cases settled.change with
    | none => rfl
    | some change =>
      dsimp only
      unfold announce emit
      repeat' split
      all_goals rfl

theorem observed_settle (h : Host υ) (n : Nat) (result : Except Error (Settled f ρ)) :
    (h.settle n result).observed = h.observed := by
  cases result with
  | error e => rfl
  | ok settled =>
    unfold settle
    dsimp only
    cases settled.change with
    | none => rfl
    | some change =>
      dsimp only
      unfold announce emit
      repeat' split
      all_goals rfl

end CellModem.Host
