import CellModem.Channel.Simulator
import CellModem.Proofs.Lifetime.BringUp
import CellModem.Proofs.Registry.History

/-!
# Who is offered an instance

A new instance is offered to the drivers that match, one after the other and each under a handle of
its own, until one of them accepts. Drivers are any code that decides at once, on any channel.
-/

namespace CellModem

variable {C : Type → Type} {σ α υ : Type}

/-! ## Acts that return at once -/

/-- On any machine the act comes to this at once, whatever comes next. -/
def Act.Returns [Channel C] (act : Act σ α) (run : Machine C σ → α × Machine C σ) : Prop :=
  ∀ next m, (act next).exec m = (next (run m).1).exec (run m).2

/-! ## Trials -/

/-- A driver is shown a handle, from this machine on, and decides. -/
structure Trial (C : Type → Type) (υ : Type) where
  driver : Descriptor Driver
  handle : Nat
  start : Machine C (Host υ)
  accepted : Bool

/-- The machine with a handle on a new instance. -/
def Machine.opened (f : Facility) (vendor : Vendor) (m : Machine C (Host υ)) :
    Machine C (Host υ) :=
  { m with state := (m.state.addInstance f vendor).2 }

section

variable (f : Facility) (vendor : Vendor)
  (run : Descriptor Driver → Nat → Machine C (Host υ) → Bool × Machine C (Host υ))

/-- Drivers have been tried one after the other, each with the next handle. -/
inductive Tried : Machine C (Host υ) → List (Trial C υ) → Machine C (Host υ) → Prop where
  | nil (m : Machine C (Host υ)) : Tried m [] m
  | cons (d : Descriptor Driver) {m finish : Machine C (Host υ)} {trials : List (Trial C υ)}
    (later : Tried (run d (m.state.addInstance f vendor).1 (m.opened f vendor)).2 trials finish) :
    Tried m (⟨d, (m.state.addInstance f vendor).1, m.opened f vendor,
      (run d (m.state.addInstance f vendor).1 (m.opened f vendor)).1⟩ :: trials) finish

end

/-- Of the matching drivers, all have been tried and have declined, or those up to the first that
accepts. -/
inductive Decided (matching : List (Descriptor Driver)) :
    List (Trial C υ) → Option (Descriptor Driver × Nat) → Prop where
  | none {trials : List (Trial C υ)} (all : trials.map Trial.driver = matching)
    (declined : ∀ t ∈ trials, t.accepted = false) : Decided matching trials none
  | some {trials : List (Trial C υ)} {t : Trial C υ} {rest : List (Descriptor Driver)}
    (upTo : trials.map Trial.driver ++ t.driver :: rest = matching)
    (declined : ∀ t ∈ trials, t.accepted = false) (accepted : t.accepted = true) :
    Decided matching (trials ++ [t]) (some (t.driver, t.handle))

section

variable {f : Facility} {vendor : Vendor}
  {run : Descriptor Driver → Nat → Machine C (Host υ) → Bool × Machine C (Host υ)}

theorem Decided.cons_declined {matching : List (Descriptor Driver)} {trials : List (Trial C υ)}
    {choice : Option (Descriptor Driver × Nat)} (h : Decided matching trials choice)
    (t : Trial C υ) (declined : t.accepted = false) :
    Decided (t.driver :: matching) (t :: trials) choice := by
  cases h with
  | none all others =>
    exact .none (congrArg _ all) (List.forall_mem_cons.mpr ⟨declined, others⟩)
  | some upTo others accepted =>
    rw [← List.cons_append]
    exact .some (congrArg _ upTo) (List.forall_mem_cons.mpr ⟨declined, others⟩) accepted

variable (f vendor) in
theorem Registry.offer_tried [Channel C] {probe : Descriptor Driver → Nat → Act (Host υ) Bool}
    (returns : ∀ d i, (probe d i).Returns (run d i)) (drivers : List (Descriptor Driver))
    (m : Machine C (Host υ)) :
    ∃ trials choice finish, Tried f vendor run m trials finish ∧
      Decided drivers trials choice ∧
      ∀ next, (offer (modifyGet (·.addInstance f vendor)) probe drivers next).exec m
        = (next choice).exec finish := by
  induction drivers generalizing m with
  | nil => exact ⟨[], none, m, .nil m, .none rfl (List.forall_mem_nil _), fun next => rfl⟩
  | cons d rest ih =>
    let i := (m.state.addInstance f vendor).1
    let tried := run d i (m.opened f vendor)
    have hexec (next : Option (Descriptor Driver × Nat) → Routine (Host υ)) :
        (offer (modifyGet (·.addInstance f vendor)) probe (d :: rest) next).exec m
          = ((if tried.1 then return some (d, i)
              else offer (modifyGet (·.addInstance f vendor)) probe rest :
              Act (Host υ) (Option (Descriptor Driver × Nat))) next).exec tried.2 :=
      returns d i _ (m.opened f vendor)
    cases hverdict : tried.1 with
    | true =>
      have hdecided : Decided (d :: rest) ([] ++ [⟨d, i, m.opened f vendor, tried.1⟩])
          (some (d, i)) := .some rfl (List.forall_mem_nil _) hverdict
      refine ⟨_, _, tried.2, .cons d (.nil _), hdecided, fun next => ?_⟩
      rw [hexec, hverdict]
      rfl
    | false =>
      obtain ⟨trials, choice, finish, htried, hdecided, hoffer⟩ := ih tried.2
      refine ⟨_, choice, finish, .cons d htried,
        hdecided.cons_declined ⟨d, _, _, _⟩ hverdict, fun next => ?_⟩
      rw [hexec, hverdict]
      exact hoffer next

/-! ## Handles -/

/-- No instance there has been is forgotten. -/
def Host.Remembers (h h' : Host υ) : Prop :=
  ∀ f n, h'.instance? f n = none → h.instance? f n = none

theorem Host.instance?_addInstance (h : Host υ) (f : Facility) (vendor : Vendor) :
    h.instance? f (h.addInstance f vendor).1 = none ∧
      (h.addInstance f vendor).2.instance? f (h.addInstance f vendor).1
        = some (.fresh f vendor) := by
  refine ⟨List.getElem?_eq_none (Nat.le_refl _), ?_⟩
  unfold addInstance instance?
  dsimp only
  rw [PerFacility.get_set_self, List.getElem?_concat_length]

theorem Host.remembers_addInstance (h : Host υ) (f : Facility) (vendor : Vendor) :
    h.Remembers (h.addInstance f vendor).2 := by
  intro g n hnone
  unfold addInstance instance? at *
  dsimp only at hnone
  by_cases hg : g = f
  · subst hg
    rw [PerFacility.get_set_self, List.getElem?_eq_none_iff, List.length_append] at hnone
    exact List.getElem?_eq_none (by omega)
  · rw [PerFacility.get_set_of_ne _ _ hg] at hnone
    exact hnone

/-- The handles are distinct, and each is one on a new instance that is being probed. -/
theorem Tried.handles
    (remembers : ∀ d i (m : Machine C (Host υ)), m.state.Remembers (run d i m).2.state)
    {m finish : Machine C (Host υ)} {trials : List (Trial C υ)}
    (tried : Tried f vendor run m trials finish) :
    (trials.map Trial.handle).Nodup ∧
      ∀ t ∈ trials, m.state.instance? f t.handle = none ∧
        t.start.state.instance? f t.handle = some (.fresh f vendor) := by
  induction tried with
  | nil m => exact ⟨List.nodup_nil, List.forall_mem_nil _⟩
  | cons d later ih =>
    rename_i m finish trials
    obtain ⟨hnodup, hfresh⟩ := ih
    obtain ⟨hnone, hnew⟩ := m.state.instance?_addInstance f vendor
    have hbefore {n : Nat} (hn : (run d (m.state.addInstance f vendor).1
        (m.opened f vendor)).2.state.instance? f n = none) :=
      remembers d _ (m.opened f vendor) f n hn
    refine ⟨List.nodup_cons.mpr ⟨fun hmem => ?_, hnodup⟩,
      List.forall_mem_cons.mpr ⟨⟨hnone, hnew⟩, fun t ht => ⟨?_, (hfresh t ht).2⟩⟩⟩
    · obtain ⟨t, ht, hsame⟩ := List.mem_map.mp hmem
      have habsent := hbefore (hfresh t ht).1
      rw [hsame] at habsent
      exact absurd (hnew.symm.trans habsent) (Option.some_ne_none _)
    · exact m.state.remembers_addInstance f vendor f _ (hbefore (hfresh t ht).1)

theorem Decided.sublist {matching : List (Descriptor Driver)} {trials : List (Trial C υ)}
    {choice : Option (Descriptor Driver × Nat)} (h : Decided matching trials choice) :
    (trials.map Trial.driver).Sublist matching := by
  cases h with
  | none all _ => exact all ▸ List.Sublist.refl _
  | some upTo _ _ =>
    rw [List.map_append, ← upTo]
    exact (List.singleton_sublist.mpr List.mem_cons_self).append_left _

end

/-! ## Choosing a driver -/

/-- Drivers decide so, each at once, and forget no instance there has been. -/
structure Decides [Channel C] (probe : Descriptor Driver → Nat → Act (Host υ) Bool)
    (run : Descriptor Driver → Nat → Machine C (Host υ) → Bool × Machine C (Host υ)) : Prop where
  returns : ∀ d i, (probe d i).Returns (run d i)
  remembers : ∀ d i (m : Machine C (Host υ)), m.state.Remembers (run d i m).2.state

/-- The matching drivers have been tried in order, each once and with a handle of its own on a new
instance that is being probed, up to the first that accepts. -/
structure Offered (f : Facility) (vendor : Vendor)
    (run : Descriptor Driver → Nat → Machine C (Host υ) → Bool × Machine C (Host υ))
    (matching : List (Descriptor Driver)) (m : Machine C (Host υ)) (trials : List (Trial C υ))
    (choice : Option (Descriptor Driver × Nat)) (finish : Machine C (Host υ)) : Prop where
  tried : Tried f vendor run m trials finish
  decided : Decided matching trials choice
  once : (trials.map Trial.driver).Nodup
  distinct : (trials.map Trial.handle).Nodup
  fresh : ∀ t ∈ trials, m.state.instance? f t.handle = none ∧
    t.start.state.instance? f t.handle = some (.fresh f vendor)

/-- What a call comes to when this was chosen. -/
def outcome (facility : String) :
    (choice : Option (Descriptor Driver × Nat)) → Except Error (Descriptor Driver × Nat)
  | none => .error (.noDriver facility)
  | some chosen => .ok chosen

/-- The machine with the driver bound to the instance it accepted. -/
def Machine.bound (f : Facility) (choice : Option (Descriptor Driver × Nat))
    (m : Machine C (Host υ)) : Machine C (Host υ) :=
  match choice with
  | none => m
  | some (d, i) => { m with state := m.state.bindInstance f i d }

section

variable [Channel C] {f : Facility} {vendor : Vendor}
  {run : Descriptor Driver → Nat → Machine C (Host υ) → Bool × Machine C (Host υ)}

variable (f vendor) in
theorem Registry.create_offered {probe : Descriptor Driver → Nat → Act (Host υ) Bool}
    (decides : Decides probe run) {r : Registry Driver} (nodup : r.names.Nodup)
    (name? : Option String) (m : Machine C (Host υ)) :
    ∃ trials choice finish, Offered f vendor run
        (r.drivers.filter fun d => name?.all (d.name = ·)) m trials choice finish ∧
      ∀ next, (r.create name? (modifyGet (·.addInstance f vendor)) probe
        (fun d i => modify (·.bindInstance f i d)) next).exec m
          = (next (outcome r.facility choice)).exec (finish.bound f choice) := by
  have hmatching : r.candidates name? = r.drivers.filter fun d => name?.all (d.name = ·) := by
    cases name? with
    | none => exact (List.filter_true _).symm
    | some name => rfl
  obtain ⟨trials, choice, finish, htried, hdecided, hoffer⟩ :=
    offer_tried f vendor decides.returns (r.candidates name?) m
  obtain ⟨hdistinct, hfresh⟩ := htried.handles decides.remembers
  have honce : (trials.map Trial.driver).Nodup := by
    refine hdecided.sublist.nodup ?_
    rw [hmatching]
    exact nodup.of_map.filter _
  refine ⟨trials, choice, finish, ⟨htried, hmatching ▸ hdecided, honce, hdistinct, hfresh⟩,
    fun next => ?_⟩
  exact (hoffer _).trans (by cases choice <;> rfl)

end

/-! ## The drivers of this library -/

namespace Host

theorem registries_retire (h : Host υ) (f : Facility) (n : Nat) (teardown : Option Unit) :
    (h.retire f n teardown).registries = h.registries := by
  cases teardown <;> rfl

theorem registries_retract (h : Host υ) (f : Facility) (n : Nat) :
    (h.retract f n).registries = h.registries := by
  unfold retract
  cases h.instance? f n with
  | none => rfl
  | some inst => exact registries_retire _ f n _

theorem registries_bindInstance (h : Host υ) (f : Facility) (n : Nat) (d : Descriptor Driver) :
    (h.bindInstance f n d).registries = h.registries := by
  unfold bindInstance
  cases h.instance? f n with
  | none => rfl
  | some inst => exact registries_retire _ f n _

theorem registries_settle {f : Facility} {ρ : Type} (h : Host υ) (n : Nat)
    (result : Except Error (Settled f ρ)) : (h.settle n result).registries = h.registries := by
  cases result with
  | error e => rfl
  | ok settled =>
    unfold settle
    dsimp only
    cases settled.change with
    | none => rfl
    | some change =>
      dsimp only
      unfold announce emit
      repeat' split
      all_goals rfl

/-- The registries are left alone, and no instance is forgotten. -/
structure Retains (h h' : Host υ) : Prop where
  registries : h'.registries = h.registries
  remembers : h.Remembers h'

theorem Retains.refl (h : Host υ) : h.Retains h := ⟨rfl, fun _ _ => id⟩

theorem Retains.trans {h h' h'' : Host υ} (first : h.Retains h') (second : h'.Retains h'') :
    h.Retains h'' where
  registries := second.registries.trans first.registries
  remembers f n hnone := first.remembers f n (second.remembers f n hnone)

theorem Use.retains {h h' : Host υ} (use : Use h h') : h.Retains h' where
  registries := by
    cases use with
    | shown f n => rfl
    | retracted f n => exact registries_retract h f n
    | spent allowance => rfl
    | claimed f n =>
      rcases claim_cases f n h with ⟨e, hclaim⟩ | ⟨taken, hclaim, -⟩
      · rw [hclaim]
      · rw [hclaim]
        rfl
    | settled n result => exact registries_settle h n result
  remembers f n hnone :=
    account?_eq_none.mp ((use.ordinary.account?_eq_none_iff f n).mp (account?_eq_none.mpr hnone))

variable [Channel C]

/-- The machine once an instance has been accepted, and the modem perhaps asked about it. -/
def accepting (f : Facility) (vendor : Vendor) (i : Nat) (m : Machine C (Host υ)) :
    Machine C (Host υ) :=
  (accept f i vendor).routine.exec m

/-- The machine once one more instance has been asked to be accepted. -/
def spending (m : Machine C (Host υ)) : Machine C (Host υ) :=
  { m with state := { m.state with allowance := m.state.allowance.spendProbe.2 } }

/-- What a driver of this library decides, and the machine afterwards. -/
def deciding (f : Facility) (vendor : Vendor) (d : Descriptor Driver) (i : Nat)
    (m : Machine C (Host υ)) : Bool × Machine C (Host υ) :=
  match d.body with
  | .bare => (true, m)
  | .full => (true, accepting f vendor i m)
  | .rationed =>
    if m.state.allowance.spendProbe.1 then (true, accepting f vendor i (spending m))
    else (false, spending m)

theorem accept_returns (f : Facility) (vendor : Vendor) (i : Nat) :
    (accept f i vendor : Act (Host υ) Unit).Returns
      fun m : Machine C (Host υ) => ((), accepting f vendor i m) := by
  intro next m
  cases f <;> rfl

theorem probe_returns (f : Facility) (vendor : Vendor) (d : Descriptor Driver) (i : Nat) :
    (probe f vendor d i).Returns
      (deciding f vendor d i : Machine C (Host υ) → Bool × Machine C (Host υ)) := by
  intro next m
  unfold probe deciding
  cases d.body with
  | bare => rfl
  | full => exact accept_returns f vendor i (fun _ => next true) m
  | rationed =>
    have hspent (rest : Bool → Act (Host υ) Bool) :
        ((modifyGet (fun h : Host υ => (h.allowance.spendProbe.1,
          { h with allowance := h.allowance.spendProbe.2 })) >>= rest) next).exec m
          = (rest m.state.allowance.spendProbe.1 next).exec (spending m) := rfl
    refine (hspent _).trans ?_
    cases m.state.allowance.spendProbe.1 with
    | true => exact accept_returns f vendor i (fun _ => next true) (spending m)
    | false => rfl

theorem retains_accepting (f : Facility) (vendor : Vendor) (i : Nat) (m : Machine C (Host υ)) :
    m.state.Retains (accepting f vendor i m).state := by
  have hstable : Stable Use m.state.Retains := fun _ _ use retains => retains.trans use.retains
  exact ((prompt_accept f i vendor).tame.routine hstable hstable (fun _ => id)
    (Retains.refl _)).exec

theorem retains_deciding (f : Facility) (vendor : Vendor) (d : Descriptor Driver) (i : Nat)
    (m : Machine C (Host υ)) : m.state.Retains (deciding f vendor d i m).2.state := by
  unfold deciding
  cases d.body with
  | bare => exact .refl _
  | full => exact retains_accepting f vendor i m
  | rationed =>
    have hspent : m.state.Retains (spending m).state := (Use.spent m.state _).retains
    dsimp only
    split
    · exact hspent.trans (retains_accepting f vendor i (spending m))
    · exact hspent

end Host

/-! ## Registries and the choice among their drivers -/

theorem Tried.retains {f : Facility} {vendor : Vendor}
    {run : Descriptor Driver → Nat → Machine C (Host υ) → Bool × Machine C (Host υ)}
    (retains : ∀ d i (m : Machine C (Host υ)), m.state.Retains (run d i m).2.state)
    {m finish : Machine C (Host υ)} {trials : List (Trial C υ)}
    (tried : Tried f vendor run m trials finish) : m.state.Retains finish.state := by
  induction tried with
  | nil m => exact .refl _
  | cons d later ih =>
    rename_i m finish trials
    have hadded : m.state.Retains (m.opened f vendor).state :=
      ⟨rfl, m.state.remembers_addInstance f vendor⟩
    exact (hadded.trans (retains d _ _)).trans ih

theorem Machine.registries_bound (f : Facility) (choice : Option (Descriptor Driver × Nat))
    (m : Machine C (Host υ)) : (m.bound f choice).state.registries = m.state.registries := by
  cases choice with
  | none => rfl
  | some chosen => exact m.state.registries_bindInstance f chosen.2 chosen.1

/-- Whatever drivers have come and gone: their names are distinct, they stand in the order in which
they came in, and further ones are taken in or refused by name. An instance is offered to those of
them that match, in this order and up to the first that accepts, which is bound to it; there is no
driver for it when all of them decline. So it is with any drivers, as long as no instance is
forgotten; and with those of this library, where the registries are left as they are. -/
theorem Registry.chooses_first [Channel C] (f : Facility) (vendor : Vendor)
    (changes : List (Change Driver)) (name? : Option String) :
    let r := after f.name changes
    let matching := r.drivers.filter fun d => name?.all (d.name = ·)
    InOrder f.name changes r ∧ r.Admits ∧
      (∀ (probe : Descriptor Driver → Nat → Act (Host υ) Bool)
        (run : Descriptor Driver → Nat → Machine C (Host υ) → Bool × Machine C (Host υ)),
        Decides probe run → ∀ m, ∃ trials choice finish,
          Offered f vendor run matching m trials choice finish ∧ ∀ next,
            (r.create name? (modifyGet (·.addInstance f vendor)) probe
              (fun d i => modify (·.bindInstance f i d)) next).exec m
                = (next (outcome f.name choice)).exec (finish.bound f choice)) ∧
      ∃ run : Descriptor Driver → Nat → Machine C (Host υ) → Bool × Machine C (Host υ),
        Decides (Host.probe f vendor) run ∧ ∀ m, m.state.registries.get f = r →
          ∃ trials choice finish, Offered f vendor run matching m trials choice finish ∧
            (finish.bound f choice).state.registries = m.state.registries ∧
            ∀ next, ((Host.create f vendor name?).run next).exec m
              = (next ((outcome f.name choice).map Prod.snd)).exec (finish.bound f choice) := by
  have hinOrder := inOrder_after f.name changes
  have hcreate (probe : Descriptor Driver → Nat → Act (Host υ) Bool)
      (run : Descriptor Driver → Nat → Machine C (Host υ) → Bool × Machine C (Host υ))
      (decides : Decides probe run) :=
    create_offered f vendor decides hinOrder.distinct name?
  rw [facility_after] at hcreate
  have hdecides : Decides (Host.probe f vendor) (Host.deciding f vendor :
      Descriptor Driver → Nat → Machine C (Host υ) → Bool × Machine C (Host υ)) :=
    ⟨Host.probe_returns f vendor, fun d i m => (Host.retains_deciding f vendor d i m).remembers⟩
  refine ⟨hinOrder, admits_of_nodup hinOrder.distinct, hcreate, _, hdecides,
    fun m hregistry => ?_⟩
  obtain ⟨trials, choice, finish, hoffered, hexec⟩ := hcreate _ _ hdecides m
  have hretains := hoffered.tried.retains (Host.retains_deciding f vendor)
  refine ⟨trials, choice, finish, hoffered,
    (finish.registries_bound f choice).trans hretains.registries, fun next => ?_⟩
  rw [← hexec fun created => next (created.map Prod.snd), ← hregistry]
  rfl

/-- One of the drivers is replaced, and then comes last. Of three drivers the second accepts. -/
theorem Registry.chooses_first_replaced :
    let replaced : Descriptor Driver := ⟨3, "a", .full⟩
    let changes : List (Change Driver) := [.register ⟨0, "a", .full⟩, .register ⟨1, "b", .full⟩,
      .register replaced, .register ⟨2, "c", .bare⟩, .unregister "a", .register replaced]
    let matching : List (Descriptor Driver) := [⟨1, "b", .full⟩, ⟨2, "c", .bare⟩, replaced]
    let start : Machine Simulator (Host Unit) := ⟨.empty, { Host.initial () with
      registries := (Host.initial ()).registries.set .survey (after "survey" changes) }⟩
    (after "survey" changes).drivers = matching ∧
      (∃ trials choice finish, Offered .survey .default (fun d _ m => (d.id == 2, m)) matching start
        trials choice finish ∧ ∀ next, ((after "survey" changes).create none
          (modifyGet (·.addInstance .survey .default)) (fun d _ => pure (d.id == 2))
          (fun d i => modify (·.bindInstance .survey i d)) next).exec start
            = (next (outcome "survey" choice)).exec (finish.bound .survey choice)) ∧
      ∃ run trials choice finish, Decides (Host.probe .survey .default) run ∧
        Offered .survey .default run matching start trials choice finish ∧
        (finish.bound .survey choice).state.registries = start.state.registries := by
  intro replaced changes matching start
  have hdrivers : (after "survey" changes).drivers = matching := by decide
  have hmatching : ((after "survey" changes).drivers.filter fun d =>
      (none : Option String).all (d.name = ·)) = matching := hdrivers ▸ List.filter_true _
  obtain ⟨-, -, hany, run, hdecides, hown⟩ :=
    chooses_first (C := Simulator) (υ := Unit) .survey .default changes none
  rw [show Facility.survey.name = "survey" from rfl, hmatching] at hany hown
  obtain ⟨trials, choice, finish, hoffered, hsame, -⟩ := hown start rfl
  refine ⟨hdrivers, hany (fun d _ => pure (d.id == 2)) (fun d _ m => (d.id == 2, m))
    ⟨fun _ _ _ _ => rfl, fun _ _ _ _ _ => id⟩ start, run, trials, choice, finish, hdecides,
    hoffered, hsame⟩

end CellModem
