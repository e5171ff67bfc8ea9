import CellModem.Proofs.Operations.Needs
import CellModem.Proofs.Operations.Record

/-!
# Calls that are turned away

A call is turned away because its instance is gone, because it is busy, for its arguments, or
because the driver lacks a method, and in this order. Then nothing is sent and the host is as
before. Other calls begin with a command and are not turned away later on.
-/

namespace CellModem

variable {υ : Type} {f : Facility} {n : Nat}

/-! ## An instance that is taken and let go at once -/

theorem PerFacility.set_get {F : Facility → Type} (p : PerFacility F) (f : Facility) :
    p.set f (p.get f) = p := by
  cases f <;> rfl

theorem PerFacility.set_set {F : Facility → Type} (p : PerFacility F) (f : Facility) (x y : F f) :
    (p.set f x).set f y = p.set f y := by
  cases f <;> rfl

namespace Host

theorem claim_removed {h : Host υ} {inst : Instance f} (found : h.instance? f n = some inst)
    (removed : inst.life.state = .removed) : Host.claim f n h = (.error .instanceGone, h) := by
  unfold Host.claim
  rw [found]
  dsimp only
  rw [if_pos removed]

theorem claim_free {h : Host υ} {inst : Instance f} {driver : Driver}
    (found : h.instance? f n = some inst) (kept : inst.life.state ≠ .removed)
    (free : inst.busy = false) (bound : inst.driver = some driver) : Host.claim f n h =
      (.ok (inst.vendor, driver), h.modifyInstance f n fun inst => { inst with busy := true }) := by
  unfold Host.claim
  rw [found]
  dsimp only
  rw [if_neg kept, if_neg (by rw [free]; exact Bool.false_ne_true), bound]

theorem release_taken {h : Host υ} {inst : Instance f} (found : h.instance? f n = some inst)
    (free : inst.busy = false) :
    (h.modifyInstance f n fun inst => { inst with busy := true }).release f n = h := by
  have hsame : ((h.instances.get f).modify n fun inst => { inst with busy := true }).modify n
      (fun inst => { inst with busy := false }) = h.instances.get f := by
    refine List.ext_getElem? fun k => ?_
    rw [List.getElem?_modify, List.getElem?_modify]
    by_cases hk : n = k
    · subst hk
      change (h.instances.get f)[n]? = some inst at found
      rw [found]
      cases inst
      cases free
      simp
    · simp [hk]
  unfold release modifyInstance
  dsimp only
  rw [PerFacility.get_set_self, PerFacility.set_set, hsame, PerFacility.set_get]

end Host

namespace Calls

variable {ι : Type} {α : ι → Type} {C : Type → Type} [Channel C] {calls : Calls α} {i : ι}
  {driver : Driver} {hidden : String → Bool}

/-! ## Calls that are not turned away -/

/-- The code of a call goes on to a result that does not turn it away, whatever it is answered, as
long as the driver hides the same methods. -/
def Spared (calls : Calls α) (i : ι) (driver : Driver) (hidden : String → Bool)
    (r : Routine (Logged α)) : Prop :=
  Routine.Comes (driver.Hides hidden) (calls.settling i) (fun _ result => Undeterred result) r

/-- Code of a call was run: its caller has been answered, and not turned away, or the channel has
been given a completion that goes on in the same way. -/
def Proceeds (calls : Calls α) (i : ι) (driver : Driver) (hidden : String → Bool)
    (m m' : Machine C (Logged α)) : Prop :=
  (∃ result, Undeterred result ∧ m'.state.observed = m.state.observed ++ [⟨i, result⟩]) ∨
  ∃ resume : Resume (Logged α), (∀ response, Spared calls i driver hidden (resume response)) ∧
    m'.state.observed = m.state.observed ∧ driver.Hides hidden m'.state.allowance ∧
    ∃ channel command leads, Channel.send channel command leads resume = .held m'.channel

theorem Spared.proceeds {r : Routine (Logged α)} (h : Spared calls i driver hidden r)
    (m : Machine C (Logged α)) (hides : driver.Hides hidden m.state.allowance) :
    Proceeds calls i driver hidden m (r.exec m) := by
  unfold Spared at h
  generalize hpost : (fun (_ : List Exchange)
    (result : Except Error (Settled (calls.facility i) (α i))) => Undeterred result) = post at h
  induction h generalizing m with
  | reply result hresult =>
    subst hpost
    refine .inl ⟨result.map Settled.answer, fun e he => ?_, ?_⟩
    · cases result with
      | ok settled => cases he
      | error e' =>
        obtain rfl := Except.error.inj he
        exact hresult e' rfl
    · exact congrArg (· ++ _) (Host.observed_settle _ _ _)
  | ask spend next steady h ih =>
    have hspent := steady m.state.allowance hides
    exact ih m.state.allowance hides
      { m with state := { m.state with allowance := spend m.state.allowance } } hspent hpost
  | send command leads next h ih =>
    subst hpost
    cases hsent : Channel.send m.channel command leads fun response => next (some response) with
    | refused channel =>
      rw [Routine.exec_refused hsent]
      exact ih none { m with channel := channel } hides rfl
    | answered channel response =>
      rw [Routine.exec_answered hsent]
      exact ih (some response) { m with channel := channel } hides rfl
    | held channel =>
      rw [Routine.exec_held hsent]
      exact .inr ⟨_, fun response => h (some response), rfl, hides, _, _, _, hsent⟩

/-! ## Calls that are made -/

/-- The call is answered at once, and nothing else comes of it. -/
def TurnedAway (calls : Calls α) (i : ι) (m : Machine C (Logged α)) (e : Error) : Prop :=
  m.start (calls.act i) = { m with state := m.state.note ⟨i, .error e⟩ }

/-- The call begins with a command. -/
def Undertaken (calls : Calls α) (i : ι) (m : Machine C (Logged α)) : Prop :=
  ∃ command leads next, m.start (calls.act i)
    = (Routine.send command leads next).exec { m with state := (calls.claim i m.state).2 }

theorem exec_working (calls : Calls α) (i : ι) (taken : Vendor × Driver)
    (m : Machine C (Logged α)) : (calls.working i taken).exec m =
      let planned := ((calls.operation i).plan taken.1 taken.2).run m.state.allowance
      (match planned.1 with
        | .ok step => step.routine (calls.settling i)
        | .error e => calls.settling i (.error e)).exec
          { m with state := { m.state with allowance := planned.2 } } := by
  rw [working_eq]
  rfl

section

variable {m : Machine C (Logged α)} {inst : Instance (calls.facility i)}

/-- A call whose operation cannot be planned. -/
theorem turnedAway_of_plan
    (found : m.state.instance? (calls.facility i) (calls.number i) = some inst)
    (kept : inst.life.state ≠ .removed) (free : inst.busy = false)
    (bound : inst.driver = some driver) {e : Error}
    (refused : ((calls.operation i).plan inst.vendor driver).run m.state.allowance
      = (.error e, m.state.allowance)) : TurnedAway calls i m e := by
  have hclaim : calls.claim i m.state = _ := Host.claim_free found kept free bound
  unfold TurnedAway
  rw [start_eq, hclaim]
  dsimp only
  rw [exec_working]
  dsimp only [Host.modifyInstance]
  rw [refused]
  have hreleased := Host.release_taken found free
  exact congrArg (fun h : Logged α => { m with state := h.note ⟨i, .error e⟩ }) hreleased

theorem undertaken_of_plan
    (found : m.state.instance? (calls.facility i) (calls.number i) = some inst)
    (kept : inst.life.state ≠ .removed) (free : inst.busy = false)
    (bound : inst.driver = some driver) (hides : driver.Hides hidden m.state.allowance)
    {step : Step (Logged α) _}
    (planned : ((calls.operation i).plan inst.vendor driver).run m.state.allowance
      = (.ok step, m.state.allowance))
    (opens : step.Opens) (spares : step.Spares (driver.Hides hidden)) :
    Undertaken calls i m ∧ Proceeds calls i driver hidden m (m.start (calls.act i)) := by
  have hclaim : calls.claim i m.state = _ := Host.claim_free found kept free bound
  have hstart : m.start (calls.act i)
      = (step.routine (calls.settling i)).exec { m with state := (calls.claim i m.state).2 } := by
    rw [start_eq, hclaim]
    dsimp only
    rw [exec_working]
    dsimp only [Host.modifyInstance]
    rw [planned]
  have hobserved : (calls.claim i m.state).2.observed = m.state.observed :=
    World.observed_claim calls i m.state
  constructor
  · obtain ⟨command, leads, next, hroutine⟩ := opens (calls.settling i)
    exact ⟨command, leads, next, by rw [hstart, hroutine]⟩
  · have hproceeds := Spared.proceeds (spares (calls.settling i))
      { m with state := (calls.claim i m.state).2 } (by rw [hclaim]; exact hides)
    rw [← hstart] at hproceeds
    unfold Proceeds at hproceeds ⊢
    rw [hobserved] at hproceeds
    exact hproceeds

end

end Calls

/-- Calls are turned away in this order, at once and without any traffic, and the host is as it was.
If nothing stands against a call, the channel is given a command, and the caller is not turned away
later on, whatever the modem answers. -/
theorem Services.turned_away_in_order {ι : Type} {α : ι → Type} {C : Type → Type} [Channel C]
    (services : Services α) (i : ι) (m : Machine C (Logged α))
    {inst : Instance (services.facility i)}
    (found : m.state.instance? (services.facility i) (services.number i) = some inst)
    {driver : Driver} {hidden : String → Bool}
    (bound : inst.life.state ≠ .removed → inst.driver = some driver)
    (hides : driver.Hides hidden m.state.allowance) :
    let calls := services.calls
    let service := services.service i
    (inst.life.state = .removed → Calls.TurnedAway calls i m .instanceGone) ∧
    (inst.life.state ≠ .removed → inst.busy = true → Calls.TurnedAway calls i m .busy) ∧
    (inst.life.state ≠ .removed → inst.busy = false → ¬ service.Valid →
      ∃ detail, Calls.TurnedAway calls i m (.invalidArgument detail)) ∧
    (inst.life.state ≠ .removed → inst.busy = false → service.Valid →
      service.methods.any hidden = true → Calls.TurnedAway calls i m .notImplemented) ∧
    (inst.life.state ≠ .removed → inst.busy = false → service.Valid →
      service.methods.any hidden = false →
      Calls.Undertaken calls i m ∧ Calls.Proceeds calls i driver hidden m (m.start (calls.act i))) ∧
    ∀ r, Calls.Spared calls i driver hidden r →
      ∀ m' : Machine C (Logged α), driver.Hides hidden m'.state.allowance →
        Calls.Proceeds calls i driver hidden m' (r.exec m') := by
  intro calls service
  have hplans : (calls.operation i).Plans service.Valid service.methods := service.plans
  refine ⟨fun hremoved => ?_, fun hkept hbusy => ?_, fun hkept hfree hinvalid => ?_,
    fun hkept hfree hvalid hhidden => ?_, fun hkept hfree hvalid hoffered => ?_,
    fun r hspared m' hides' => hspared.proceeds m' hides'⟩
  · exact Calls.start_refused (congrArg Prod.fst (Host.claim_removed found hremoved))
  · have hclaim := Host.claim_busy found hbusy
    rw [if_neg hkept] at hclaim
    exact Calls.start_refused (congrArg Prod.fst hclaim)
  · obtain ⟨detail, hrefused⟩ := hplans.invalid hinvalid inst.vendor driver m.state.allowance
    exact ⟨detail, Calls.turnedAway_of_plan found hkept hfree (bound hkept) hrefused⟩
  · have hneeds := hplans.valid hvalid inst.vendor driver hidden m.state.allowance hides
    exact Calls.turnedAway_of_plan found hkept hfree (bound hkept) (hneeds.lacks hhidden)
  · have hneeds := hplans.valid hvalid inst.vendor driver hidden m.state.allowance hides
    obtain ⟨step, hstep, hplanned⟩ := hneeds.offers hoffered
    obtain ⟨hopens, hspares⟩ := hstep hoffered
    exact Calls.undertaken_of_plan found hkept hfree (bound hkept) hides hplanned hopens hspares

/-- The bands of LTE are to be set. -/
def Services.narrowing : Services fun _ : Unit => Unit where
  facility _ := .dataNetwork
  number _ := 0
  service _ := .setLteBands 4

/-- A machine whose drivers hide these methods, with an instance for network selection. -/
def Services.withholding (methods : List String) :
    Machine Simulator (Logged fun _ : Unit => Unit) :=
  let host : Logged fun _ : Unit => Unit :=
    (((Host.initial []).addInstance .dataNetwork .default).2.bindInstance .dataNetwork 0
      ⟨0, "telitmodem", .rationed⟩).showInstance .dataNetwork 0
  ⟨.empty, { host with allowance := ⟨methods.map fun name => (name, 0), false, none⟩ }⟩

/-- Without the request that sets the bands those of now are not read either. -/
theorem Services.turned_away_in_order_withheld :
    (withholding ["set_bnd"]).start (narrowing.calls.act ()) = { withholding ["set_bnd"] with
      state := (withholding ["set_bnd"]).state.note ⟨(), .error .notImplemented⟩ } ∧
    Calls.Undertaken narrowing.calls () (withholding ["set_ens"]) := by
  have hlacking := turned_away_in_order narrowing () (withholding ["set_bnd"]) rfl (fun _ => rfl)
    (Driver.hides_rationed ["set_bnd"] none)
  have hoffering := turned_away_in_order narrowing () (withholding ["set_ens"]) rfl (fun _ => rfl)
    (Driver.hides_rationed ["set_ens"] none)
  obtain ⟨-, -, -, hlacks, -, -⟩ := hlacking
  obtain ⟨-, -, -, -, hoffers, -⟩ := hoffering
  exact ⟨hlacks nofun rfl trivial (by decide), (hoffers nofun rfl trivial (by decide)).1⟩

end CellModem
