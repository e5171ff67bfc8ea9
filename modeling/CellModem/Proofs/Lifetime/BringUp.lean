import CellModem.Proofs.Lifetime.Deed

/-!
# What bringing up and taking down are made of

Switching a modem on is commands in a row, between which nothing but ordinary deeds is done to the
host. Probing an instance hands on at once; where the modem is asked, that goes on apart. What code
does to the host is listed from the narrow to the wide: what instances do to it, what a modem does
besides while they are there, and what is done when they come and go.
-/

namespace CellModem

variable {υ : Type}

namespace Host

/-- Code may do this to the host at any time; whether there is a modem is not told by it. -/
abbrev Ordinary : Host υ → Host υ → Prop := Deed fun e => e.ofModem = false

/-- What is done to the host when instances are probed and asked for operations. -/
inductive Use : Host υ → Host υ → Prop where
  | shown (h : Host υ) (f : Facility) (n : Nat) : Use h (h.showInstance f n)
  | retracted (h : Host υ) (f : Facility) (n : Nat) : Use h (h.retract f n)
  | spent (h : Host υ) (allowance : Allowance) : Use h { h with allowance := allowance }
  | claimed (h : Host υ) (f : Facility) (n : Nat) : Use h (h.claim f n).2
  | settled (h : Host υ) {f : Facility} {ρ : Type} (n : Nat) (result : Except Error (Settled f ρ)) :
    Use h (h.settle n result)

theorem Use.ordinary {h h' : Host υ} (use : Use h h') : Ordinary h h' := by
  cases use with
  | shown f n => exact .shown h f n
  | retracted f n => exact .retracted h f n
  | spent allowance => exact h.deed_allowance allowance
  | claimed f n => exact h.deed_claim f n
  | settled n result => exact h.deed_settle n result fun _ _ _ => rfl

/-- The host once the modem is on. What SIM there is, is yet to be seen. -/
def switchedOn (i : Nat) (h : Host υ) : Host υ :=
  (h.modifyModem i fun m => { m with sim := .absent }).setPowered i true

end Host

/-- What the code of a modem does to the host while its instances are there. -/
inductive Modem.Work (i : Nat) : Host υ → Host υ → Prop where
  | status (h : Host υ) (code : Int) : Work i h (h.applySimStatus i code)
  | on (h : Host υ) : Work i h (h.switchedOn i)
  | off (h : Host υ) : Work i h (h.setPowered i false)
  | board (h : Host υ) (found : Bool) :
    Work i h (h.modifyModem i fun m => { m with multitech := some found })
  | use {h h' : Host υ} (use : Host.Use h h') : Work i h h'

theorem Modem.Work.ordinary {i : Nat} {h h' : Host υ} (work : Work i h h') :
    Host.Ordinary h h' := by
  cases work with
  | status code => exact h.deed_applySimStatus i code (fun _ => rfl) rfl
  | on =>
    let absent := h.modifyModem i fun m => { m with sim := .absent }
    have hcleared : h.Alike absent := h.alike_modifyModem i fun _ => rfl
    have hquiet : h.Announces (fun e => e.ofModem = false) absent := .nothing rfl rfl
    exact .aside _ _ (hcleared.trans (absent.alike_setPowered i true))
      (hquiet.trans (absent.announces_setPowered i true rfl))
  | off => exact h.deed_setPowered i false rfl
  | board found => exact h.deed_modifyModem i fun _ => rfl
  | use use => exact use.ordinary

namespace Modem

variable {change : Host υ → Host υ → Prop}

theorem made_command (text : String) :
    (Step.command text : Step (Host υ) Unit).run.Made change Anything :=
  Step.made_transaction _ trivial

theorem made_attempt (text : String) :
    (attempt text : Step (Host υ) Unit).run.Made change Anything :=
  Step.made_bestEffort (made_command text)

theorem made_powerOn (model : Model) :
    (powerOn model : Step (Host υ) Unit).run.Made change Anything := by
  have hserial : (powerOn .telitSerial : Step (Host υ) Unit).run.Made change Anything := by
    refine Step.made_bind (made_attempt _) fun _ => ?_
    refine Step.made_bind (made_attempt _) fun _ => ?_
    refine Step.made_bind (made_command _) fun _ => ?_
    exact Step.made_bind (made_attempt _) fun _ => made_command _
  cases model with
  | telitSerial => exact hserial
  | ge910 => exact hserial
  | le910v2 =>
    refine Step.made_bind (made_attempt _) fun _ => ?_
    refine Step.made_bind (Step.made_transaction _ trivial) fun level => ?_
    dsimp only
    split
    · exact Step.made_bind (made_command _) fun _ => made_attempt _
    · refine Step.made_bind (made_command _) fun _ => ?_
      refine Step.made_bind (made_attempt _) fun _ => ?_
      exact Step.made_bind (made_command _) fun _ => made_attempt _

theorem made_followSim (i : Nat) :
    (followSim i : Act (Host υ) Unit).Made (Work i) Anything := by
  refine (Act.made_register _ fun line => ?_).bind fun _ => Act.made_pure _
  split
  · exact Act.inner_modify _ fun h => .status h _
  · exact Act.inner_pure

theorem made_readSimStatus (i : Nat) :
    (readSimStatus i : Step (Host υ) Unit).run.Made (Work i) Anything := by
  have hquery : (Step.transaction simStatusQuery : Step (Host υ) Int).run.Made (Work i) Anything :=
    Step.made_transaction _ trivial
  refine hquery.bind fun result => ?_
  cases result with
  | ok code => exact (Act.made_modify _ fun h => .status h code).bind fun _ => Act.made_pure _
  | error _ => exact Act.made_pure _

theorem made_afterPowerOn (i : Nat) (model : Model) :
    (afterPowerOn i model : Step (Host υ) Unit).run.Made (Work i) Anything := by
  refine Step.made_bind (Step.made_lift (made_followSim i)) fun _ => ?_
  refine Step.made_bind (made_attempt _) fun _ => ?_
  cases model with
  | telitSerial => exact Act.made_pure _
  | ge910 => exact made_readSimStatus i
  | le910v2 => exact Step.made_bind (made_attempt _) fun _ => made_readSimStatus i

theorem made_enable (i : Nat) (model : Model) :
    (enable i model : Step (Host υ) Unit).run.Made (Work i) Anything := by
  refine (made_powerOn model).bind fun result => ?_
  cases result with
  | ok _ => exact (Act.made_modify _ .on).bind fun _ => made_afterPowerOn i model
  | error e =>
    have hoff : (modify (·.setPowered i false) : Act (Host υ) PUnit).Made (Work i) Anything :=
      Act.made_modify _ .off
    exact hoff.bind fun _ => Act.made_pure _

theorem made_multitechFixUp :
    (multitechFixUp : Step (Host υ) Unit).run.Made change Anything := by
  have hfirmware (last : Step (Host υ) Unit) (hlast : last.run.Made change Anything) : (do
      let firmware ← Step.queryNumber "AT#FWSWITCH?" "#FWSWITCH:"
      if firmware ≠ 1 then Step.command "AT#FWSWITCH=1,1"
      else last : Step (Host υ) Unit).run.Made change Anything := by
    refine Step.made_bind (Step.made_transaction _ trivial) fun firmware => ?_
    split
    · exact made_command _
    · exact hlast
  refine Step.made_bind (Step.made_transaction _ trivial) fun usb => ?_
  dsimp only
  by_cases husb : usb = 2
  · rw [if_pos husb, if_neg (not_not_intro husb)]
    exact hfirmware _ (Act.made_pure _)
  · rw [if_neg husb, if_pos husb]
    exact Step.made_bind (made_command _) fun _ => hfirmware _ (made_command _)

theorem made_settleMultitech (i : Nat) :
    (settleMultitech i : Act (Host υ) Unit).Made (Work i) Anything := by
  have hprobe : (Step.transaction multitechProbe : Step (Host υ) Unit).run.Made (Work i)
      Anything := Step.made_transaction _ trivial
  have hnoted (found : Bool) :
      (modify (·.modifyModem i fun m => { m with multitech := some found }) :
        Act (Host υ) PUnit).Made (Work i) Anything :=
    Act.made_modify _ fun h => .board h found
  refine hprobe.bind fun result => ?_
  cases result with
  | ok _ => exact made_multitechFixUp.bind fun _ => hnoted true
  | error _ => exact hnoted false

/-! ## Removing the facilities -/

/-- Removes the instances in these places, one after the other. -/
def dismissAll (places : PerFacility fun _ => Option Nat) : List Facility → Host υ → Host υ
  | [], h => h
  | f :: rest, h =>
    dismissAll places rest (match places.get f with
      | some number => h.removeInstance f number
      | none => h)

theorem removeFacilities_of_modem {i : Nat} {h : Host υ} {m : Modem} (found : h.modems[i]? = some m) :
    removeFacilities i h = dismissAll m.facilities (basic ++ online)
      (h.modifyModem i fun m => { m with facilities := .ofFn fun _ => none }) := by
  have hfold (fs : List Facility) (h : Host υ) :
      fs.foldl (fun h f => match m.facilities.get f with
        | some number => h.removeInstance f number
        | none => h) h = dismissAll m.facilities fs h := by
    induction fs generalizing h with
    | nil => rfl
    | cons f rest ih => exact ih _
  unfold removeFacilities
  rw [found]
  exact hfold _ _

theorem dismissAll_keeps {ok : Event → Prop} {P : Host υ → Prop} (stable : Stable (Host.Deed ok) P)
    (places : PerFacility fun _ => Option Nat) (fs : List Facility) {h : Host υ} (hP : P h) :
    P (dismissAll places fs h) := by
  induction fs generalizing h with
  | nil => exact hP
  | cons f rest ih =>
    unfold dismissAll
    cases places.get f with
    | none => exact ih hP
    | some n => exact ih (stable h _ (.dismissed h f n) hP)

/-- What deeds keep is kept when the facilities are removed, unless it is about the places. -/
theorem removeFacilities_keeps {ok : Event → Prop} {P : Host υ → Prop}
    (stable : Stable (Host.Deed ok) P) {i : Nat} {h : Host υ} (hP : P h)
    (emptied : P (h.modifyModem i fun m => { m with facilities := .ofFn fun _ => none })) :
    P (removeFacilities i h) := by
  cases hmodem : h.modems[i]? with
  | none =>
    unfold removeFacilities
    rw [hmodem]
    exact hP
  | some m =>
    rw [removeFacilities_of_modem hmodem]
    exact dismissAll_keeps stable _ _ emptied

theorem announces_removeFacilities {ok : Event → Prop} (i : Nat) (h : Host υ) :
    h.Announces ok (removeFacilities i h) := by
  have hstable : Stable (Host.Deed ok) (h.Announces ok) :=
    fun _ _ deed announces => announces.trans deed.announces
  exact removeFacilities_keeps hstable (.nothing rfl rfl) (.nothing rfl rfl)

theorem account?_removeFacilities_eq_none (i : Nat) (h : Host υ) (f : Facility) (n : Nat) :
    (removeFacilities i h).account? f n = none ↔ h.account? f n = none := by
  have hstable : Stable (Host.Deed fun _ => True)
      fun h' : Host υ => h'.account? f n = none ↔ h.account? f n = none :=
    fun _ _ deed known => (deed.account?_eq_none_iff f n).trans known
  exact removeFacilities_keeps hstable Iff.rfl Iff.rfl

end Modem

/-! ## Instances -/

namespace Registry

variable {σ β ι : Type} {change : σ → σ → Prop} {may : String → Prop} {kept post : σ → Prop}
  {add : σ → ι × σ} {probe : Descriptor β → ι → Act σ Bool} {P : σ → Prop} {Q : ι → σ → Prop}

section

variable (hkept : Stable change kept) (hprobe : ∀ d i, (probe d i).Prompt change may)
  (hprobed : ∀ i, Stable change (Q i)) (hadded : ∀ s, P s → Q (add s).1 (add s).2)
  (hdeclined : ∀ i s, Q i s → P s)

include hkept hprobe hprobed hadded hdeclined

/-- `P` is kept between probes, and `Q` of the one that is offered while it is being probed. -/
theorem offer_keeps (drivers : List (Descriptor β)) {next : Option (Descriptor β × ι) → Routine σ}
    (hnone : ∀ s, P s → (next none).Keeps kept may post s)
    (hsome : ∀ d i s, d ∈ drivers → Q i s → (next (some (d, i))).Keeps kept may post s) {s : σ}
    (hs : P s) : (offer (modifyGet add) probe drivers next).Keeps kept may post s := by
  induction drivers generalizing s with
  | nil => exact hnone s hs
  | cons d rest ih =>
    refine hprobe d _ kept _ post hkept (hprobed _) _ _ (hadded s hs) fun accepted s' hs' => ?_
    cases accepted with
    | true => exact hsome d _ s' List.mem_cons_self hs'
    | false =>
      exact ih (fun d' i s hd => hsome d' i s (List.mem_cons_of_mem d hd)) (hdeclined _ s' hs')

theorem create_keeps (r : Registry β) {name? : Option String} {bind : Descriptor β → ι → σ → σ}
    {next : Except Error (Descriptor β × ι) → Routine σ}
    (herror : ∀ e s, P s → (next (.error e)).Keeps kept may post s)
    (hok : ∀ d i s, d ∈ r.candidates name? → Q i s →
      (next (.ok (d, i))).Keeps kept may post (bind d i s)) {s : σ} (hs : P s) :
    (r.create name? (modifyGet add) probe (fun d i => modify (bind d i)) next).Keeps kept may
      post s :=
  offer_keeps hkept hprobe hprobed hadded hdeclined (r.candidates name?) (herror _)
    (fun d i s hd hs => hok d i s hd hs) hs

end

end Registry

namespace Host

theorem tame_radioProbe (i : Nat) (vendor : Vendor) :
    (do
      let request := (Request.queryRadioMode vendor).transaction
      let supported : Step (Host υ) Unit :=
        .transaction ⟨request.command, request.leads, fun _ => .ok ()⟩
      match ← supported.run with
      | .ok () => modify (·.showInstance .radioSettings i)
      | .error _ => modify (·.retract .radioSettings i) :
      Act (Host υ) Unit).Tame Use Anything := by
  refine Act.Made.tame (Act.Made.bind (Step.made_transaction _ trivial) fun result => ?_)
  cases result with
  | ok _ => exact Act.made_modify _ fun h => .shown h _ _
  | error _ => exact Act.made_modify _ fun h => .retracted h _ _

/-- The modem may be asked for the radio settings, and then the instance is shown or removed once it
has answered. -/
theorem prompt_accept (f : Facility) (i : Nat) (vendor : Vendor) :
    (accept f i vendor : Act (Host υ) Unit).Prompt Use Anything := by
  cases f with
  | radioSettings => exact Act.prompt_fork (tame_radioProbe i vendor)
  | _ => exact Act.prompt_modify _ fun h => .shown h _ _

theorem prompt_probe (f : Facility) (vendor : Vendor) (d : Descriptor Driver) (i : Nat) :
    (probe f vendor d i : Act (Host υ) Bool).Prompt Use Anything := by
  unfold probe
  cases d.body with
  | bare => exact Act.prompt_pure true
  | full => exact (prompt_accept f i vendor).bind fun _ => Act.prompt_pure true
  | rationed =>
    have hspent : (modifyGet fun h : Host υ =>
        (h.allowance.spendProbe.1, { h with allowance := h.allowance.spendProbe.2 }) :
        Act (Host υ) Bool).Prompt Use Anything :=
      Act.prompt_modifyGet _ fun h => .spent h _
    refine hspent.bind fun admitted => ?_
    cases admitted with
    | true => exact (prompt_accept f i vendor).bind fun _ => Act.prompt_pure true
    | false => exact Act.prompt_pure false

end Host

/-! ## Bringing up and taking down -/

namespace Modem

open Host

/-- What the code of a modem does to the host, also when the modem comes up and when it goes. -/
inductive Upkeep (i : Nat) : Host υ → Host υ → Prop where
  | work {h h' : Host υ} (work : Work i h h') : Upkeep i h h'
  | added (h : Host υ) (f : Facility) (vendor : Vendor) : Upkeep i h (h.addInstance f vendor).2
  | bound (h : Host υ) (f : Facility) (n : Nat) (d : Descriptor Driver) :
    Upkeep i h (h.bindInstance f n d)
  | installed (h : Host υ) (places : List Facility) (created : List (Facility × Nat)) :
    Upkeep i h (h.modifyModem i (install places created))
  | removed (h : Host υ) : Upkeep i h (removeFacilities i h)

theorem prompt_create (i : Nat) (f : Facility) (vendor : Vendor) (name? : Option String) :
    (create f vendor name? : Step (Host υ) Nat).run.Prompt (Upkeep i) Anything := by
  refine Act.prompt_get.bind fun h => ?_
  have hcreated : ((h.registries.get f).create name? (modifyGet (·.addInstance f vendor))
      (probe f vendor) fun d i => modify (·.bindInstance f i d) :
      Act (Host υ) _).Prompt (Upkeep i) Anything := by
    intro kept now post hkept hnow next s hs hnext
    refine Registry.create_keeps (P := now) (Q := fun _ => now) hkept (fun d n => ?_) (fun _ => hnow)
      (fun s => hnow s _ (.added s f vendor)) (fun _ _ => id) _ (fun e s => hnext _ s)
      (fun d n s _ hs => hnext _ _ (hnow s _ (.bound s f n d) hs)) hs
    exact (prompt_probe f vendor d n).mono fun _ _ use => .work (.use use)
  exact hcreated.bind fun created => Act.prompt_pure _

theorem prompt_createEach (i : Nat) (wanted : List (Facility × Vendor)) :
    (createEach wanted : Act (Host υ) _).Prompt (Upkeep i) Anything := by
  induction wanted with
  | nil => exact Act.prompt_pure _
  | cons first rest ih =>
    refine (prompt_create i _ _ _).bind fun created => ih.bind fun more => ?_
    cases created with
    | ok number => exact Act.prompt_pure _
    | error _ => exact Act.prompt_pure _

theorem prompt_install (i : Nat) (places : List Facility) (created : List (Facility × Nat)) :
    (modify (·.modifyModem i (install places created)) : Act (Host υ) PUnit).Prompt (Upkeep i)
      Anything :=
  Act.prompt_modify _ fun h => .installed h places created

theorem tame_bringUp (i : Nat) (model : Model) :
    (bringUp i model : Step (Host υ) Unit).run.Tame (Upkeep i) Anything := by
  have hwork : ∀ h h' : Host υ, Work i h h' → Upkeep i h h' := fun _ _ => .work
  have hpreSim : (preSim i model : Act (Host υ) Unit).Tame (Upkeep i) Anything := by
    refine Act.Tame.bind (prompt_createEach i _).tame fun created => ?_
    refine Act.Tame.bind (prompt_install i _ created).tame fun _ => ?_
    split
    · exact (Act.prompt_fork ((made_settleMultitech i).tame.mono hwork)).tame
    · exact (Act.prompt_pure _).tame
  have hpostOnline : (postOnline i model : Act (Host υ) Unit).Tame (Upkeep i) Anything := by
    refine Act.Tame.bind (prompt_createEach i _).tame fun created => ?_
    refine Act.Tame.bind (prompt_install i _ created).tame fun _ => ?_
    have hattach : (do
        let _ ← (attempt "AT#AUTOATT=1").run : Act (Host υ) Unit).Tame (Upkeep i) Anything :=
      Act.Made.tame ((made_attempt _).bind fun _ => Act.made_pure _)
    exact (Act.prompt_fork hattach).tame
  refine Step.tame_bind ((made_enable i model).tame.mono hwork) fun _ => ?_
  exact Step.tame_bind (Step.tame_lift hpreSim) fun _ => Step.tame_lift hpostOnline

theorem tame_disable (i : Nat) :
    (disable i : Step (Host υ) Unit).run.Tame (Upkeep i) Anything := by
  refine Step.tame_bind (Step.tame_lift Act.prompt_cancelAll.tame) fun _ => ?_
  refine Step.tame_bind (Step.tame_lift Act.prompt_unregisterAll.tame) fun _ => ?_
  refine Step.tame_bind (made_command _).tame fun _ => ?_
  have hoff : (modify (·.setPowered i false) : Act (Host υ) PUnit).Prompt (Upkeep i) Anything :=
    Act.prompt_modify _ fun h => .work (.off h)
  exact Step.tame_lift hoff.tame

theorem tame_takeDown (i : Nat) :
    (takeDown i : Step (Host υ) Unit).run.Tame (Upkeep i) Anything := by
  have hremoved : (modify (removeFacilities i) : Act (Host υ) PUnit).Prompt (Upkeep i) Anything :=
    Act.prompt_modify _ .removed
  exact Step.tame_bind (Step.tame_lift hremoved.tame) fun _ => tame_disable i

end Modem

end CellModem
