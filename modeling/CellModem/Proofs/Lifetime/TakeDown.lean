import CellModem.Proofs.Conduct.Channels
import CellModem.Proofs.Conduct.Relay
import CellModem.Proofs.Lifetime.Callers
import CellModem.Proofs.Lifetime.Furnishing

/-!
# Taken down for good

A modem is brought up once and taken down at some time, perhaps before it has come up. Whatever was
under way then ends there: all of it has its only way on through the channel, and the channel drops
it. What remains is the command that switches the modem off.
-/

namespace CellModem

open scoped List

variable {υ : Type}

namespace Modem

open Host

/-- What the core starts for a new modem. Whether it comes up is not waited for. -/
def comeUp (i : Nat) (model : Model) : Act (Host υ) Unit := do
  let _ ← (bringUp i model).run

/-- What the core starts for a modem that goes. Whether it is switched off is not waited for. -/
def goDown (i : Nat) : Act (Host υ) Unit := do
  let _ ← (takeDown i).run

/-- Bringing up has the channel to itself until the facilities are created. -/
theorem comeUp_alone {h₀ h : Host υ} {i : Nat} (model : Model) (idle : Idle h₀ i h) :
    (comeUp i model).routine.Alone (Idle h₀ i) (Furnished h₀ i) Anything h := by
  refine ((made_enable i model).mono fun _ _ => Work.ordinary).alone stable_idle stable_furnished
    (fun result s hs => ?_) idle
  cases result with
  | error e => exact .done hs
  -- From here on many may wait, each of whom keeps the places in order.
  | ok _ => exact .arrives (furnish_keeps model hs fun _ hfurnished => hfurnished)

/-- Taking down is removing the facilities, dropping all the channel holds, and one command. -/
theorem routine_goDown (i : Nat) : ∃ leads next,
    (goDown i : Act (Host υ) Unit).routine = .read (fun h =>
      .write (removeFacilities i h) (.cancelAll (.unregisterAll (.send "AT+CFUN=4" leads next)))) ∧
    ∀ answer, next answer = .done ∨
      next answer = .read fun h => .write (h.setPowered i false) .done := by
  let off (result : Except Error Unit) : Step (Host υ) Unit := do
    Step.ready result
    modify (·.setPowered i false)
  have hoff (result : Except Error Unit) : (off result).routine (fun _ => .done) = .done ∨
      (off result).routine (fun _ => .done) = .read fun h => .write (h.setPowered i false) .done := by
    cases result with
    | ok _ => exact .inr rfl
    | error _ => exact .inl rfl
  refine ⟨_, _, rfl, fun answer => ?_⟩
  cases answer with
  | none => exact hoff (.error .rejected)
  | some response => exact hoff ((Transaction.plain "AT+CFUN=4").result response)

end Modem

/-! ## Turns -/

/-- Something happens on the channel, or a caller has a turn. -/
inductive Turn (C : Type → Type) [Channel C] [Attended C] (υ : Type) where
  | input (input : Attended.Input C)
  | call (act : Act (Host υ) Unit) (caller : Caller act)

namespace Machine

section

variable {C : Type → Type} [Channel C] [Attended C]

def turn (m : Machine C (Host υ)) : Turn C υ → Machine C (Host υ)
  | .input input => m.feed input
  | .call act _ => m.start act

/-- The commands that are given to the channel in the turn. -/
def turnGiven (m : Machine C (Host υ)) : Turn C υ → List String
  | .input input => m.feedGiven input
  | .call act _ => act.routine.given m

def turns (m : Machine C (Host υ)) (list : List (Turn C υ)) : Machine C (Host υ) := list.foldl turn m

def turnsGiven (m : Machine C (Host υ)) : List (Turn C υ) → List String
  | [] => []
  | first :: rest => m.turnGiven first ++ (m.turn first).turnsGiven rest

end

section

variable {C : Type → Type} [Channel C] [Attended C] [AttendedLaws C]

open Attended Modem Host

theorem turns_onward (m : Machine C (Host υ)) (list : List (Turn C υ)) :
    Onward m.channel (m.turnsGiven list) (m.turns list).channel := by
  induction list generalizing m with
  | nil => exact .refl _
  | cons first rest ih =>
    have hfirst : Onward m.channel (m.turnGiven first) (m.turn first).channel := by
      cases first with
      | input input => exact m.feed_onward input
      | call act _ => exact act.routine.exec_onward m
    exact hfirst.trans (ih _)

/-- Until the facilities are created, and from then on. -/
theorem turns_goes {h₀ : Host υ} {i : Nat} {m : Machine C (Host υ)}
    (goes : m.Goes (Idle h₀ i) (Furnished h₀ i) Anything) (list : List (Turn C υ)) :
    (m.turns list).Goes (Idle h₀ i) (Furnished h₀ i) Anything := by
  induction list generalizing m with
  | nil => exact goes
  | cons first rest ih =>
    refine ih ?_
    cases first with
    | input input => exact feed_goes goes input
    | call act caller =>
      -- Before the facilities are there, callers are turned away, so nobody joins who waits.
      refine exec_goes goes (fun s hs => ?_) fun s hs => ?_
      · exact caller.inward stable_idle (fun _ hidle _ _ _ => hidle.dead) hs
      · exact caller.tame.routine stable_furnished stable_furnished (fun _ hs => hs) hs

end

end Machine

/-! ## Taken down -/

namespace Modem

open Host

/-- The modem has been taken down, when the host was `h₁`. Since then no instance has come, and only
that a modem is powered or not has been told. -/
structure Down (h₀ : Host υ) (i : Nat) (h₁ h : Host υ) : Prop where
  idle : Idle h₀ i h
  known : ∀ f n, h.account? f n = none ↔ h₁.account? f n = none
  announces : h₁.Announces (fun e => ∃ on, e = .powered on) h

section

variable {h₀ h₁ : Host υ} {i : Nat}

theorem stable_down : Stable (Deed fun e => ∃ on, e = .powered on) (Down h₀ i h₁) := by
  intro h h' deed down
  refine ⟨stable_idle h h' deed down.idle, fun f n => ?_, down.announces.trans deed.announces⟩
  exact (deed.account?_eq_none_iff f n).trans (down.known f n)

theorem down_removeFacilities (furnished : Furnished h₀ i h₁) :
    Down h₀ i h₁ (removeFacilities i h₁) :=
  ⟨removeFacilities_idle furnished, account?_removeFacilities_eq_none i h₁,
    announces_removeFacilities i h₁⟩

end

section

variable {C : Type → Type} [Channel C] [Attended C] [AttendedLaws C] {h₀ h₁ : Host υ} {i : Nat}

open Attended

/-- The facilities are gone and the channel holds nothing any more. -/
def cleared (i : Nat) (m : Machine C (Host υ)) : Machine C (Host υ) where
  channel := Channel.unregisterAll (Channel.cancelAll m.channel)
  state := removeFacilities i m.state

theorem cleared_vacant (i : Nat) (m : Machine C (Host υ)) :
    waiting (cleared i m).channel = [] ∧ handlers (cleared i m).channel = [] ∧
      backlog (cleared i m).channel = [] ∧
      Channel.traffic (cleared i m).channel = Channel.traffic m.channel := by
  obtain ⟨-, hwaiting, hbacklog, htraffic⟩ := AttendedLaws.cancelAll m.channel
  obtain ⟨hless, hhandlers⟩ := AttendedLaws.unregisterAll (Channel.cancelAll m.channel)
  obtain ⟨htraffic', hbacklog'⟩ := hless.onward.idle hbacklog
  have hnobody := hwaiting ▸ hless.waiting
  exact ⟨List.sublist_nil.mp hnobody, hhandlers, hbacklog', htraffic'.trans htraffic⟩

/-- Nobody is left but who waits for the modem to be switched off. -/
theorem goDown_down {m : Machine C (Host υ)} (furnished : Furnished h₀ i m.state) :
    let down := m.start (goDown i)
    Down h₀ i m.state down.state ∧ down.Attends (Down h₀ i m.state) (fun _ => False) ∧
      (goDown i).routine.given m = ["AT+CFUN=4"] ∧
      Onward (cleared i m).channel ["AT+CFUN=4"] down.channel := by
  obtain ⟨leads, next, hroutine, hnext⟩ := routine_goDown (υ := υ) i
  let last := Routine.send "AT+CFUN=4" leads next
  have hexec : m.start (goDown i) = last.exec (cleared i m) := by
    unfold Machine.start
    rw [hroutine]
    rfl
  have hgiven : (goDown i).routine.given m = last.given (cleared i m) := by
    rw [hroutine]
    rfl
  -- Nobody waits and nothing is handled, so there is nobody of whom anything must be known.
  have hvacant : (cleared i m).Attends (Down h₀ i m.state) (fun _ => False) := by
    obtain ⟨hnobody, hunheard, -⟩ := cleared_vacant i m
    exact ⟨by rw [hnobody]; nofun, by rw [hunheard]; nofun⟩
  have hlast : ∀ answer s, Down h₀ i m.state s →
      (next answer).Keeps (Down h₀ i m.state) (fun _ => False) (Down h₀ i m.state) s := by
    intro answer s hs
    rcases hnext answer with hdone | hoff
    · rw [hdone]
      exact hs
    · rw [hoff]
      exact stable_down s _ (s.deed_setPowered i false ⟨false, rfl⟩) hs
  obtain ⟨hdown, hattends, honce⟩ : _ ∧ _ ∧ last.given (cleared i m) = ["AT+CFUN=4"] :=
    Machine.exec_last (down_removeFacilities furnished) hvacant hlast
  have honward := last.exec_onward (cleared i m)
  rw [honce] at honward
  rw [hexec, hgiven]
  exact ⟨hdown, hattends, honce, honward⟩

/-- Once a modem has been taken down nothing more is sent. -/
theorem turns_down {m : Machine C (Host υ)} (down : Down h₀ i h₁ m.state)
    (attends : m.Attends (Down h₀ i h₁) fun _ => False) (list : List (Turn C υ)) :
    Down h₀ i h₁ (m.turns list).state ∧ m.turnsGiven list = [] := by
  induction list generalizing m with
  | nil => exact ⟨down, rfl⟩
  | cons first rest ih =>
    have hfirst : Down h₀ i h₁ (m.turn first).state ∧
        (m.turn first).Attends (Down h₀ i h₁) (fun _ => False) ∧
        ∀ command ∈ m.turnGiven first, False := by
      cases first with
      | input input => exact Machine.feed_attends down attends input
      | call act caller =>
        have hstable : Stable (Deed fun _ => False) (Down h₀ i h₁) :=
          fun s s' deed => stable_down s s' (deed.weaken fun _ => False.elim)
        have hinward := caller.inward hstable (fun _ hs _ _ _ => hs.idle.dead) down
        have hkeeps : act.routine.Keeps (Down h₀ i h₁) (fun _ => False) (Down h₀ i h₁) m.state :=
          hinward.keeps
        exact ⟨hinward.exec.1, hkeeps.attends attends⟩
    obtain ⟨hdown, hattends, hnone⟩ := hfirst
    obtain ⟨hdown', hrest⟩ := ih hdown hattends
    refine ⟨hdown', ?_⟩
    unfold Machine.turnsGiven
    rw [List.eq_nil_iff_forall_not_mem.mpr hnone, hrest]
    rfl

end

end Modem

/-! ## The whole life of a modem -/

section

variable {C : Type → Type} [Channel C] [Attended C]

open Attended

/-- There is the modem, its channel is unused, and no operation reaches an instance from before. -/
structure Machine.Ready (i : Nat) (m : Machine C (Host υ)) : Prop where
  modem : ∃ modem, m.state.modems[i]? = some modem
  nobody : waiting m.channel = []
  unheard : handlers m.channel = []
  tidy : m.state.Tidy
  bygone : ∀ f n a, m.state.account? f n = some a → a.Dead

variable {i : Nat} {m : Machine C (Host υ)}

theorem Machine.Ready.idle (ready : m.Ready i) : Modem.Idle m.state i m.state := by
  obtain ⟨modem, hmodem⟩ := ready.modem
  refine ⟨modem.facilities, ready.tidy, by rw [hmodem]; rfl, fun _ _ hnone => hnone, ?_, ?_⟩
  · exact fun f n a _ ha => ready.bygone f n a ha
  · intro f n a hnone ha
    rw [hnone] at ha
    cases ha

variable [AttendedLaws C]

/-- The modem comes up as far as the turns let it. -/
theorem Machine.Ready.goes (ready : m.Ready i) (model : Model) (list : List (Turn C υ)) :
    Modem.Furnished m.state i ((m.start (Modem.comeUp i model)).turns list).state := by
  have hlooksOn : ∀ h ∈ handlers m.channel,
      h.LooksOn (Modem.Idle m.state i) (Modem.Furnished m.state i) := by
    rw [ready.unheard]
    nofun
  have hstarted : (m.start (Modem.comeUp i model)).Goes (Modem.Idle m.state i)
      (Modem.Furnished m.state i) Anything :=
    (Modem.comeUp_alone model ready.idle).goes ready.nobody hlooksOn
  rcases Machine.turns_goes hstarted list with lone | ⟨hfurnished, -⟩
  · exact lone.state.furnished
  · exact hfurnished

namespace Modem

/-- A modem is brought up, and taken down at any time after; until then and from then on anything may
happen on its channel, and callers may do as they like. Once it is to be taken down one command is
given to the channel, and at most that is written. Every instance that a driver had accepted has
been removed and its driver let go, once over the whole time; no driver was ever bound to the others.
There are no new instances, and nothing is told but whether the modem is powered. -/
theorem taken_down_for_good (ready : m.Ready i) (model : Model) (before after : List (Turn C υ)) :
    let up := (m.start (comeUp i model)).turns before
    let down := up.start (goDown i)
    let last := down.turns after
    (goDown i).routine.given up ++ down.turnsGiven after = ["AT+CFUN=4"] ∧
    (∃ sent, Channel.traffic last.channel = Channel.traffic up.channel ++ sent.map (written C) ∧
      sent <+ ["AT+CFUN=4"]) ∧
    (∀ f n (inst : Instance f), m.state.instance? f n = none →
      last.state.instance? f n = some inst →
        if inst.driverName = driverName then
          inst.life.state = .removed ∧ last.state.retirals f n = 1
        else inst.driver = none ∧ last.state.retirals f n = 0) ∧
    (∀ f n, last.state.instance? f n = none ↔ up.state.instance? f n = none) ∧
    ∃ added, last.state.events = up.state.events ++ added ∧ ∀ e ∈ added, ∃ on, e = .powered on := by
  intro up down last
  obtain ⟨hdown, hattends, hgiven, honward⟩ := goDown_down (ready.goes model before)
  obtain ⟨hlast, hnone⟩ := turns_down hdown hattends after
  obtain ⟨-, -, hbacklog, htraffic⟩ := cleared_vacant i up
  obtain ⟨sent, hwritten, hsent⟩ := honward.trans (down.turns_onward after)
  rw [hnone, hbacklog] at hsent
  refine ⟨?_, ⟨sent, ?_, ?_⟩, fun f n inst hnew hinst => ?_, fun f n => ?_, hlast.announces.events⟩
  · rw [hgiven, hnone]
    rfl
  · rw [hwritten, htraffic]
  · exact (List.sublist_append_left _ _).trans hsent
  · obtain ⟨places, hstanding⟩ := hlast.idle
    have haccount := Host.account?_of_instance hinst
    rcases hstanding.new f n _ (Host.account?_eq_none.mpr hnew) haccount with hspare | htaken
    · have hname : inst.driverName = "" := hspare.driverName
      rw [if_neg (by rw [hname]; decide)]
      exact ⟨hspare.driver, hspare.unbound.retirals⟩
    · obtain ⟨htaken, hremoved⟩ := htaken
      have hremoved : inst.life.state = .removed := hremoved.resolve_right id
      rw [if_pos htaken.driverName]
      exact ⟨hremoved, htaken.owned.retirals.trans (if_pos hremoved)⟩
  · exact Host.account?_eq_none.symm.trans ((hlast.known f n).trans Host.account?_eq_none)

end Modem

end

namespace Modem

variable {C : Type → Type}

/-- A modem that is yet to be brought up, with drivers for all facilities. -/
def boxed (channel : C (Resume (Host Unit))) : Machine C (Host Unit) where
  channel := channel
  state :=
    { Host.initial () with
      registries := .ofFn fun f => ⟨f.name, [⟨0, driverName, .full⟩]⟩
      modems := [.initial .telitSerial] }

/-- Somebody asks for the state of the power management. -/
def inquiry [Channel C] [Attended C] : Turn C Unit :=
  have built : (Operation.powerProperties : Operation Unit .power Properties).Built :=
    (Operation.over_request _ _).built
  .call _ (.ask 0 built (fun _ => .rest) .rest)

/-- The modem has answered six times, and has still to answer about the radio settings. -/
def halfway [Channel C] [Attended C] (channel : C (Resume (Host Unit))) (answer : Turn C Unit) :
    Machine C (Host Unit) :=
  ((boxed channel).start (comeUp 0 .telitSerial)).turns (List.replicate 6 answer ++ [inquiry])

theorem boxed_ready [Channel C] [Attended C] {channel : C (Resume (Host Unit))}
    (nobody : Attended.waiting channel = []) (unheard : Attended.handlers channel = []) :
    (boxed channel).Ready 0 where
  modem := ⟨_, rfl⟩
  nobody := nobody
  unheard := unheard
  tidy _ _ _ := rfl
  bygone f n a ha := by cases f <;> cases ha

theorem taken_down_for_good_halfway :
    let okay : Turn SerialPort Unit := .input (SerialPort.Input.line "OK")
    let flush : Turn Simulator Unit := .input Simulator.Input.flush
    let scripted : Simulator (Resume (Host Unit)) :=
      { Simulator.empty with unscripted := .ok, deferred := true }
    let serialUp := halfway SerialPort.opened okay
    let scriptedUp := halfway scripted flush
    (boxed SerialPort.opened).Ready 0 ∧ (boxed scripted).Ready 0 ∧
    (goDown 0).routine.given serialUp ++ (serialUp.start (goDown 0)).turnsGiven [okay, inquiry]
      = ["AT+CFUN=4"] ∧
    ((serialUp.start (goDown 0)).turns [okay, inquiry]).state.retirals .power 0 = 1 ∧
    (goDown 0).routine.given scriptedUp ++ (scriptedUp.start (goDown 0)).turnsGiven [flush, inquiry]
      = ["AT+CFUN=4"] ∧
    ((scriptedUp.start (goDown 0)).turns [flush, inquiry]).state.retirals .power 0 = 1 := by
  intro okay flush scripted serialUp scriptedUp
  have hserial : (boxed SerialPort.opened).Ready 0 := boxed_ready rfl rfl
  have hscripted : (boxed scripted).Ready 0 := boxed_ready rfl rfl
  obtain ⟨hgiven, -, hinstances, -⟩ := taken_down_for_good hserial .telitSerial
    (List.replicate 6 okay ++ [inquiry]) [okay, inquiry]
  obtain ⟨hgiven', -, hinstances', -⟩ := taken_down_for_good hscripted .telitSerial
    (List.replicate 6 flush ++ [inquiry]) [flush, inquiry]
  have hnamed : (((serialUp.start (goDown 0)).turns [okay, inquiry]).state.instance? .power 0).map
      (·.driverName) = some driverName := by decide +kernel
  have hnamed' : (((scriptedUp.start (goDown 0)).turns [flush, inquiry]).state.instance? .power
      0).map (·.driverName) = some driverName := by decide +kernel
  obtain ⟨inst, hinst, hname⟩ := Option.map_eq_some_iff.mp hnamed
  obtain ⟨inst', hinst', hname'⟩ := Option.map_eq_some_iff.mp hnamed'
  have hretired := hinstances .power 0 inst rfl hinst
  have hretired' := hinstances' .power 0 inst' rfl hinst'
  rw [if_pos hname] at hretired
  rw [if_pos hname'] at hretired'
  exact ⟨hserial, hscripted, hgiven, hretired.2, hgiven', hretired'.2⟩

end Modem

end CellModem
