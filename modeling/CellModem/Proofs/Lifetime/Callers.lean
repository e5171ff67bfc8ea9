import CellModem.Proofs.Lifetime.Standing
import CellModem.Proofs.Operations.Refusal

/-!
# The callers of a modem

Callers look at the host, do deeds, and ask instances for operations. They may do so at any time, and
again when they are answered. Where no instance is left that an operation reaches, all they do is
without effect on the channel.
-/

namespace CellModem

variable {υ : Type}

/-- What callers do. Nothing of it is announced, apart from what operations announce. -/
inductive Caller : Act (Host υ) Unit → Prop where
  | rest : Caller (pure ())
  | look {next : Host υ → Act (Host υ) Unit} (goesOn : ∀ h, Caller (next h)) :
    Caller (do next (← get))
  | deed {change : Host υ → Host υ} {next : Act (Host υ) Unit}
    (deed : ∀ h, Host.Deed (fun _ => False) h (change h)) (goesOn : Caller next) :
    Caller (do modify change; next)
  | ask {f : Facility} {ρ : Type} {op : Operation υ f ρ} {reply : Except Error ρ → Act (Host υ) Unit}
    {next : Act (Host υ) Unit} (n : Nat) (built : op.Built)
    (answered : ∀ result, Caller (reply result)) (goesOn : Caller next) :
    Caller (do Act.fork (do reply (← (Host.perform n op).run)); next)

/-- A step that is built so only sends and asks drivers. -/
theorem Step.Built.made {α : Type} {step : Step (Host υ) α} (built : step.Built) :
    step.run.Made Host.Use Anything := by
  intro P sends changes _ next hnext
  refine built P (fun command leads next => sends command leads next trivial)
    (fun spend next hnext => ?_) next hnext
  exact changes (fun h => (h.allowance, { h with allowance := spend h.allowance })) next
    (fun h => .spent h _) hnext

namespace Host

variable {f : Facility} {n : Nat}

/-- An operation first takes its instance. -/
theorem routine_perform {ρ : Type} (n : Nat) (op : Operation υ f ρ)
    (reply : Except Error ρ → Routine (Host υ)) :
    (perform n op).routine reply = .read fun h => .write (claim f n h).2 (match (claim f n h).1 with
      | .error e => reply (.error e)
      | .ok taken => (carryOut op taken.1 taken.2).routine fun result =>
        .read fun h => .write (h.settle n result) (reply (result.map Settled.answer))) := by
  refine congrArg Routine.read (funext fun h => congrArg (Routine.write _) ?_)
  cases (claim f n h).1 with
  | error e => rfl
  | ok taken => rfl

theorem claim_dead {h : Host υ} (dead : ∀ a, h.account? f n = some a → a.Dead) :
    ∃ e, claim f n h = (.error e, h) := by
  cases hinst : h.instance? f n with
  | none =>
    refine ⟨.instanceGone, ?_⟩
    unfold claim
    rw [hinst]
  | some inst =>
    rcases dead _ (account?_of_instance hinst) with hremoved | hdriver
    · exact ⟨_, claim_removed hinst hremoved⟩
    · have hdriver : inst.driver = none := hdriver
      unfold claim
      rw [hinst]
      dsimp only
      rw [hdriver]
      split
      · exact ⟨_, rfl⟩
      · split
        · exact ⟨_, rfl⟩
        · exact ⟨_, rfl⟩

/-- An operation takes its instance and settles, and does in between what its step does. -/
theorem made_perform {ρ : Type} {op : Operation υ f ρ} {may : String → Prop}
    (carried : ∀ vendor driver, (carryOut op vendor driver).run.Made Use may) (n : Nat) :
    (perform n op).run.Made Use may := by
  have hclaim : (modifyGet (claim f n) : Act (Host υ) _).Made Use may :=
    Act.made_modifyGet _ fun h => .claimed h f n
  refine hclaim.bind fun claimed => ?_
  cases claimed with
  | error e => exact Act.made_pure _
  | ok taken =>
    refine (carried taken.1 taken.2).bind fun result => ?_
    have hsettled : (modify (settle n result) : Act (Host υ) PUnit).Made Use may :=
      Act.made_modify _ fun h => .settled h n result
    exact hsettled.bind fun _ => Act.made_pure _

end Host

namespace Caller

variable {act : Act (Host υ) Unit}

/-- Callers keep what ordinary deeds keep, now and whenever they are answered. -/
theorem tame (caller : Caller act) : act.Tame Host.Ordinary Anything := by
  induction caller with
  | rest => exact (Act.prompt_pure ()).tame
  | look _ ih => exact Act.prompt_get.tame.bind ih
  | @deed change next deed _ ih =>
    have hchange : (modify change : Act (Host υ) PUnit).Prompt Host.Ordinary Anything :=
      Act.prompt_modify _ fun h => (deed h).weaken fun _ => False.elim
    exact hchange.tame.bind fun _ => ih
  | ask n built _ _ ihReply ih =>
    have hperformed := (Host.made_perform (fun vendor driver => (built.carryOut vendor driver).made)
      n).mono fun _ _ => Host.Use.ordinary
    have hasked := hperformed.tame.bind ihReply
    exact (Act.prompt_fork hasked).tame.bind fun _ => ih

/-- Where no operation reaches its instance, callers do nothing to the channel. -/
theorem inward (caller : Caller act) {kept : Host υ → Prop}
    (stable : Stable (Host.Deed fun _ => False) kept)
    (dead : ∀ h, kept h → ∀ f n a, h.account? f n = some a → a.Dead) {h : Host υ} (hh : kept h) :
    act.routine.Inward kept h := by
  induction caller generalizing h with
  | rest => exact hh
  | look _ ih => exact ih h hh
  | deed deed _ ih => exact ih (stable h _ (deed h) hh)
  | @ask f ρ op reply next n built _ _ ihReply ih =>
    have hrefused : ((Host.perform n op).routine fun result => (reply result).routine).Inward kept
        h := by
      obtain ⟨e, hclaim⟩ := Host.claim_dead (dead h hh f n)
      rw [Host.routine_perform]
      unfold Routine.Inward Routine.Inward
      rw [hclaim]
      exact ihReply _ hh
    exact hrefused.mono fun _ => ih

end Caller

end CellModem
