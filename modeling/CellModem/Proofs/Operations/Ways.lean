import Mathlib.Data.List.Forall2
import CellModem.Proofs.Operations.Plan

/-!
# Every way through a step

A step sends commands and asks drivers before it comes to a result. What holds of the result, and of
the commands sent on the way to it with what came of them, is told for each way to put a step
together.
-/

namespace CellModem

variable {υ α β : Type}

/-- A command and its answer; there is none when the channel refused the command. -/
abbrev Exchange : Type := String × Option Response

/-- What comes of a query whose answer is read like this. -/
def answerRead {α : Type} (decode : Response → Except DecodeError α) :
    Option Response → Except Error α
  | none => .error .rejected
  | some response =>
    if response.ok then (decode response).mapError .decode else .error (.protocol response.status)

section

variable {decode : Response → Except DecodeError α}

theorem answerRead_ok_iff {a : Option Response} {value : α} : answerRead decode a = .ok value ↔
    ∃ response, a = some response ∧ response.ok = true ∧ decode response = .ok value := by
  cases a with
  | none => simp [answerRead]
  | some response =>
    simp only [answerRead, Option.some.injEq, exists_eq_left']
    cases response.ok with
    | false => simp
    | true => cases decode response <;> simp [Except.mapError]

theorem answerRead_error {response : Response} (acknowledged : response.ok = true) {e : DecodeError}
    (h : decode response = .error e) : answerRead decode (some response) = .error (.decode e) := by
  rw [answerRead, if_pos acknowledged, h]
  rfl

end

namespace Transaction

def answered (t : Transaction α) : Option Response → Except Error α
  | some response => t.result response
  | none => .error .rejected

theorem answered_eq (t : Transaction α) : t.answered = answerRead t.decode := by
  funext a
  cases a <;> rfl

/-- A transaction that succeeds was acknowledged. -/
theorem acknowledged {t : Transaction α} {answer : Option Response} {value : α}
    (h : t.answered answer = .ok value) :
    ∃ response, answer = some response ∧ response.ok = true := by
  rw [answered_eq] at h
  obtain ⟨response, hanswer, hok, -⟩ := answerRead_ok_iff.mp h
  exact ⟨response, hanswer, hok⟩

end Transaction

/-- The code sends commands and asks drivers until it hands a result over. Whatever the answers, the
exchanges up to there and the result are as stated, if drivers are asked only at allowances as
given; asking them does not leave these. -/
inductive Routine.Comes (allow : Allowance → Prop) (reply : Except Error α → Routine (Host υ)) :
    (List Exchange → Except Error α → Prop) → Routine (Host υ) → Prop where
  | reply {post : List Exchange → Except Error α → Prop} (result : Except Error α)
    (h : post [] result) : Comes allow reply post (reply result)
  | ask {post : List Exchange → Except Error α → Prop} (spend : Allowance → Allowance)
    (next : Allowance → Routine (Host υ)) (steady : ∀ a, allow a → allow (spend a))
    (h : ∀ a, allow a → Comes allow reply post (next a)) :
    Comes allow reply post (.asking spend next)
  | send {post : List Exchange → Except Error α → Prop} (command : String) (leads : List String)
    (next : Option Response → Routine (Host υ))
    (h : ∀ answer, Comes allow reply (fun way => post ((command, answer) :: way)) (next answer)) :
    Comes allow reply post (.send command leads next)

namespace Routine

variable {allow : Allowance → Prop} {reply : Except Error α → Routine (Host υ)}
  {reply' : Except Error β → Routine (Host υ)} {r : Routine (Host υ)}

theorem Comes.imp {post post' : List Exchange → Except Error α → Prop}
    (h : Comes allow reply post r) (weaker : ∀ way result, post way result → post' way result) :
    Comes allow reply post' r := by
  induction h generalizing post' with
  | reply result h => exact .reply result (weaker [] result h)
  | ask spend next steady h ih => exact .ask spend next steady fun a ha => ih a ha weaker
  | send command leads next h ih =>
    exact .send command leads next fun answer => ih answer fun way => weaker (_ :: way)

/-- Code that hands its result to more code. -/
theorem Comes.trans {mid : List Exchange → Except Error β → Prop}
    {post : List Exchange → Except Error α → Prop} (h : Comes allow reply' mid r)
    (hreply : ∀ way result, mid way result →
      Comes allow reply (fun more => post (way ++ more)) (reply' result)) :
    Comes allow reply post r := by
  induction h generalizing post with
  | reply result h => exact hreply [] result h
  | ask spend next steady h ih => exact .ask spend next steady fun a ha => ih a ha hreply
  | send command leads next h ih =>
    exact .send command leads next fun answer => ih answer fun way => hreply (_ :: way)

/-- There is a way on from wherever the code has got. -/
theorem Comes.exists_way {post : List Exchange → Except Error α → Prop}
    (h : Comes (fun _ => True) reply post r) : ∃ way result, post way result := by
  induction h with
  | reply result h => exact ⟨[], result, h⟩
  | ask spend next steady h ih => exact ih .unlimited trivial
  | send command leads next h ih =>
    obtain ⟨way, result, hpost⟩ := ih none
    exact ⟨_, result, hpost⟩

end Routine

namespace Step

variable {allow : Allowance → Prop} {post : List Exchange → Except Error α → Prop}

/-- Every way through the step is as stated. -/
def Leads (allow : Allowance → Prop) (post : List Exchange → Except Error α → Prop)
    (step : Step (Host υ) α) : Prop :=
  ∀ reply, Routine.Comes allow reply post (step.routine reply)

theorem leads_ready {result : Except Error α} (h : post [] result) :
    (ready result : Step (Host υ) α).Leads allow post := fun _ => .reply result h

theorem leads_pure {value : α} (h : post [] (.ok value)) :
    (pure value : Step (Host υ) α).Leads allow post := leads_ready h

theorem leads_throw {e : Error} (h : post [] (.error e)) :
    (throw e : Step (Host υ) α).Leads allow post := leads_ready h

theorem leads_transaction (t : Transaction α)
    (h : ∀ answer, post [(t.command, answer)] (t.answered answer)) :
    (transaction t : Step (Host υ) α).Leads allow post := by
  intro reply
  rw [routine_transaction]
  refine .send _ _ _ fun answer => ?_
  cases answer with
  | none => exact .reply _ (h none)
  | some response => exact .reply _ (h (some response))

theorem routine_transaction_bind (t : Transaction β) (next : β → Step (Host υ) α)
    (reply : Except Error α → Routine (Host υ)) :
    (transaction t >>= next).routine reply = .send t.command t.leads fun answer =>
      match t.answered answer with
      | .ok value => (next value).routine reply
      | .error e => reply (.error e) := by
  rw [routine_bind, routine_transaction]
  exact congrArg (Routine.send _ _) (funext fun answer => by cases answer <;> rfl)

theorem leads_asking (ask : Ask α) (steady : ∀ a, allow a → allow (ask.run a).2)
    (h : ∀ a, allow a → post [] (ask.run a).1) :
    (Host.asking ask : Step (Host υ) α).Leads allow post := by
  intro reply
  rw [Host.routine_asking]
  exact .ask _ _ steady fun a ha => .reply _ (h a ha)

theorem Leads.bind {mid : List Exchange → Except Error β → Prop} {step : Step (Host υ) β}
    {next : β → Step (Host υ) α} (h : step.Leads allow mid)
    (herror : ∀ way e, mid way (.error e) → post way (.error e))
    (hnext : ∀ way value, mid way (.ok value) →
      (next value).Leads allow fun more => post (way ++ more)) :
    (step >>= next).Leads allow post := by
  intro reply
  rw [routine_bind]
  refine (h _).trans fun way result hmid => ?_
  cases result with
  | ok value => exact hnext way value hmid reply
  | error e =>
    refine .reply (.error e) ?_
    rw [List.append_nil]
    exact herror way e hmid

/-- A step that begins with a transaction. -/
theorem leads_transaction_bind (t : Transaction β) {next : β → Step (Host υ) α}
    (herror : ∀ answer e, t.answered answer = .error e → post [(t.command, answer)] (.error e))
    (hnext : ∀ answer value, t.answered answer = .ok value →
      (next value).Leads allow fun more => post ((t.command, answer) :: more)) :
    (transaction t >>= next).Leads allow post := by
  have ht : (transaction t : Step (Host υ) β).Leads allow fun way result =>
      ∃ answer, way = [(t.command, answer)] ∧ t.answered answer = result :=
    leads_transaction t fun answer => ⟨answer, rfl, rfl⟩
  refine ht.bind ?_ ?_
  · rintro _ e ⟨answer, rfl, hanswer⟩
    exact herror answer e hanswer
  · rintro _ value ⟨answer, rfl, hanswer⟩
    exact hnext answer value hanswer

theorem Leads.map {mid : List Exchange → Except Error β → Prop} {step : Step (Host υ) β}
    (h : step.Leads allow mid) (f : β → α)
    (hpost : ∀ way result, mid way result → post way (result.map f)) :
    (f <$> step).Leads allow post := by
  intro reply
  rw [routine_map]
  refine (h _).trans fun way result hmid => ?_
  have hresult := hpost way result hmid
  rw [← List.append_nil way] at hresult
  cases result with
  | ok value => exact .reply _ hresult
  | error e => exact .reply _ hresult

/-- The act and the way back come behind a modem that is off duty. -/
theorem Leads.compensated {off : List Exchange → Except Error Unit → Prop}
    {acted : List Exchange → Except Error α → Prop}
    {back : List Exchange → Except Error Unit → Prop}
    {deregister : Step (Host υ) Unit} {act : Step (Host υ) α} {restore : Step (Host υ) Unit}
    (hderegister : deregister.Leads allow off) (hact : act.Leads allow acted)
    (hrestore : restore.Leads allow back)
    (herror : ∀ way e, off way (.error e) → post way (.error e))
    (hresult : ∀ way way' way'' result result', off way (.ok ()) → acted way' result →
      back way'' result' → post (way ++ (way' ++ way'')) (result <* result')) :
    (Step.compensated deregister act restore).Leads allow post := by
  intro reply
  rw [routine_compensated]
  refine (hderegister _).trans fun way left hleft => ?_
  cases left with
  | error e =>
    refine .reply (.error e) ?_
    rw [List.append_nil]
    exact herror way e hleft
  | ok _ =>
    refine (hact _).trans fun way' result hacted => ?_
    cases result with
    | ok value =>
      refine (hrestore _).trans fun way'' restored hback => ?_
      have hpost := hresult way way' way'' _ _ hleft hacted hback
      cases restored with
      | ok _ =>
        refine .reply (.ok value) ?_
        rw [List.append_nil]
        exact hpost
      | error e =>
        refine .reply (.error e) ?_
        rw [List.append_nil]
        exact hpost
    | error e =>
      refine (hrestore _).trans fun way'' restored hback => ?_
      have hpost := hresult way way' way'' _ _ hleft hacted hback
      refine .reply (.error e) ?_
      rw [List.append_nil]
      exact hpost

end Step

/-! ## What drivers offer -/

namespace Ask

variable {post : α → Prop} {P : α → Prop} {Q : β → Prop}

/-- What is asked for is as stated, if it can be had. -/
def Yields (post : α → Prop) (ask : Ask α) : Prop :=
  ∀ a value, (ask.run a).1 = .ok value → post value

theorem yields_pure {value : α} (h : post value) : (pure value : Ask α).Yields post :=
  fun _ _ hvalue => Except.ok.inj hvalue ▸ h

theorem yields_throw (e : Error) : (throw e : Ask α).Yields post := nofun

theorem yields_lift {result : Except Error α} (h : ∀ value, result = .ok value → post value) :
    (liftM result : Ask α).Yields post := by
  cases result with
  | ok value => exact yields_pure (h value rfl)
  | error e => exact yields_throw e

/-- A driver offers the transaction of the request, or none. -/
theorem yields_ask (driver : Driver) (r : Request α) :
    (driver.ask r).Yields (· = r.transaction) := by
  intro a value hvalue
  cases driver with
  | full => exact (Except.ok.inj hvalue).symm
  | bare => cases hvalue
  | rationed =>
    change ((if (a.spend r.method).1 then pure r.transaction else throw .notImplemented : Ask _).run
      (a.spend r.method).2).1 = .ok value at hvalue
    split at hvalue
    · exact (Except.ok.inj hvalue).symm
    · cases hvalue

theorem Yields.bind {first : Ask β} {next : β → Ask α} (h : first.Yields Q)
    (hnext : ∀ value, Q value → (next value).Yields P) : (first >>= next).Yields P := by
  intro a value hvalue
  rw [run_bind] at hvalue
  rcases hfirst : first.run a with ⟨_ | asked, a'⟩
  · rw [hfirst] at hvalue
    cases hvalue
  · rw [hfirst] at hvalue
    exact hnext asked (h a asked (congrArg Prod.fst hfirst)) a' value hvalue

theorem Yields.both {first : Ask α} {second : Ask β} (h : first.Yields P) (h' : second.Yields Q) :
    (first.both second).Yields fun values => P values.1 ∧ Q values.2 := by
  intro a values hvalues
  rw [run_both] at hvalues
  rcases hfirst : first.run a with ⟨_ | value, a'⟩
  · rw [hfirst] at hvalues
    cases hvalues
  · rw [hfirst] at hvalues
    rcases hsecond : second.run a' with ⟨_ | value', a''⟩
    · rw [hsecond] at hvalues
      cases hvalues
    · rw [hsecond] at hvalues
      cases hvalues
      exact ⟨h a value (congrArg Prod.fst hfirst), h' a' value' (congrArg Prod.fst hsecond)⟩

theorem yields_mapM {γ : Type} {ask : γ → Ask α} {R : γ → α → Prop} (h : ∀ x, (ask x).Yields (R x))
    (list : List γ) : (list.mapM ask).Yields (List.Forall₂ R list) := by
  induction list with
  | nil => exact yields_pure .nil
  | cons x rest ih =>
    rw [List.mapM_cons]
    exact (h x).bind fun _ hx => ih.bind fun _ hrest => yields_pure (.cons hx hrest)

/-- A switch is kept with the transaction that queries it. -/
theorem yields_switchQuery (driver : Driver) (s : Switch) :
    (do return (s, ← driver.ask (.querySwitch s)) : Ask (Switch × Transaction Bool)).Yields
      (· = (s, (Request.querySwitch s).transaction)) := by
  refine (yields_ask driver (.querySwitch s)).bind ?_
  rintro _ rfl
  exact yields_pure rfl

end Ask

/-! ## What operations come to -/

section

variable {ρ : Type} {f : Facility} {allow : Allowance → Prop}
  {post : List Exchange → Except Error (Settled f ρ) → Prop} {vendor : Vendor}

/-- The operation is planned at no expense, and then the step is taken. -/
theorem Host.leads_carryOut {op : Operation υ f ρ} {driver : Driver}
    {planned : Except Error (Step (Host υ) (Settled f ρ))}
    (hplan : ∀ a, (op.plan vendor driver).run a = (planned, a))
    (herror : ∀ e, planned = .error e → post [] (.error e))
    (hstep : ∀ step, planned = .ok step → step.Leads allow post) :
    (Host.carryOut op vendor driver).Leads allow post := by
  have hasked : (Host.asking (op.plan vendor driver) : Step (Host υ) _).Leads allow
      fun way result => way = [] ∧ result = planned :=
    Step.leads_asking _ (fun a ha => by rwa [hplan]) fun a _ => ⟨rfl, by rw [hplan]⟩
  refine hasked.bind ?_ ?_
  · rintro _ e ⟨rfl, hresult⟩
    exact herror e hresult.symm
  · rintro _ step ⟨rfl, hresult⟩
    exact hstep step hresult.symm

/-- An operation that is one request, with a driver that has everything. -/
theorem Operation.leads_request {make : Vendor → Except Error (Request α)}
    {settle : α → Settled f ρ} (herror : ∀ e, make vendor = .error e → post [] (.error e))
    (hmade : ∀ r answer, make vendor = .ok r →
      post [(r.transaction.command, answer)] ((r.transaction.answered answer).map settle)) :
    (Host.carryOut (.request make settle) vendor .full : Step (Host υ) _).Leads allow post := by
  have hplan (a : Allowance) : ((request make settle : Operation υ f ρ).plan vendor .full).run a
      = ((make vendor).map fun r => settle <$> Step.transaction r.transaction, a) := by
    unfold request
    dsimp only
    cases make vendor <;> rfl
  cases hmake : make vendor with
  | error e =>
    rw [hmake] at hplan
    refine Host.leads_carryOut hplan (fun e' he => ?_) nofun
    obtain rfl := Except.error.inj he
    exact herror e hmake
  | ok r =>
    rw [hmake] at hplan
    refine Host.leads_carryOut hplan nofun fun step hstep => ?_
    obtain rfl := Except.ok.inj hstep
    have hsent : (Step.transaction r.transaction : Step (Host υ) α).Leads allow fun way result =>
        ∃ answer, way = [(r.transaction.command, answer)] ∧ r.transaction.answered answer = result :=
      Step.leads_transaction _ fun answer => ⟨answer, rfl, rfl⟩
    refine hsent.map settle ?_
    rintro _ _ ⟨answer, rfl, rfl⟩
    exact hmade r answer hmake

end

/-! ## Steps that succeed -/

namespace Step

variable {good : List Exchange → α → Prop}

/-- Every way through the step on which it succeeds is as stated. -/
def Succeeds (good : List Exchange → α → Prop) (step : Step (Host υ) α) : Prop :=
  step.Leads (fun _ => True) fun way result => ∀ value, result = .ok value → good way value

theorem succeeds_pure {value : α} (h : good [] value) :
    (pure value : Step (Host υ) α).Succeeds good :=
  leads_pure fun _ hvalue => Except.ok.inj hvalue ▸ h

theorem succeeds_throw (e : Error) : (throw e : Step (Host υ) α).Succeeds good :=
  leads_throw fun _ hvalue => nomatch hvalue

theorem succeeds_asking {ask : Ask α} (h : ask.Yields (good [])) :
    (Host.asking ask : Step (Host υ) α).Succeeds good :=
  leads_asking ask (fun _ => id) fun a _ => h a

theorem Succeeds.bind {mid : List Exchange → β → Prop} {step : Step (Host υ) β}
    {next : β → Step (Host υ) α} (h : step.Succeeds mid)
    (hnext : ∀ way value, mid way value → (next value).Succeeds fun more => good (way ++ more)) :
    (step >>= next).Succeeds good :=
  Leads.bind h (fun _ _ _ _ hvalue => nomatch hvalue) fun way value hmid =>
    hnext way value (hmid value rfl)

theorem succeeds_transaction_bind (t : Transaction β) {next : β → Step (Host υ) α}
    (h : ∀ answer value, t.answered answer = .ok value →
      (next value).Succeeds fun more => good ((t.command, answer) :: more)) :
    (transaction t >>= next).Succeeds good :=
  leads_transaction_bind t (fun _ _ _ _ hvalue => nomatch hvalue) h

theorem succeeds_transaction (t : Transaction α)
    (h : ∀ answer value, t.answered answer = .ok value → good [(t.command, answer)] value) :
    (transaction t : Step (Host υ) α).Succeeds good :=
  leads_transaction t fun answer value => h answer value

/-- A survey succeeds if the act and the way back do. -/
theorem Succeeds.compensated {off back : List Exchange → Unit → Prop}
    {acted : List Exchange → α → Prop} {deregister restore : Step (Host υ) Unit}
    {act : Step (Host υ) α} (hderegister : deregister.Succeeds off) (hact : act.Succeeds acted)
    (hrestore : restore.Succeeds back)
    (h : ∀ way way' way'' value, off way () → acted way' value → back way'' () →
      good (way ++ (way' ++ way'')) value) :
    (Step.compensated deregister act restore).Succeeds good := by
  refine Leads.compensated hderegister hact hrestore (fun _ _ _ _ hvalue => nomatch hvalue) ?_
  intro way way' way'' result result' hoff hacted hback value hvalue
  cases result with
  | error e => cases hvalue
  | ok acted =>
    cases result' with
    | error e => cases hvalue
    | ok _ =>
      obtain rfl := Except.ok.inj hvalue
      exact h way way' way'' acted (hoff () rfl) (hacted acted rfl) (hback () rfl)

end Step

end CellModem
