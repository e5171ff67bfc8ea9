import CellModem.Proofs.Operations.Record

/-!
# One call, from its instance to its answer

A call that has been given its instance is followed to the answer its caller gets. Whatever other
calls do meanwhile, and whatever happens to the instance, it sends the commands of its operation one
after the other, each when it has heard what came of the one before.
-/

namespace CellModem

namespace Calls

variable {ι : Type} {α : ι → Type} {calls : Calls α} {i : ι} [DecidableEq ι]

namespace World

variable {w w' : World α}

/-! ## Where a call is -/

theorem running_pos {r : Routine (Logged α)} (mem : (i, r) ∈ w.stack) (going : ended r = false) :
    0 < w.running i := List.countP_pos_iff.mpr ⟨(i, r), mem, by simp [going]⟩

theorem holding_pos {resume : Resume (Logged α)} (mem : (i, resume) ∈ w.held) : 0 < w.holding i :=
  List.countP_pos_iff.mpr ⟨(i, resume), mem, by simp⟩

theorem lost_pos (mem : i ∈ w.dropped) : 0 < w.lost i := List.count_pos_iff.mpr mem

theorem answers_pos {result : Except Error (α i)} (mem : ⟨i, result⟩ ∈ w.host.observed) :
    0 < w.answers i := List.countP_pos_iff.mpr ⟨⟨i, result⟩, mem, by simp⟩

theorem Sound.one_place (h : w.Sound calls) (claimed : i ∈ w.claimed) :
    w.running i + w.holding i + w.lost i + w.answers i = 1 := by
  rw [h.placed i, if_pos (h.claimed i claimed)]

/-! ## The call followed -/

section

variable (calls) (i) (post : List Exchange → Except Error (Settled (calls.facility i) (α i)) → Prop)

/-- Code of the call goes on with the operation, or answers with what has come of it. -/
def Underway (w : World α) (past : List Exchange) (r : Routine (Logged α)) : Prop :=
  w.Occupies i ∧ Goes calls i post past r ∨
    ∃ result, post past result ∧ r = replying i (result.map Settled.answer)

/-- Wherever the call is, it is there with these exchanges behind it. -/
structure Followed (w : World α) (past : List Exchange) : Prop where
  claimed : i ∈ w.claimed
  code : ∀ r, (i, r) ∈ w.stack → ended r = false →
    belonging i w.commands = past.map Prod.fst ∧ Underway calls i post w past r
  waiting : ∀ resume, (i, resume) ∈ w.held → ∃ command,
    belonging i w.commands = past.map Prod.fst ++ [command] ∧
    ∀ response, Goes calls i post (past ++ [(command, some response)]) (resume response)
  dropped : i ∈ w.dropped → ∃ command, belonging i w.commands = past.map Prod.fst ++ [command] ∧
    ∀ response, ∃ way result, post (past ++ [(command, some response)] ++ way) result
  told : ∀ result, ⟨i, result⟩ ∈ w.host.observed → belonging i w.commands = past.map Prod.fst ∧
    ∃ result', post past result' ∧ result = result'.map Settled.answer

end

variable {post : List Exchange → Except Error (Settled (calls.facility i) (α i)) → Prop}
  {past : List Exchange}

/-- Nothing is done to the call. -/
structure Aside (i : ι) (w w' : World α) : Prop where
  code : ∀ r, (i, r) ∈ w'.stack → ended r = false → (i, r) ∈ w.stack
  waiting : ∀ resume, (i, resume) ∈ w'.held → (i, resume) ∈ w.held
  dropped : i ∈ w'.dropped → i ∈ w.dropped
  told : ∀ result, ⟨i, result⟩ ∈ w'.host.observed → ⟨i, result⟩ ∈ w.host.observed
  sent : belonging i w'.commands = belonging i w.commands
  claimed : i ∈ w.claimed → i ∈ w'.claimed
  occupies : w.Occupies i → w'.Occupies i

theorem Followed.aside (h : w.Followed calls i post past) (aside : Aside i w w') :
    w'.Followed calls i post past where
  claimed := aside.claimed h.claimed
  code r hr going := by
    obtain ⟨hsent, hunderway⟩ := h.code r (aside.code r hr going) going
    exact ⟨aside.sent.trans hsent, hunderway.imp_left fun hgoes =>
      ⟨aside.occupies hgoes.1, hgoes.2⟩⟩
  waiting resume hresume := by
    rw [aside.sent]
    exact h.waiting resume (aside.waiting resume hresume)
  dropped hdropped := by
    rw [aside.sent]
    exact h.dropped (aside.dropped hdropped)
  told result hresult := by
    rw [aside.sent]
    exact h.told result (aside.told result hresult)

/-- What is asked of the call in a place where it is not says nothing. -/
theorem followed_of_place (claimed : i ∈ w.claimed)
    (code : 0 < w.running i → ∀ r, (i, r) ∈ w.stack → ended r = false →
      belonging i w.commands = past.map Prod.fst ∧ Underway calls i post w past r)
    (waiting : 0 < w.holding i → ∀ resume, (i, resume) ∈ w.held → ∃ command,
      belonging i w.commands = past.map Prod.fst ++ [command] ∧
      ∀ response, Goes calls i post (past ++ [(command, some response)]) (resume response))
    (dropped : 0 < w.lost i → ∃ command,
      belonging i w.commands = past.map Prod.fst ++ [command] ∧
      ∀ response, ∃ way result, post (past ++ [(command, some response)] ++ way) result)
    (told : 0 < w.answers i → ∀ result, ⟨i, result⟩ ∈ w.host.observed →
      belonging i w.commands = past.map Prod.fst ∧
        ∃ result', post past result' ∧ result = result'.map Settled.answer) :
    w.Followed calls i post past where
  claimed := claimed
  code r hr going := code (running_pos hr going) r hr going
  waiting resume hresume := waiting (holding_pos hresume) resume hresume
  dropped hdropped := dropped (lost_pos hdropped)
  told result hresult := told (answers_pos hresult) result hresult

/-- The code of the call is on top of the stack, so the call is nowhere else. -/
theorem followed_of_code (sound : w.Sound calls) (claimed : i ∈ w.claimed) {r : Routine (Logged α)}
    {stack : List (ι × Routine (Logged α))} (top : w.stack = (i, r) :: stack)
    (going : ended r = false) (sent : belonging i w.commands = past.map Prod.fst)
    (underway : Underway calls i post w past r) : w.Followed calls i post past := by
  have hplace := sound.one_place claimed
  have hrunning := running_pos (top ▸ List.mem_cons_self) going
  refine followed_of_place claimed (fun _ r' hr' going' => ?_) (fun h => absurd h (by omega))
    (fun h => absurd h (by omega)) fun h => absurd h (by omega)
  rw [top] at hr'
  rcases List.mem_cons.mp hr' with hsame | hbelow
  · rw [(Prod.mk.inj hsame).2]
    exact ⟨sent, underway⟩
  · have hended := (sound.exclusive top going).1 _ hbelow rfl
    rw [show ended r' = false from going'] at hended
    cases hended

omit [DecidableEq ι] in
theorem Underway.goes {r : Routine (Logged α)} (h : Underway calls i post w past r)
    (unlike : ∀ result, r ≠ replying i result) : w.Occupies i ∧ Goes calls i post past r := by
  rcases h with hgoes | ⟨result, -, hreply⟩
  · exact hgoes
  · exact absurd hreply (unlike _)

/-! ## Steps of the call -/

section

variable {stack : List (ι × Routine (Logged α))} (h : w.Followed calls i post past)
  (sound : w.Sound calls)

include h sound

theorem Followed.ask {spend : Allowance → Allowance} {next : Allowance → Routine (Logged α)}
    (top : w.stack = (i, .asking spend next) :: stack) :
    Followed calls i post
      { w with
        host := { w.host with allowance := spend w.host.allowance }
        stack := (i, next w.host.allowance) :: stack } past := by
  have hworking := (sound.occupies_of_working top (asking_ne_replying spend next) rfl).2
  obtain ⟨hsent, hunderway⟩ := h.code _ (top ▸ List.mem_cons_self) rfl
  obtain ⟨hoccupies, hgoes⟩ := hunderway.goes (asking_ne_replying spend next)
  exact followed_of_code (sound.step (.ask w i stack spend next top)) h.claimed rfl
    (hworking.asked _).not_ended hsent (.inl ⟨hoccupies, hgoes.asked _⟩)

theorem Followed.settle {result : Except Error (Settled (calls.facility i) (α i))}
    (top : w.stack = (i, calls.settling i result) :: stack) :
    Followed calls i post
      { w with
        host := w.host.settle (calls.number i) result
        stack := (i, replying i (result.map Settled.answer)) :: stack
        settled := i :: w.settled } past := by
  obtain ⟨hsent, hunderway⟩ := h.code _ (top ▸ List.mem_cons_self) rfl
  obtain ⟨-, hgoes⟩ := hunderway.goes (working_ne_replying (.settle result))
  obtain ⟨result', hpost, hanswer, -⟩ := hgoes.settled
  exact followed_of_code (sound.step (.settle w i stack result top)) h.claimed rfl rfl hsent
    (.inr ⟨result', hpost, by rw [hanswer]⟩)

theorem Followed.reply {result : Except Error (α i)}
    (top : w.stack = (i, replying i result) :: stack) :
    Followed calls i post
      { w with host := w.host.note ⟨i, result⟩, stack := (i, .done) :: stack } past := by
  have hstep : Step calls w _ := .reply w i stack result top
  obtain ⟨hsent, hunderway⟩ := h.code _ (top ▸ List.mem_cons_self) rfl
  have hplace := (sound.step hstep).one_place h.claimed
  have htold : ⟨i, result⟩ ∈ (w.host.note ⟨i, result⟩).observed :=
    List.mem_append_right _ List.mem_cons_self
  have hanswered := answers_pos (w := { w with
    host := w.host.note ⟨i, result⟩, stack := (i, .done) :: stack }) htold
  have hresult : ∃ result', post past result' ∧ result = result'.map Settled.answer := by
    rcases hunderway with ⟨hoccupies, -⟩ | ⟨result', hpost, hreply⟩
    · rcases sound.fits top with hdone | ⟨hfree, -⟩ | ⟨-, hworking⟩
      · cases hdone
      · exact absurd hoccupies hfree
      · exact absurd rfl (working_ne_replying hworking result)
    · exact ⟨result', hpost, replying_inj hreply⟩
  refine followed_of_place h.claimed (fun h => absurd h (by omega)) (fun h => absurd h (by omega))
    (fun h => absurd h (by omega)) fun _ result' hresult' => ?_
  rcases List.mem_append.mp hresult' with hbefore | hnew
  · have hnone := (sound.exclusive top rfl).2.2.2
    have := answers_pos hbefore
    omega
  · obtain rfl := eq_of_heq (Sigma.mk.inj (List.mem_singleton.mp hnew)).2
    exact ⟨hsent, hresult⟩

theorem Followed.hold {command : String} {leads : List String}
    {next : Option Response → Routine (Logged α)}
    (top : w.stack = (i, .send command leads next) :: stack) :
    Followed calls i post
      { w with
        stack := stack
        held := (i, fun response => next (some response)) :: w.held
        commands := w.commands ++ [(i, command)] } past := by
  have hstep : Step calls w _ := .hold w i stack command leads next top
  obtain ⟨hsent, hunderway⟩ := h.code _ (top ▸ List.mem_cons_self) rfl
  obtain ⟨-, hgoes⟩ := hunderway.goes nofun
  have hplace := (sound.step hstep).one_place h.claimed
  have hholding := holding_pos (w := { w with
    stack := stack
    held := (i, fun response => next (some response)) :: w.held
    commands := w.commands ++ [(i, command)] }) List.mem_cons_self
  refine followed_of_place h.claimed (fun h => absurd h (by omega))
    (fun _ resume hresume => ⟨command, ?_, ?_⟩) (fun h => absurd h (by omega))
    fun h => absurd h (by omega)
  · rw [belonging_concat, hsent]
  · rcases List.mem_cons.mp hresume with hsame | hbefore
    · rw [(Prod.mk.inj hsame).2]
      exact fun response => hgoes.sent (some response)
    · exact absurd rfl ((sound.exclusive top rfl).2.1 _ hbefore)

theorem Followed.drop {before after : List (ι × Resume (Logged α))} {resume : Resume (Logged α)}
    (opened : w.Open) (held : w.held = before ++ (i, resume) :: after) :
    Followed calls i post
      { w with held := before ++ after, dropped := i :: w.dropped } past := by
  have hstep : Step calls w _ := .drop w i before after resume opened held
  have hplace := (sound.step hstep).one_place h.claimed
  have hlost := lost_pos (w := { w with held := before ++ after, dropped := i :: w.dropped })
    (List.mem_cons_self (a := i))
  obtain ⟨command, hsent, hgoes⟩ := h.waiting resume (by simp [held])
  exact followed_of_place h.claimed (fun h => absurd h (by omega)) (fun h => absurd h (by omega))
    (fun _ => ⟨command, hsent, fun response => (hgoes response).exists_way⟩)
    fun h => absurd h (by omega)

theorem Followed.hears {x : Exchange} (hears : Hears w i x w') :
    w'.Followed calls i post (past ++ [x]) := by
  have hsound := sound.step (hears.step calls)
  cases hears with
  | answer stack command leads next answer top =>
    have hworking := (sound.occupies_of_working top nofun rfl).2
    obtain ⟨hsent, hunderway⟩ := h.code _ (top ▸ List.mem_cons_self) rfl
    obtain ⟨hoccupies, hgoes⟩ := hunderway.goes nofun
    refine followed_of_code hsound h.claimed rfl (hworking.sent answer).not_ended ?_
      (.inl ⟨hoccupies, hgoes.sent answer⟩)
    rw [belonging_concat, hsent, List.map_append]
    rfl
  | deliver before after resume response command opened held last =>
    obtain ⟨⟨hoccupies, hworking⟩, -⟩ := sound.remaining held
    obtain ⟨command', hsent, hgoes⟩ := h.waiting resume (by simp [held])
    rw [hsent, List.getLast?_concat] at last
    obtain rfl := Option.some.inj last
    refine followed_of_code hsound h.claimed rfl (hworking response).not_ended ?_
      (.inl ⟨hoccupies, hgoes response⟩)
    rw [List.map_append]
    exact hsent

end

/-! ## Every step -/

omit [DecidableEq ι] in
theorem mem_of_push {j : ι} (ne : j ≠ i) {r r' : Routine (Logged α)}
    {stack : List (ι × Routine (Logged α))} (mem : (i, r) ∈ (j, r') :: stack) : (i, r) ∈ stack :=
  (List.mem_cons.mp mem).resolve_left fun heq => ne (Prod.mk.inj heq).1.symm

/-- Code of another call goes on. -/
theorem aside_of_top {j : ι} (ne : j ≠ i) {r r' : Routine (Logged α)}
    {stack : List (ι × Routine (Logged α))} (top : w.stack = (j, r) :: stack)
    (stack' : w'.stack = (j, r') :: stack) (held : w'.held = w.held)
    (dropped : w'.dropped = w.dropped)
    (told : ∀ result, ⟨i, result⟩ ∈ w'.host.observed → ⟨i, result⟩ ∈ w.host.observed)
    (sent : belonging i w'.commands = belonging i w.commands) (claimed : w'.claimed = w.claimed)
    (settled : i ∈ w'.settled → i ∈ w.settled) : Aside i w w' where
  code r'' hr _ := by
    rw [stack'] at hr
    exact top ▸ List.mem_cons_of_mem _ (mem_of_push ne hr)
  waiting _ hresume := held ▸ hresume
  dropped hdropped := dropped ▸ hdropped
  told := told
  sent := sent
  claimed hclaimed := claimed ▸ hclaimed
  occupies hoccupies := ⟨claimed ▸ hoccupies.1, fun hsettled => hoccupies.2 (settled hsettled)⟩

theorem Followed.quiet (h : w.Followed calls i post past) (sound : w.Sound calls)
    (step : Step calls w w') (unheard : ∀ x, ¬ Hears w i x w') : w'.Followed calls i post past := by
  have hstarted := sound.claimed i h.claimed
  cases step with
  | grant j taken host fresh opened claims =>
    have hj : j ≠ i := fun hj => fresh (hj ▸ hstarted)
    have hobserved := observed_claim calls j w.host
    rw [claims] at hobserved
    exact h.aside ⟨fun r hr _ => mem_of_push hj hr, fun _ => id, id, fun _ => (hobserved ▸ id),
      rfl, List.mem_cons_of_mem j, fun hi => ⟨List.mem_cons_of_mem j hi.1, hi.2⟩⟩
  | refuse j e host fresh opened claims =>
    have hj : j ≠ i := fun hj => fresh (hj ▸ hstarted)
    have hobserved := observed_claim calls j w.host
    rw [claims] at hobserved
    exact h.aside ⟨fun r hr _ => mem_of_push hj hr, fun _ => id, id, fun _ => (hobserved ▸ id),
      rfl, id, id⟩
  | ask j stack spend next top =>
    by_cases hj : j = i
    · subst hj
      exact h.ask sound top
    · exact h.aside (aside_of_top hj top rfl rfl rfl (fun _ => id) rfl rfl id)
  | settle j stack result top =>
    by_cases hj : j = i
    · subst hj
      exact h.settle sound top
    · refine h.aside (aside_of_top hj top rfl rfl rfl (fun _ => ?_) rfl rfl fun hi => ?_)
      · dsimp only
        rw [Host.observed_settle]
        exact id
      · exact (List.mem_cons.mp hi).resolve_left (Ne.symm hj)
  | reply j stack result top =>
    by_cases hj : j = i
    · subst hj
      exact h.reply sound top
    · refine h.aside (aside_of_top hj top rfl rfl rfl (fun result' hresult => ?_) rfl rfl id)
      rcases List.mem_append.mp hresult with hbefore | hnew
      · exact hbefore
      · exact absurd (Sigma.mk.inj (List.mem_singleton.mp hnew)).1.symm hj
  | pop j stack top =>
    exact h.aside ⟨fun r hr _ => top ▸ List.mem_cons_of_mem _ hr, fun _ => id, id, fun _ => id, rfl,
      id, id⟩
  | answer j stack command leads next answer top =>
    by_cases hj : j = i
    · subst hj
      exact absurd (.answer stack command leads next answer top) (unheard _)
    · exact h.aside (aside_of_top hj top rfl rfl rfl (fun _ => id)
        (belonging_concat_of_ne hj w.commands command) rfl id)
  | hold j stack command leads next top =>
    by_cases hj : j = i
    · subst hj
      exact h.hold sound top
    · exact h.aside ⟨fun r hr _ => top ▸ List.mem_cons_of_mem _ hr, fun resume hresume =>
        (List.mem_cons.mp hresume).resolve_left fun heq => hj (Prod.mk.inj heq).1.symm, id,
        fun _ => id, belonging_concat_of_ne hj w.commands command, id, id⟩
  | deliver j before after resume response opened held =>
    by_cases hj : j = i
    · subst hj
      obtain ⟨command, hsent, -⟩ := h.waiting resume (by simp [held])
      have hlast : (belonging j w.commands).getLast? = some command := by
        rw [hsent, List.getLast?_concat]
      exact absurd (.deliver before after resume response command opened held hlast) (unheard _)
    · exact h.aside ⟨fun r hr _ => mem_of_push hj hr, fun _ => mem_held held _, id, fun _ => id,
        rfl, id, id⟩
  | drop j before after resume opened held =>
    by_cases hj : j = i
    · subst hj
      exact h.drop sound opened held
    · exact h.aside ⟨fun r hr _ => hr, fun _ => mem_held held _,
        fun hi => (List.mem_cons.mp hi).resolve_left (Ne.symm hj), fun _ => id, rfl, id, id⟩
  | other host opened apart =>
    exact h.aside ⟨fun r hr _ => hr, fun _ => id, id, fun _ => (apart.observed ▸ id), rfl, id, id⟩

/-! ## Success and answer -/

/-- A call that hears something has not been answered. -/
theorem Sound.untold (h : w.Sound calls) {x : Exchange} (hears : Hears w i x w')
    (result : Except Error (α i)) : ⟨i, result⟩ ∉ w'.host.observed := by
  have hplaced := h.placed i
  cases hears with
  | answer stack command leads next answer top =>
    intro told
    have hrunning := running_pos (top ▸ List.mem_cons_self) rfl
    have hanswers := answers_pos (w := w) told
    split at hplaced <;> omega
  | deliver before after resume response command opened held sent =>
    intro told
    have hwaiting : (i, resume) ∈ w.held := by simp [held]
    have hholding := holding_pos hwaiting
    have hanswers := answers_pos (w := w) told
    split at hplaced <;> omega

/-- A success is one of what the exchanges come to. -/
theorem Followed.succeeds (h : w.Followed calls i post past) {answer : α i}
    (succeeds : Succeeds calls i w answer w') : ∃ settled, post past (.ok settled) ∧
      settled.answer = answer ∧ w'.host = w.host.settle (calls.number i) (.ok settled) := by
  cases succeeds with
  | settle stack settled top =>
    obtain ⟨-, hunderway⟩ := h.code _ (top ▸ List.mem_cons_self) rfl
    obtain ⟨-, hgoes⟩ := hunderway.goes (working_ne_replying (.settle _))
    obtain ⟨result, hpost, hanswer, hsettle⟩ := hgoes.settled
    cases result with
    | error e => cases hanswer
    | ok settled' => exact ⟨settled', hpost, Except.ok.inj hanswer, hsettle w.host⟩

omit [DecidableEq ι] in
/-- Callers are answered by code that has nothing else left to do. -/
theorem told_new (step : Step calls w w') {result : Except Error (α i)}
    (old : ⟨i, result⟩ ∉ w.host.observed) (new : ⟨i, result⟩ ∈ w'.host.observed) :
    ∃ stack, w.stack = (i, replying i result) :: stack := by
  cases step with
  | grant j taken host fresh opened claims | refuse j e host fresh opened claims =>
    have hobserved := observed_claim calls j w.host
    rw [claims] at hobserved
    exact absurd (hobserved ▸ new) old
  | settle j stack result' top =>
    dsimp only at new
    rw [Host.observed_settle] at new
    exact absurd new old
  | reply j stack result' top =>
    rcases List.mem_append.mp new with hold | hnew
    · exact absurd hold old
    · obtain ⟨rfl, hresult⟩ := Sigma.mk.inj (List.mem_singleton.mp hnew)
      obtain rfl := eq_of_heq hresult
      exact ⟨stack, top⟩
  | other host opened apart => exact absurd (apart.observed ▸ new) old
  | ask | pop | answer | hold | deliver | drop => exact absurd new old

/-! ## From the instance on -/

/-- A run in which the call heard this. -/
inductive Onward (calls : Calls α) (i : ι) (w : World α) : World α → List Exchange → Prop where
  | start : Onward calls i w w []
  | hear {w' w'' : World α} {past : List Exchange} {x : Exchange}
    (before : Onward calls i w w' past) (hears : Hears w' i x w'') :
    Onward calls i w w'' (past ++ [x])
  | quiet {w' w'' : World α} {past : List Exchange} (before : Onward calls i w w' past)
    (step : Step calls w' w'') (unheard : ∀ x, ¬ Hears w' i x w'') : Onward calls i w w'' past

theorem Onward.run (onward : Onward calls i w w' past) : Run calls w w' := by
  induction onward with
  | start => exact .refl
  | hear _ hears ih => exact ih.tail (hears.step calls)
  | quiet _ step _ ih => exact ih.tail step

theorem exists_onward (run : Run calls w w') : ∃ past, Onward calls i w w' past := by
  induction run with
  | refl => exact ⟨[], .start⟩
  | @tail w' w'' _ step ih =>
    obtain ⟨past, hpast⟩ := ih
    by_cases hears : ∃ x, Hears w' i x w''
    · obtain ⟨x, hears⟩ := hears
      exact ⟨_, .hear hpast hears⟩
    · exact ⟨past, .quiet hpast step fun x h => hears ⟨x, h⟩⟩

theorem Onward.followed (onward : Onward calls i w w' past) (sound : w.Sound calls)
    (h : w.Followed calls i post []) : w'.Followed calls i post past := by
  induction onward with
  | start => exact h
  | hear before hears ih => exact ih.hears (sound.run before.run) hears
  | quiet before step unheard ih => exact ih.quiet (sound.run before.run) step unheard

/-- The world once the call has been given its instance. -/
def given (calls : Calls α) (i : ι) (taken : Vendor × Driver) (host : Logged α) (w : World α) :
    World α :=
  { w with
    host := host
    stack := (i, calls.working i taken) :: w.stack
    started := i :: w.started
    claimed := i :: w.claimed }

theorem followed_given {taken : Vendor × Driver} {host : Logged α} (run : Run calls .empty w)
    (fresh : i ∉ w.started) (opened : w.Open) (claims : calls.claim i w.host = (.ok taken, host))
    (goes : Goes calls i post [] (calls.working i taken)) :
    (w.given calls i taken host).Sound calls ∧
      (w.given calls i taken host).Followed calls i post [] := by
  obtain ⟨hsound, -, hgrouped⟩ := run_keeps run
  have hgiven := hsound.step (.grant w i taken host fresh opened claims)
  have hunclaimed : i ∉ w.claimed := fun hi => fresh (hsound.claimed i hi)
  have hsent : belonging i w.commands = [] := by
    have hnone : ∀ entry ∈ w.commands, ¬entry.1 = i := fun entry hentry hi =>
      hunclaimed (hgrouped.claimed i (List.mem_map.mpr ⟨entry, hentry, hi⟩))
    rw [belonging, List.filter_eq_nil_iff.mpr (by simpa using hnone)]
    rfl
  have hoccupies : (w.given calls i taken host).Occupies i :=
    ⟨List.mem_cons_self, fun hi => hunclaimed (hsound.settled i hi)⟩
  exact ⟨hgiven, followed_of_code hgiven List.mem_cons_self rfl
    (working_working calls i taken).not_ended hsent (.inl ⟨hoccupies, goes⟩)⟩

/-- A call is answered when nothing can be made of what it heard first. -/
theorem exists_failed {host : Logged α} {taken : Vendor × Driver} {command : String}
    {leads : List String} {next : Option Response → Routine (Logged α)} {answer : Option Response}
    {e : Error} (run : Run calls .empty { empty with host })
    (claims : (calls.claim i host).1 = .ok taken)
    (working : calls.working i taken = .asking id fun _ => .send command leads next)
    (failed : next answer = calls.settling i (.error e)) :
    ∃ w, Run calls .empty w ∧ belonging i w.commands = [command] ∧
      w.host.observed = host.observed ++ [⟨i, .error e⟩] := by
  have hgiven := run.tail (.grant _ i taken _ nofun nofun (Prod.ext claims rfl))
  have hasked := hgiven.tail (.ask _ i [] _ _ (congrArg (fun r => [(i, r)]) working))
  have hheard := hasked.tail (.answer _ i [] _ _ _ answer rfl)
  have hsettled := hheard.tail (.settle _ i [] _ (congrArg (fun r => [(i, r)]) failed))
  refine ⟨_, hsettled.tail (.reply _ i [] _ rfl), belonging_concat i [] command, ?_⟩
  rw [← observed_claim calls i host]
  rfl

/-- An answer that the call succeeded comes from a success, with the same behind it. -/
theorem Onward.succeeded {taken : Vendor × Driver} {host : Logged α}
    (onward : Onward calls i (w.given calls i taken host) w' past)
    (sound : (w.given calls i taken host).Sound calls) {answer : α i}
    (told : ⟨i, .ok answer⟩ ∈ w'.host.observed) : ∃ w₁ w₂,
      Onward calls i (w.given calls i taken host) w₁ past ∧ Succeeds calls i w₁ answer w₂ ∧
      Run calls w₂ w' := by
  have hworking := working_working calls i taken
  induction onward with
  | start =>
    have hplace := sound.one_place List.mem_cons_self
    have hrunning : 0 < (w.given calls i taken host).running i :=
      running_pos List.mem_cons_self hworking.not_ended
    have hanswers := answers_pos told
    omega
  | hear before hears => exact absurd told ((sound.run before.run).untold hears _)
  | @quiet w' w'' past before step _ ih =>
    by_cases hold : ⟨i, .ok answer⟩ ∈ w'.host.observed
    · obtain ⟨w₁, w₂, hbefore, hsucceeds, hrun⟩ := ih hold
      exact ⟨w₁, w₂, hbefore, hsucceeds, hrun.tail step⟩
    obtain ⟨stack, top⟩ := told_new step hold told
    -- The code was left to answer by the step before.
    cases before with
    | start => exact absurd top (free_of_working hworking _ _ _)
    | quiet before' step' _ =>
      exact ⟨_, _, before', (sound.run before'.run).succeeded step' top, .single step⟩
    | hear before' hears => exact absurd top ((sound.run before'.run).free_of_hears hears _ _)

/-! ## How far a call has got -/

/-- What has been heard and sent is the beginning of a way. Nothing is sent before it has been heard
what came of the command before. -/
structure Partway {β : Type} (post : List Exchange → Except Error β → Prop) (past : List Exchange)
    (sent : List String) : Prop where
  begins : ∃ way result, post way result ∧ past <+: way ∧ sent <+: way.map Prod.fst
  heard : past.map Prod.fst <+: sent
  waits : sent.length ≤ past.length + 1

section

variable {β : Type} {post : List Exchange → Except Error β → Prop} {sent : List String}

theorem partway_heard (way : List Exchange) {result : Except Error β}
    (h : post (past ++ way) result) (hsent : sent = past.map Prod.fst) :
    Partway post past sent := by
  subst hsent
  refine ⟨⟨_, result, h, List.prefix_append _ _, ?_⟩, List.prefix_rfl, ?_⟩
  · rw [List.map_append]
    exact List.prefix_append _ _
  · rw [List.length_map]
    exact Nat.le_succ _

theorem partway_waiting {way : List Exchange} {x : Exchange} {result : Except Error β}
    (h : post (past ++ [x] ++ way) result) (hsent : sent = past.map Prod.fst ++ [x.1]) :
    Partway post past sent := by
  subst hsent
  refine ⟨⟨_, result, h, ?_, ?_⟩, List.prefix_append _ _, ?_⟩
  · rw [List.append_assoc]
    exact List.prefix_append _ _
  · rw [List.map_append, List.map_append]
    exact List.prefix_append _ _
  · rw [List.length_append, List.length_map]
    exact Nat.le_refl _

end

theorem Followed.partway (h : w.Followed calls i post past) (sound : w.Sound calls) :
    Partway post past (belonging i w.commands) := by
  have hplace := sound.one_place h.claimed
  by_cases hrunning : 0 < w.running i
  · obtain ⟨⟨j, r⟩, hmem, hgoing⟩ := List.countP_pos_iff.mp hrunning
    simp only [Bool.and_eq_true, decide_eq_true_eq, Bool.not_eq_true'] at hgoing
    obtain ⟨rfl, hgoing⟩ := hgoing
    obtain ⟨hsent, ⟨-, hgoes⟩ | ⟨result, hpost, -⟩⟩ := h.code r hmem hgoing
    · obtain ⟨way, result, hway⟩ := hgoes.exists_way
      exact partway_heard _ hway hsent
    · exact partway_heard [] ((List.append_nil past).symm ▸ hpost) hsent
  by_cases hholding : 0 < w.holding i
  · obtain ⟨⟨j, resume⟩, hmem, hj⟩ := List.countP_pos_iff.mp hholding
    obtain rfl : j = i := of_decide_eq_true hj
    obtain ⟨command, hsent, hgoes⟩ := h.waiting resume hmem
    obtain ⟨way, result, hway⟩ := (hgoes (.success [])).exists_way
    exact partway_waiting hway hsent
  by_cases hlost : 0 < w.lost i
  · obtain ⟨command, hsent, hways⟩ := h.dropped (List.count_pos_iff.mp hlost)
    obtain ⟨way, result, hway⟩ := hways (.success [])
    exact partway_waiting hway hsent
  have hanswers : 0 < w.answers i := by omega
  obtain ⟨⟨j, result⟩, hmem, hj⟩ := List.countP_pos_iff.mp hanswers
  obtain rfl : j = i := of_decide_eq_true hj
  obtain ⟨hsent, result', hpost, -⟩ := h.told result hmem
  exact partway_heard [] ((List.append_nil past).symm ▸ hpost) hsent

theorem Sound.answers_le (h : w.Sound calls) (i : ι) : w.answers i ≤ 1 := by
  have hplaced := h.placed i
  split at hplaced <;> omega

/-- A call that neither runs nor waits for the channel has been answered. -/
theorem Sound.answered (h : w.Sound calls) (claimed : i ∈ w.claimed)
    (stack : ∀ frame ∈ w.stack, frame.1 ≠ i) (held : ∀ k ∈ w.held, k.1 ≠ i)
    (dropped : i ∉ w.dropped) : ∃ result, (⟨i, result⟩ : Reply α) ∈ w.host.observed := by
  have hplace := h.one_place claimed
  have hrunning : w.running i = 0 :=
    List.countP_eq_zero.mpr fun frame hframe => by simp [stack frame hframe]
  have hholding : w.holding i = 0 := List.countP_eq_zero.mpr fun k hk => by simp [held k hk]
  have hlost : w.lost i = 0 := List.count_eq_zero.mpr dropped
  have hanswers : 0 < w.answers i := by omega
  obtain ⟨⟨j, result⟩, hmem, hj⟩ := List.countP_pos_iff.mp hanswers
  obtain rfl : j = i := of_decide_eq_true hj
  exact ⟨result, hmem⟩

/-- A call whose code is not on the stack has been answered, or waits for what comes of a command. -/
theorem Followed.resting (h : w.Followed calls i post past) (sound : w.Sound calls)
    (off : ∀ frame ∈ w.stack, frame.1 ≠ i) :
    (∃ result, (⟨i, result⟩ : Reply α) ∈ w.host.observed) ∨
      ∃ command, belonging i w.commands = past.map Prod.fst ++ [command] ∧
        ∀ response, ∃ way result, post (past ++ [(command, some response)] ++ way) result := by
  by_cases hheld : ∀ k ∈ w.held, k.1 ≠ i
  · by_cases hdropped : i ∈ w.dropped
    · exact .inr (h.dropped hdropped)
    · exact .inl (sound.answered h.claimed off hheld hdropped)
  · push Not at hheld
    obtain ⟨⟨_, resume⟩, hmem, rfl⟩ := hheld
    obtain ⟨command, hsent, hgoes⟩ := h.waiting resume hmem
    exact .inr ⟨command, hsent, fun response => (hgoes response).exists_way⟩

/-! ### The second command -/

theorem getElem?_of_begins {β : Type} {l l' : List β} (h : l <+: l') {n : Nat} {x : β}
    (hx : l[n]? = some x) : l'[n]? = some x := by
  obtain ⟨hn, rfl⟩ := List.getElem?_eq_some_iff.mp hx
  exact List.prefix_iff_getElem?.mp h n hn

/-- Whether there is a second command, and which it is, is known from what came of the first. -/
def Turns {β : Type} (post : List Exchange → Except Error β → Prop)
    (asks : Exchange → String → Prop) : Prop :=
  ∀ way result, post way result → ∀ command,
    (way.map Prod.fst)[1]? = some command ↔ ∃ x, way[0]? = some x ∧ asks x command

section

variable {asks : Exchange → String → Prop} {command : String}

/-- The second command is not sent before it has been heard what came of the first. -/
theorem Partway.asked {β : Type} {post : List Exchange → Except Error β → Prop} {sent : List String}
    (h : Partway post past sent) (turns : Turns post asks) (second : sent[1]? = some command) :
    ∃ x, past[0]? = some x ∧ asks x command := by
  obtain ⟨way, result, hway, hpast, hsent⟩ := h.begins
  obtain ⟨x, hfirst, hasks⟩ := (turns way result hway command).mp (getElem?_of_begins hsent second)
  have hlong := (List.getElem?_eq_some_iff.mp second).1
  have hwaits := h.waits
  have hheard : past[0]? = some past[0] := List.getElem?_eq_getElem (by omega)
  rw [getElem?_of_begins hpast hheard] at hfirst
  exact ⟨x, hheard.trans hfirst, hasks⟩

/-- It has been sent where the call has gone on as far as it can. -/
theorem Followed.asked (h : w.Followed calls i post past) (turns : Turns post asks)
    (sound : w.Sound calls) (off : ∀ frame ∈ w.stack, frame.1 ≠ i) {x : Exchange}
    (first : past[0]? = some x) (asked : asks x command) :
    (belonging i w.commands)[1]? = some command := by
  rcases h.resting sound off with ⟨result, htold⟩ | ⟨command', hsent, hways⟩
  · obtain ⟨hsent, result', hway, -⟩ := h.told result htold
    rw [hsent]
    exact (turns past result' hway command).mpr ⟨x, first, asked⟩
  · obtain ⟨way, result, hway⟩ := hways (.success [])
    have hpast : past <+: past ++ [(command', some (Response.success []))] ++ way :=
      (List.prefix_append _ _).trans (List.prefix_append _ _)
    have hbegins : belonging i w.commands
        <+: (past ++ [(command', some (Response.success []))] ++ way).map Prod.fst := by
      rw [hsent, List.map_append, List.map_append]
      exact List.prefix_append _ _
    have hlong := (List.getElem?_eq_some_iff.mp first).1
    obtain ⟨second, hsecond⟩ : ∃ second, (belonging i w.commands)[1]? = some second :=
      ⟨_, List.getElem?_eq_getElem (by rw [hsent]; simpa using hlong)⟩
    have hcommand := (turns _ result hway command).mpr ⟨x, getElem?_of_begins hpast first, asked⟩
    rw [hsecond, ← hcommand, getElem?_of_begins hbegins hsecond]

end

/-! ### Calls at work -/

/-- The call was given its instance, and has heard this since. -/
def Engaged (calls : Calls α) (i : ι) (taken : Vendor × Driver) (w : World α)
    (past : List Exchange) : Prop :=
  ∃ w₀ host, Run calls .empty w₀ ∧ i ∉ w₀.started ∧ w₀.Open ∧
    calls.claim i w₀.host = (.ok taken, host) ∧ Onward calls i (w₀.given calls i taken host) w past

section

variable {taken : Vendor × Driver} (h : Engaged calls i taken w past)
include h

theorem Engaged.run : Run calls .empty w := by
  obtain ⟨w₀, host, hrun, fresh, opened, claims, honward⟩ := h
  exact (hrun.tail (.grant w₀ i taken host fresh opened claims)).trans honward.run

theorem Engaged.followed (goes : Goes calls i post [] (calls.working i taken)) :
    w.Followed calls i post past := by
  obtain ⟨w₀, host, hrun, fresh, opened, claims, honward⟩ := h
  obtain ⟨hgiven, hfollowed⟩ := followed_given hrun fresh opened claims goes
  exact honward.followed hgiven hfollowed

theorem Engaged.succeeded {answer : α i} (told : ⟨i, .ok answer⟩ ∈ w.host.observed) :
    ∃ w₁ w₂, Engaged calls i taken w₁ past ∧ Succeeds calls i w₁ answer w₂ ∧ Run calls w₂ w := by
  obtain ⟨w₀, host, hrun, fresh, opened, claims, honward⟩ := h
  have hgiven := (run_keeps (hrun.tail (.grant w₀ i taken host fresh opened claims))).1
  obtain ⟨w₁, w₂, hbefore, hsucceeds, hafter⟩ := honward.succeeded hgiven told
  exact ⟨w₁, w₂, ⟨w₀, host, hrun, fresh, opened, claims, hbefore⟩, hsucceeds, hafter⟩

end

/-- Any run from where the call was given its instance. -/
theorem exists_engaged {taken : Vendor × Driver} {host : Logged α} (run : Run calls .empty w)
    (fresh : i ∉ w.started) (opened : w.Open) (claims : calls.claim i w.host = (.ok taken, host))
    (onward : Run calls (w.given calls i taken host) w') :
    ∃ past, Engaged calls i taken w' past := by
  obtain ⟨past, hpast⟩ := exists_onward (i := i) onward
  exact ⟨past, w, host, run, fresh, opened, claims, hpast⟩

end World

end Calls

/-! ## One more call -/

/-- The calls with one more. -/
def Services.adding {ι : Type} {α : ι → Type} {f : Facility} {ρ : Type} (services : Services α)
    (number : Nat) (service : Service f ρ) : Services fun call : Option ι => call.elim ρ α where
  facility
    | none => f
    | some i => services.facility i
  number
    | none => number
    | some i => services.number i
  service
    | none => service
    | some i => services.service i

end CellModem
