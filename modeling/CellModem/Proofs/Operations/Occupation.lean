import CellModem.Proofs.Operations.World

/-!
# Who occupies an instance

A call that was given its instance occupies it until its operation is settled. At every moment a
call that was started is in one place: on the stack, in the channel, among the dropped ones, or
answered. An instance is busy while a call occupies it, and no two calls occupy one instance.
-/

namespace CellModem.Calls

variable {ι : Type} {α : ι → Type} {calls : Calls α}

def ended : Routine (Logged α) → Bool
  | .done => true
  | _ => false

/-! ## The parts told apart -/

theorem Working.not_ended {i : ι} {r : Routine (Logged α)} (h : Working calls i r) :
    ended r = false := by
  cases h <;> rfl

theorem asking_ne_replying (spend : Allowance → Allowance) (next : Allowance → Routine (Logged α))
    {i : ι} (result : Except Error (α i)) : .asking spend next ≠ replying i result := by
  intro hasking
  have hfirst := congrFun (Routine.read.inj hasking) (.initial [])
  cases congrArg Host.observed (Routine.write.inj hfirst).1

theorem working_ne_replying {i j : ι} {r : Routine (Logged α)} (h : Working calls i r)
    (result : Except Error (α j)) : r ≠ replying j result := by
  intro hr
  cases h with
  | send => cases hr
  | settle =>
    -- Settling goes on to the reply, and the reply is over.
    have hfirst := congrFun (Routine.read.inj hr) (.initial [])
    cases (Routine.write.inj hfirst).2
  | ask spend next => exact asking_ne_replying spend next result hr

theorem exists_busy (f : Facility) (n : Nat) : ∃ h : Logged α, h.busy? f n = some true := by
  let inst : Instance f := { Instance.fresh f .default with busy := true }
  let h : Logged α := .initial []
  refine ⟨{ h with instances := h.instances.set f (.replicate (n + 1) inst) }, ?_⟩
  unfold Host.busy? Host.instance?
  rw [PerFacility.get_set_self, List.getElem?_replicate_of_lt (Nat.lt_succ_self n)]
  rfl

theorem asking_ne_settling (calls : Calls α) (spend : Allowance → Allowance)
    (next : Allowance → Routine (Logged α)) {i : ι}
    (result : Except Error (Settled (calls.facility i) (α i))) :
    .asking spend next ≠ calls.settling i result := by
  intro hasking
  -- A busy instance is freed by the one and not by the other.
  obtain ⟨host, hbusy⟩ := exists_busy (α := α) (calls.facility i) (calls.number i)
  have hnext := congrFun (Routine.read.inj hasking) host
  have hsettled := congrArg (Host.busy? (calls.facility i) (calls.number i))
    (Routine.write.inj hnext).1
  rw [Host.busy?_settle, if_pos ⟨rfl, rfl⟩, hbusy] at hsettled
  exact absurd (hbusy.symm.trans hsettled) nofun

theorem asking_inj {spend spend' : Allowance → Allowance}
    {next next' : Allowance → Routine (Logged α)}
    (h : Routine.asking spend next = .asking spend' next') (a : Allowance) : next a = next' a := by
  have hnext := congrFun (Routine.read.inj h) { (.initial [] : Logged α) with allowance := a }
  exact (Routine.write.inj hnext).2

theorem Working.asked {i : ι} {spend : Allowance → Allowance} {next : Allowance → Routine (Logged α)}
    (h : Working calls i (.asking spend next)) (a : Allowance) : Working calls i (next a) := by
  generalize hr : Routine.asking spend next = r at h
  cases h with
  | send => cases hr
  | ask spend' next' h' =>
    rw [asking_inj hr a]
    exact h' a
  | settle result => exact absurd hr (asking_ne_settling calls spend next result)

theorem Working.sent {i : ι} {command : String} {leads : List String}
    {next : Option Response → Routine (Logged α)} (h : Working calls i (.send command leads next))
    (answer : Option Response) : Working calls i (next answer) := by
  cases h with
  | send _ _ _ h => exact h answer

namespace World

/-! ## Places -/

def Occupies (w : World α) (i : ι) : Prop := i ∈ w.claimed ∧ i ∉ w.settled

/-- What the code of a call may be. -/
def Fits (calls : Calls α) (w : World α) (frame : ι × Routine (Logged α)) : Prop :=
  frame.2 = .done ∨
  (¬ w.Occupies frame.1 ∧ ∃ result, frame.2 = replying frame.1 result) ∨
  (w.Occupies frame.1 ∧ Working calls frame.1 frame.2)

theorem mem_held {w : World α} {completion : ι × Resume (Logged α)}
    {before after : List (ι × Resume (Logged α))} (held : w.held = before ++ completion :: after) :
    ∀ k ∈ before ++ after, k ∈ w.held := by
  intro k hk
  rw [held]
  exact ((List.sublist_cons_self completion after).append_left before).subset hk

variable [DecidableEq ι]

def running (w : World α) (i : ι) : Nat := w.stack.countP fun frame => frame.1 = i && !ended frame.2

def holding (w : World α) (i : ι) : Nat := w.held.countP (·.1 = i)

def lost (w : World α) (i : ι) : Nat := w.dropped.count i

def answers (w : World α) (i : ι) : Nat := w.host.observed.countP (·.1 = i)

structure Sound (calls : Calls α) (w : World α) : Prop where
  frames : ∀ frame ∈ w.stack, w.Fits calls frame
  below : ∀ frame ∈ w.stack.tail, pauses frame.2
  held : ∀ k ∈ w.held, w.Occupies k.1 ∧ ∀ response, Working calls k.1 (k.2 response)
  dropped : ∀ i ∈ w.dropped, w.Occupies i
  placed : ∀ i, w.running i + w.holding i + w.lost i + w.answers i = if i ∈ w.started then 1 else 0
  claimed : ∀ i ∈ w.claimed, i ∈ w.started
  settled : ∀ i ∈ w.settled, i ∈ w.claimed
  unanswered : ∀ i, w.Occupies i → w.answers i = 0

theorem sound_empty : (empty : World α).Sound calls where
  frames := nofun
  below := nofun
  held := nofun
  dropped := nofun
  placed _ := rfl
  claimed := nofun
  settled := nofun
  unanswered _ h := absurd h.1 List.not_mem_nil

theorem running_cons {i : ι} {r : Routine (Logged α)} (h : ended r = false)
    (stack : List (ι × Routine (Logged α))) (j : ι) :
    ((i, r) :: stack).countP (fun frame => frame.1 = j && !ended frame.2)
      = stack.countP (fun frame => frame.1 = j && !ended frame.2) + if i = j then 1 else 0 := by
  simp [List.countP_cons, h]

theorem running_cons_done (i : ι) (stack : List (ι × Routine (Logged α))) (j : ι) :
    ((i, .done) :: stack).countP (fun frame => frame.1 = j && !ended frame.2)
      = stack.countP fun frame => frame.1 = j && !ended frame.2 := by
  simp [ended]

theorem holding_middle {i : ι} {resume : Resume (Logged α)}
    (before after : List (ι × Resume (Logged α))) (j : ι) :
    (before ++ (i, resume) :: after).countP (·.1 = j)
      = (before ++ after).countP (·.1 = j) + if i = j then 1 else 0 := by
  simp only [List.countP_append, List.countP_cons, decide_eq_true_eq]
  omega

theorem ended_of_countP {i : ι} {stack : List (ι × Routine (Logged α))}
    (nowhere : stack.countP (fun frame => frame.1 = i && !ended frame.2) = 0) :
    ∀ frame ∈ stack, frame.1 = i → ended frame.2 := by
  intro frame hframe hi
  simpa [hi] using List.countP_eq_zero.mp nowhere frame hframe

theorem ne_of_countP {i : ι} {held : List (ι × Resume (Logged α))}
    (nowhere : held.countP (·.1 = i) = 0) : ∀ k ∈ held, k.1 ≠ i := by
  intro k hk hi
  simpa [hi] using List.countP_eq_zero.mp nowhere k hk

section

variable {w w' : World α} {i : ι} {r r' : Routine (Logged α)}
  {stack : List (ι × Routine (Logged α))}

theorem Sound.all_pause (h : w.Sound calls) (opened : w.Open) :
    ∀ frame ∈ w.stack, pauses frame.2 := by
  intro frame hframe
  cases hstack : w.stack with
  | nil =>
    rw [hstack] at hframe
    cases hframe
  | cons top rest =>
    rw [hstack] at hframe
    rcases List.mem_cons.mp hframe with rfl | hrest
    · exact opened frame (by rw [hstack]; rfl)
    · exact h.below frame (by rw [hstack]; exact hrest)

theorem Sound.started_of_running (h : w.Sound calls) (frame : (i, r) ∈ w.stack)
    (going : ended r = false) : i ∈ w.started := by
  have hplaced := h.placed i
  have hrunning : 0 < w.running i := List.countP_pos_iff.mpr ⟨(i, r), frame, by simp [going]⟩
  split at hplaced
  · assumption
  · omega

/-- The call whose code is on top is nowhere else. -/
theorem Sound.exclusive (h : w.Sound calls) (top : w.stack = (i, r) :: stack)
    (going : ended r = false) :
    (∀ frame ∈ stack, frame.1 = i → ended frame.2) ∧ (∀ k ∈ w.held, k.1 ≠ i) ∧ i ∉ w.dropped ∧
      w.answers i = 0 := by
  have hstarted := h.started_of_running (top ▸ List.mem_cons_self) going
  have hplaced := h.placed i
  simp only [running, holding, lost, top] at hplaced
  rw [running_cons going, if_pos rfl, if_pos hstarted] at hplaced
  have hnowhere : stack.countP (fun frame => frame.1 = i && !ended frame.2) = 0 ∧
      w.held.countP (·.1 = i) = 0 ∧ w.dropped.count i = 0 ∧ w.answers i = 0 := by omega
  obtain ⟨hstack, hheld, hdropped, hanswers⟩ := hnowhere
  exact ⟨ended_of_countP hstack, ne_of_countP hheld, List.count_eq_zero.mp hdropped, hanswers⟩

theorem Sound.fits (h : w.Sound calls) (top : w.stack = (i, r) :: stack) : w.Fits calls (i, r) :=
  h.frames (i, r) (top ▸ List.mem_cons_self)

theorem Sound.beneath (h : w.Sound calls) (top : w.stack = (i, r) :: stack) :
    ∀ frame ∈ stack, w.Fits calls frame :=
  fun frame hframe => h.frames frame (top ▸ List.mem_cons_of_mem _ hframe)

theorem Sound.under (h : w.Sound calls) (top : w.stack = (i, r) :: stack) :
    ∀ frame ∈ stack, pauses frame.2 :=
  fun frame hframe => h.below frame (by rw [top]; exact hframe)

/-- A call that is started is on the stack and nowhere else. -/
theorem Sound.placed_start (h : w.Sound calls) (fresh : i ∉ w.started) (going : ended r = false)
    (j : ι) :
    ((i, r) :: w.stack).countP (fun frame => frame.1 = j && !ended frame.2) + w.holding j + w.lost j
      + w.answers j = if j ∈ i :: w.started then 1 else 0 := by
  have hplaced := h.placed j
  rw [running] at hplaced
  rw [running_cons going]
  by_cases hj : i = j
  · subst hj
    rw [if_neg fresh] at hplaced
    rw [if_pos rfl, if_pos List.mem_cons_self]
    omega
  · rw [if_neg hj]
    simp only [List.mem_cons, Ne.symm hj, false_or]
    omega

theorem Sound.grant (h : w.Sound calls) (taken : Vendor × Driver) (host : Logged α)
    (observed : host.observed = w.host.observed) (fresh : i ∉ w.started) (opened : w.Open) :
    Sound calls
      { w with
        host := host
        stack := (i, calls.working i taken) :: w.stack
        started := i :: w.started
        claimed := i :: w.claimed } := by
  have hworking := working_working calls i taken
  have hnew : i ∉ w.settled := fun hsettled => fresh (h.claimed i (h.settled i hsettled))
  have hgrows : ∀ {j}, w.Occupies j → j ∈ i :: w.claimed ∧ j ∉ w.settled :=
    fun hj => ⟨List.mem_cons_of_mem i hj.1, hj.2⟩
  constructor
  · refine List.forall_mem_cons.mpr ⟨.inr (.inr ⟨⟨List.mem_cons_self, hnew⟩, hworking⟩), ?_⟩
    rintro ⟨j, r⟩ hframe
    rcases h.frames _ hframe with hdone | ⟨hfree, hreply⟩ | ⟨hoccupies, hj⟩
    · exact .inl hdone
    · refine .inr (.inl ⟨fun hj => ?_, hreply⟩)
      -- A call that is about to be answered was started, so it is not the new one.
      have hgoing : ended r = false := by
        obtain ⟨result, hreply⟩ := hreply
        exact congrArg ended hreply
      have hstarted := h.started_of_running hframe hgoing
      rcases List.mem_cons.mp hj.1 with hi | hclaimed
      · exact fresh (hi ▸ hstarted)
      · exact hfree ⟨hclaimed, hj.2⟩
    · exact .inr (.inr ⟨hgrows hoccupies, hj⟩)
  · exact h.all_pause opened
  · exact fun k hk => ⟨hgrows (h.held k hk).1, (h.held k hk).2⟩
  · exact fun j hj => hgrows (h.dropped j hj)
  · intro j
    rw [answers, observed]
    exact h.placed_start fresh hworking.not_ended j
  · intro j hj
    rcases List.mem_cons.mp hj with rfl | hclaimed
    · exact List.mem_cons_self
    · exact List.mem_cons_of_mem i (h.claimed j hclaimed)
  · exact fun j hj => List.mem_cons_of_mem i (h.settled j hj)
  · intro j hj
    rw [answers, observed]
    rcases List.mem_cons.mp hj.1 with rfl | hclaimed
    · have hplaced := h.placed j
      rw [if_neg fresh, answers] at hplaced
      omega
    · exact h.unanswered j ⟨hclaimed, hj.2⟩

theorem Sound.refuse (h : w.Sound calls) (e : Error) (fresh : i ∉ w.started) (opened : w.Open) :
    Sound calls
      { w with stack := (i, replying i (.error e)) :: w.stack, started := i :: w.started } where
  frames := by
    have hfree : ¬ w.Occupies i := fun hi => fresh (h.claimed i hi.1)
    exact List.forall_mem_cons.mpr ⟨.inr (.inl ⟨hfree, .error e, rfl⟩), h.frames⟩
  below := h.all_pause opened
  held := h.held
  dropped := h.dropped
  placed := h.placed_start fresh rfl
  claimed j hj := List.mem_cons_of_mem i (h.claimed j hj)
  settled := h.settled
  unanswered := h.unanswered

theorem Sound.proceed (h : w.Sound calls) (top : w.stack = (i, r) :: stack)
    (working : Working calls i r) (working' : Working calls i r') (host : Logged α)
    (observed : host.observed = w.host.observed) (commands : List (ι × String)) :
    Sound calls { w with host := host, stack := (i, r') :: stack, commands := commands } where
  frames := by
    rcases h.fits top with hdone | ⟨-, result, hreply⟩ | ⟨hoccupies, -⟩
    · have hgoing := working.not_ended
      rw [show r = .done from hdone] at hgoing
      cases hgoing
    · exact absurd hreply (working_ne_replying working result)
    · exact List.forall_mem_cons.mpr ⟨.inr (.inr ⟨hoccupies, working'⟩), h.beneath top⟩
  below := h.under top
  held := h.held
  dropped := h.dropped
  placed := by
    intro j
    have hplaced := h.placed j
    simp only [running, holding, lost, answers, top, observed] at hplaced ⊢
    rw [running_cons working.not_ended] at hplaced
    rw [running_cons working'.not_ended]
    exact hplaced
  claimed := h.claimed
  settled := h.settled
  unanswered j hj := by
    rw [answers, observed]
    exact h.unanswered j hj

theorem Sound.occupies_of_working (h : w.Sound calls) (top : w.stack = (i, r) :: stack)
    (unlike : ∀ result, r ≠ replying i result) (going : ended r = false) :
    w.Occupies i ∧ Working calls i r := by
  rcases h.fits top with hdone | ⟨-, result, hreply⟩ | hworking
  · rw [show r = .done from hdone] at going
    cases going
  · exact absurd hreply (unlike result)
  · exact hworking

theorem Sound.settle (h : w.Sound calls) {result : Except Error (Settled (calls.facility i) (α i))}
    (top : w.stack = (i, calls.settling i result) :: stack) :
    Sound calls
      { w with
        host := w.host.settle (calls.number i) result
        stack := (i, replying i (result.map Settled.answer)) :: stack
        settled := i :: w.settled } := by
  obtain ⟨hstack, hheld, hdropped, -⟩ := h.exclusive top rfl
  have hoccupies := (h.occupies_of_working top (working_ne_replying (.settle result)) rfl).1
  have hother : ∀ {j}, j ≠ i → w.Occupies j → j ∈ w.claimed ∧ j ∉ i :: w.settled := by
    intro j hj hoccupies
    refine ⟨hoccupies.1, fun hsettled => ?_⟩
    rcases List.mem_cons.mp hsettled with hi | hsettled
    · exact hj hi
    · exact hoccupies.2 hsettled
  constructor
  · refine List.forall_mem_cons.mpr ⟨.inr (.inl ⟨fun hi => hi.2 List.mem_cons_self, _, rfl⟩), ?_⟩
    rintro ⟨j, r⟩ hframe
    rcases h.beneath top _ hframe with hdone | ⟨hfree, hreply⟩ | ⟨hj, hworking⟩
    · exact .inl hdone
    · exact .inr (.inl ⟨fun hj => hfree ⟨hj.1, fun hs => hj.2 (List.mem_cons_of_mem i hs)⟩, hreply⟩)
    · refine .inr (.inr ⟨hother (fun hi => ?_) hj, hworking⟩)
      have hended := hstack _ hframe hi
      rw [hworking.not_ended] at hended
      cases hended
  · exact h.under top
  · exact fun k hk => ⟨hother (hheld k hk) (h.held k hk).1, (h.held k hk).2⟩
  · exact fun j hj => hother (fun hi => hdropped (hi ▸ hj)) (h.dropped j hj)
  · intro j
    have hplaced := h.placed j
    simp only [running, holding, lost, answers, top, Host.observed_settle] at hplaced ⊢
    rw [running_cons rfl] at hplaced ⊢
    exact hplaced
  · exact h.claimed
  · intro j hj
    rcases List.mem_cons.mp hj with rfl | hsettled
    · exact hoccupies.1
    · exact h.settled j hsettled
  · intro j hj
    rw [answers, Host.observed_settle]
    exact h.unanswered j ⟨hj.1, fun hsettled => hj.2 (List.mem_cons_of_mem i hsettled)⟩

theorem Sound.reply (h : w.Sound calls) {result : Except Error (α i)}
    (top : w.stack = (i, replying i result) :: stack) :
    Sound calls { w with host := w.host.note ⟨i, result⟩, stack := (i, .done) :: stack } where
  frames := List.forall_mem_cons.mpr ⟨.inl rfl, h.beneath top⟩
  below := h.under top
  held := h.held
  dropped := h.dropped
  placed := by
    intro j
    have hplaced := h.placed j
    simp only [running, holding, lost, answers, top, Host.note] at hplaced ⊢
    rw [running_cons rfl] at hplaced
    rw [running_cons_done, List.countP_append, List.countP_singleton]
    simp only [decide_eq_true_eq]
    omega
  claimed := h.claimed
  settled := h.settled
  unanswered := by
    intro j hj
    have hne : i ≠ j := by
      rintro rfl
      rcases h.fits top with hdone | ⟨hfree, -⟩ | ⟨-, hworking⟩
      · cases hdone
      · exact hfree hj
      · exact working_ne_replying hworking result rfl
    have hanswers := h.unanswered j hj
    simp only [answers, Host.note] at hanswers ⊢
    rw [List.countP_append, List.countP_singleton, hanswers]
    simp [hne]

theorem Sound.pop (h : w.Sound calls) (top : w.stack = (i, .done) :: stack) :
    Sound calls { w with stack := stack } where
  frames := h.beneath top
  below frame hframe := h.under top frame (List.mem_of_mem_tail hframe)
  held := h.held
  dropped := h.dropped
  placed := by
    intro j
    have hplaced := h.placed j
    simp only [running, holding, lost, top] at hplaced ⊢
    rw [running_cons_done] at hplaced
    exact hplaced
  claimed := h.claimed
  settled := h.settled
  unanswered := h.unanswered

theorem Sound.hold (h : w.Sound calls) {resume : Resume (Logged α)}
    (top : w.stack = (i, r) :: stack) (occupies : w.Occupies i) (going : ended r = false)
    (working : ∀ response, Working calls i (resume response)) (commands : List (ι × String)) :
    Sound calls
      { w with stack := stack, held := (i, resume) :: w.held, commands := commands } where
  frames := h.beneath top
  below frame hframe := h.under top frame (List.mem_of_mem_tail hframe)
  held := List.forall_mem_cons.mpr ⟨⟨occupies, working⟩, h.held⟩
  dropped := h.dropped
  placed := by
    intro j
    have hplaced := h.placed j
    simp only [running, holding, lost, answers, top] at hplaced ⊢
    rw [running_cons going] at hplaced
    rw [List.countP_cons]
    simp only [decide_eq_true_eq]
    omega
  claimed := h.claimed
  settled := h.settled
  unanswered := h.unanswered

theorem Sound.remaining (h : w.Sound calls) {completion : ι × Resume (Logged α)}
    {before after : List (ι × Resume (Logged α))} (held : w.held = before ++ completion :: after) :
    (w.Occupies completion.1 ∧ ∀ response, Working calls completion.1 (completion.2 response)) ∧
    ∀ k ∈ before ++ after, w.Occupies k.1 ∧ ∀ response, Working calls k.1 (k.2 response) := by
  exact ⟨h.held completion (by simp [held]), fun k hk => h.held k (mem_held held k hk)⟩

theorem Sound.deliver (h : w.Sound calls) {before after : List (ι × Resume (Logged α))}
    {resume : Resume (Logged α)} (held : w.held = before ++ (i, resume) :: after)
    (opened : w.Open) (response : Response) :
    Sound calls { w with stack := (i, resume response) :: w.stack, held := before ++ after } := by
  obtain ⟨⟨hoccupies, hworking⟩, hrest⟩ := h.remaining held
  constructor
  · exact List.forall_mem_cons.mpr ⟨.inr (.inr ⟨hoccupies, hworking response⟩), h.frames⟩
  · exact h.all_pause opened
  · exact hrest
  · exact h.dropped
  · intro j
    have hplaced := h.placed j
    simp only [running, holding, lost, answers, held] at hplaced ⊢
    rw [holding_middle] at hplaced
    rw [running_cons (hworking response).not_ended]
    omega
  · exact h.claimed
  · exact h.settled
  · exact h.unanswered

/-- The call whose completion the channel holds is nowhere else. -/
theorem Sound.exclusive_held (h : w.Sound calls) {before after : List (ι × Resume (Logged α))}
    {resume : Resume (Logged α)} (held : w.held = before ++ (i, resume) :: after) :
    (∀ frame ∈ w.stack, frame.1 = i → ended frame.2) ∧ ∀ k ∈ before ++ after, k.1 ≠ i := by
  have hplaced := h.placed i
  rw [if_pos (h.claimed i (h.remaining held).1.1.1)] at hplaced
  simp only [running, holding, held] at hplaced
  rw [holding_middle, if_pos rfl] at hplaced
  have hnowhere : w.stack.countP (fun frame => frame.1 = i && !ended frame.2) = 0 ∧
      (before ++ after).countP (·.1 = i) = 0 := by omega
  exact ⟨ended_of_countP hnowhere.1, ne_of_countP hnowhere.2⟩

theorem Sound.drop (h : w.Sound calls) {before after : List (ι × Resume (Logged α))}
    {resume : Resume (Logged α)} (held : w.held = before ++ (i, resume) :: after) :
    Sound calls { w with held := before ++ after, dropped := i :: w.dropped } where
  frames := h.frames
  below := h.below
  held := (h.remaining held).2
  dropped := List.forall_mem_cons.mpr ⟨(h.remaining held).1.1, h.dropped⟩
  placed := by
    intro j
    have hplaced := h.placed j
    simp only [running, holding, lost, answers, held] at hplaced ⊢
    rw [holding_middle] at hplaced
    rw [List.count_cons]
    simp only [beq_iff_eq]
    omega
  claimed := h.claimed
  settled := h.settled
  unanswered := h.unanswered

theorem Sound.other (h : w.Sound calls) {host : Logged α} (apart : w.host.Apart host) :
    Sound calls { w with host := host } where
  frames := h.frames
  below := h.below
  held := h.held
  dropped := h.dropped
  placed j := by
    rw [answers, apart.observed]
    exact h.placed j
  claimed := h.claimed
  settled := h.settled
  unanswered j hj := by
    rw [answers, apart.observed]
    exact h.unanswered j hj

theorem Sound.step (h : w.Sound calls) (step : Step calls w w') : w'.Sound calls := by
  cases step with
  | grant i taken host fresh opened claims =>
    have hobserved := observed_claim calls i w.host
    rw [claims] at hobserved
    exact h.grant taken host hobserved fresh opened
  | refuse i e host fresh opened claims =>
    have hsame := Host.claim_error (congrArg Prod.fst claims)
    rw [show w.host.claim _ _ = _ from claims] at hsame
    rw [(Prod.mk.inj hsame).2]
    exact h.refuse e fresh opened
  | ask i stack spend next top =>
    have hworking := (h.occupies_of_working top (asking_ne_replying spend next) rfl).2
    exact h.proceed top hworking (hworking.asked w.host.allowance)
      { w.host with allowance := spend w.host.allowance } rfl w.commands
  | settle i stack result top => exact h.settle top
  | reply i stack result top => exact h.reply top
  | pop i stack top => exact h.pop top
  | answer i stack command leads next answer top =>
    have hworking := (h.occupies_of_working top nofun rfl).2
    exact h.proceed top hworking (hworking.sent answer) w.host rfl _
  | hold i stack command leads next top =>
    obtain ⟨hoccupies, hworking⟩ := h.occupies_of_working top nofun rfl
    exact h.hold top hoccupies rfl (fun response => hworking.sent (some response)) _
  | deliver i before after resume response opened held => exact h.deliver held opened response
  | drop i before after resume opened held => exact h.drop held
  | other host opened apart => exact h.other apart

theorem Sound.run (h : w.Sound calls) (run : Run calls w w') : w'.Sound calls := by
  induction run with
  | refl => exact h
  | tail _ step ih => exact ih.step step

/-! ## Outstanding calls -/

/-- The call was given its instance, and the caller has not been answered yet. -/
def Outstanding (w : World α) (i : ι) : Prop := i ∈ w.claimed ∧ w.answers i = 0

theorem Sound.outstanding (h : w.Sound calls) (occupies : w.Occupies i) : w.Outstanding i :=
  ⟨occupies.1, h.unanswered i occupies⟩

/-- An outstanding call occupies its instance, or its caller is answered next. -/
theorem Sound.outstanding_cases (h : w.Sound calls) (outstanding : w.Outstanding i) :
    w.Occupies i ∨ ∃ result stack, w.stack = (i, replying i result) :: stack := by
  by_cases hoccupies : w.Occupies i
  · exact .inl hoccupies
  · have hplaced := h.placed i
    rw [if_pos (h.claimed i outstanding.1), outstanding.2] at hplaced
    have hheld : w.holding i = 0 := by
      refine List.countP_eq_zero.mpr fun k hk hi => hoccupies ?_
      rw [decide_eq_true_eq] at hi
      exact hi ▸ (h.held k hk).1
    have hlost : w.lost i = 0 := List.count_eq_zero.mpr fun hi => hoccupies (h.dropped i hi)
    have hrunning : 0 < w.running i := by omega
    obtain ⟨⟨j, r⟩, hframe, hgoing⟩ := List.countP_pos_iff.mp hrunning
    simp only [Bool.and_eq_true, decide_eq_true_eq, Bool.not_eq_true'] at hgoing
    obtain ⟨rfl, hgoing⟩ := hgoing
    rcases h.frames _ hframe with hdone | ⟨-, result, hreply⟩ | ⟨hj, -⟩
    · rw [show r = .done from hdone] at hgoing
      cases hgoing
    · -- Nothing that is under other code is about to reply.
      cases hstack : w.stack with
      | nil =>
        rw [hstack] at hframe
        cases hframe
      | cons top stack =>
        rw [hstack] at hframe
        rcases List.mem_cons.mp hframe with rfl | hbelow
        · exact .inr ⟨result, stack, by rw [show r = _ from hreply]⟩
        · have hpauses := h.below (j, r) (by rw [hstack]; exact hbelow)
          rw [show r = _ from hreply] at hpauses
          cases hpauses
    · exact absurd hj hoccupies

theorem Sound.outstanding_iff (h : w.Sound calls) (opened : w.Open) :
    w.Outstanding i ↔ w.Occupies i := by
  refine ⟨fun houtstanding => ?_, h.outstanding⟩
  rcases h.outstanding_cases houtstanding with hoccupies | ⟨result, stack, htop⟩
  · exact hoccupies
  · have hpauses := opened (i, replying i result) (by rw [htop]; rfl)
    cases hpauses

end

end World

end CellModem.Calls
