import CellModem.Proofs.Workflow.World

/-!
# One reply, or a completion that was dropped

A chain that was started is in one place: on the stack, in the channel, behind its reply, or behind
a completion that was dropped. So it replies at most once, and if it does not, something of it was
dropped or is held.
-/

namespace CellModem.Chain.World

variable {ι : Type} {α : ι → Type} [DecidableEq ι]

/-! ## Where a chain is -/

def running (w : World α) (i : ι) : Nat := w.stack.countP fun f => f.1 = i && !isOver f.2

/-- How many completions of a chain the channel holds. -/
def holding (w : World α) (i : ι) : Nat := w.held.countP (·.1 = i)

/-- How often a chain has replied. -/
def replied (w : World α) (i : ι) : Nat := w.replies.countP (·.1 = i)

/-- How many completions of a chain were dropped. -/
def lost (w : World α) (i : ι) : Nat := w.dropped.count i

def commandsOf (w : World α) (i : ι) : List (ι × String) := w.commands.filter (·.1 = i)

structure Sound (w : World α) : Prop where
  stack : ∀ f ∈ w.stack, f.2 = .done ∨ Live f.1 f.2
  held : ∀ h ∈ w.held, ∀ response, Live h.1 (h.2 response)
  /-- A chain that was started is in one place. -/
  placed : ∀ i, w.running i + w.holding i + w.replied i + w.lost i = if i ∈ w.started then 1 else 0

theorem sound_empty : (empty : World α).Sound where
  stack := by rintro f ⟨⟩
  held := by rintro h ⟨⟩
  placed := fun _ => rfl

theorem Sound.live {w : World α} (h : w.Sound) {i : ι} {r : Routine (Reply α)}
    {stack : List (ι × Routine (Reply α))} (top : w.stack = (i, r) :: stack)
    (unfinished : r ≠ .done) : Live i r :=
  (h.stack (i, r) (top ▸ List.mem_cons_self)).resolve_left unfinished

theorem Sound.below {w : World α} (h : w.Sound) {top : ι × Routine (Reply α)}
    {stack : List (ι × Routine (Reply α))} (stacked : w.stack = top :: stack) :
    ∀ f ∈ stack, f.2 = .done ∨ Live f.1 f.2 :=
  fun f hf => h.stack f (stacked ▸ List.mem_cons_of_mem top hf)

theorem Sound.remaining {w : World α} (h : w.Sound) {completion : ι × Resume (Reply α)}
    {before after : List (ι × Resume (Reply α))} (held : w.held = before ++ completion :: after) :
    ∀ k ∈ before ++ after, ∀ response, Live k.1 (k.2 response) := by
  intro k hk
  refine h.held k ?_
  rw [held]
  exact ((List.sublist_cons_self completion after).append_left before).subset hk

theorem countP_running {i : ι} {r : Routine (Reply α)} (h : isOver r = false)
    (stack : List (ι × Routine (Reply α))) (j : ι) :
    ((i, r) :: stack).countP (fun f => f.1 = j && !isOver f.2)
      = stack.countP (fun f => f.1 = j && !isOver f.2) + if i = j then 1 else 0 := by
  simp [List.countP_cons, h]

theorem countP_over {i : ι} {r : Routine (Reply α)} (h : isOver r = true)
    (stack : List (ι × Routine (Reply α))) (j : ι) :
    ((i, r) :: stack).countP (fun f => f.1 = j && !isOver f.2)
      = stack.countP fun f => f.1 = j && !isOver f.2 := by
  simp [h]

theorem Sound.start {w : World α} (h : w.Sound) (trees : ∀ i, StepTree (α i)) {i : ι}
    (fresh : i ∉ w.started) :
    Sound { w with stack := (i, (act trees i).routine) :: w.stack, started := i :: w.started } where
  stack := List.forall_mem_cons.mpr ⟨.inr (live_act trees i), h.stack⟩
  held := h.held
  placed := by
    intro j
    have hplaced := h.placed j
    simp only [running, holding, replied, lost] at hplaced ⊢
    rw [countP_running (live_act trees i).not_over]
    by_cases hj : i = j
    · subst hj
      rw [if_neg fresh] at hplaced
      rw [if_pos rfl, if_pos List.mem_cons_self]
      omega
    · rw [if_neg hj]
      simp only [List.mem_cons, Ne.symm hj, false_or]
      omega

theorem Sound.turn {w : World α} (h : w.Sound) {i : ι} {r r' : Routine (Reply α)}
    {stack : List (ι × Routine (Reply α))} (top : w.stack = (i, r) :: stack) (live : Live i r)
    (live' : Live i r') (commands : List (ι × String)) :
    Sound { w with stack := (i, r') :: stack, commands := commands } where
  stack := List.forall_mem_cons.mpr ⟨.inr live', h.below top⟩
  held := h.held
  placed := by
    intro j
    have hplaced := h.placed j
    simp only [running, holding, replied, lost, top] at hplaced ⊢
    rw [countP_running live.not_over] at hplaced
    rw [countP_running live'.not_over]
    exact hplaced

theorem Sound.pop {w : World α} (h : w.Sound) {i : ι} {stack : List (ι × Routine (Reply α))}
    (top : w.stack = (i, .done) :: stack) : Sound { w with stack := stack } where
  stack := h.below top
  held := h.held
  placed := by
    intro j
    have hplaced := h.placed j
    simp only [running, holding, replied, lost, top] at hplaced ⊢
    rw [countP_over rfl] at hplaced
    exact hplaced

theorem Sound.reply {w : World α} (h : w.Sound) {i : ι} {stack : List (ι × Routine (Reply α))}
    {result : Except Error (α i)} (top : w.stack = (i, .write ⟨i, result⟩ .done) :: stack) :
    Sound { w with stack := (i, .done) :: stack, replies := w.replies ++ [⟨i, result⟩] } where
  stack := List.forall_mem_cons.mpr ⟨.inl rfl, h.below top⟩
  held := h.held
  placed := by
    intro j
    have hplaced := h.placed j
    simp only [running, holding, replied, lost, top] at hplaced ⊢
    rw [countP_running rfl] at hplaced
    rw [countP_over rfl, List.countP_append, List.countP_singleton]
    simp only [decide_eq_true_eq]
    omega

theorem Sound.hold {w : World α} (h : w.Sound) {i : ι} {r : Routine (Reply α)}
    {stack : List (ι × Routine (Reply α))} {resume : Resume (Reply α)}
    (top : w.stack = (i, r) :: stack) (live : Live i r)
    (live' : ∀ response, Live i (resume response)) (commands : List (ι × String)) :
    Sound { w with stack := stack, held := (i, resume) :: w.held, commands := commands } where
  stack := h.below top
  held := List.forall_mem_cons.mpr ⟨live', h.held⟩
  placed := by
    intro j
    have hplaced := h.placed j
    simp only [running, holding, replied, lost, top] at hplaced ⊢
    rw [countP_running live.not_over] at hplaced
    rw [List.countP_cons]
    simp only [decide_eq_true_eq]
    omega

theorem countP_held {i : ι} {resume : Resume (Reply α)} (before after : List (ι × Resume (Reply α)))
    (j : ι) : (before ++ (i, resume) :: after).countP (·.1 = j)
      = (before ++ after).countP (·.1 = j) + if i = j then 1 else 0 := by
  simp only [List.countP_append, List.countP_cons, decide_eq_true_eq]
  omega

theorem Sound.deliver {w : World α} (h : w.Sound) {i : ι}
    {before after : List (ι × Resume (Reply α))} {resume : Resume (Reply α)}
    (held : w.held = before ++ (i, resume) :: after) (response : Response) :
    Sound { w with stack := (i, resume response) :: w.stack, held := before ++ after } where
  stack := by
    refine List.forall_mem_cons.mpr ⟨.inr ?_, h.stack⟩
    exact h.held (i, resume) (by simp [held]) response
  held := h.remaining held
  placed := by
    intro j
    have hplaced := h.placed j
    have hlive := h.held (i, resume) (by simp [held]) response
    simp only [running, holding, replied, lost, held] at hplaced ⊢
    rw [countP_held] at hplaced
    rw [countP_running hlive.not_over]
    omega

theorem Sound.drop {w : World α} (h : w.Sound) {i : ι}
    {before after : List (ι × Resume (Reply α))} {resume : Resume (Reply α)}
    (held : w.held = before ++ (i, resume) :: after) :
    Sound { w with held := before ++ after, dropped := i :: w.dropped } where
  stack := h.stack
  held := h.remaining held
  placed := by
    intro j
    have hplaced := h.placed j
    simp only [running, holding, replied, lost, held] at hplaced ⊢
    rw [countP_held] at hplaced
    rw [List.count_cons]
    simp only [beq_iff_eq]
    omega

theorem Sound.step {trees : ∀ i, StepTree (α i)} {w w' : World α} (h : w.Sound)
    (step : Step trees w w') : w'.Sound := by
  cases step with
  | start i fresh => exact h.start trees fresh
  | pop i stack top => exact h.pop top
  | reply i stack reply next top =>
    cases h.live top nofun
    exact h.reply top
  | answer i stack command leads next answer top =>
    have hlive := h.live top nofun
    exact h.turn top hlive (hlive.next answer) _
  | hold i stack command leads next top =>
    have hlive := h.live top nofun
    exact h.hold top hlive (fun response => hlive.next (some response)) _
  | deliver i before after resume response held => exact h.deliver held response
  | drop i before after resume held => exact h.drop held

theorem Sound.run {trees : ∀ i, StepTree (α i)} {w w' : World α} (h : w.Sound)
    (run : Run trees w w') : w'.Sound := by
  induction run with
  | refl => exact h
  | tail _ step ih => exact ih.step step

/-! ## Dropped chains -/

theorem Sound.lost {w : World α} (h : w.Sound) {i : ι} (dropped : i ∈ w.dropped) :
    w.running i = 0 ∧ w.holding i = 0 ∧ w.replied i = 0 ∧ w.lost i = 1 := by
  have hplaced := h.placed i
  have hlost : 0 < w.lost i := List.count_pos_iff.mpr dropped
  split at hplaced <;> omega

theorem running_pos {w : World α} {i : ι} {r : Routine (Reply α)}
    {stack : List (ι × Routine (Reply α))} (top : w.stack = (i, r) :: stack) (live : Live i r) :
    0 < w.running i := by
  unfold running
  rw [top, countP_running live.not_over, if_pos rfl]
  omega

theorem Sound.lost_step {trees : ∀ i, StepTree (α i)} {w w' : World α} (h : w.Sound)
    (step : Step trees w w') {i : ι} (dropped : i ∈ w.dropped) :
    i ∈ w'.dropped ∧ w'.commandsOf i = w.commandsOf i := by
  obtain ⟨hrunning, -⟩ := h.lost dropped
  have hother : ∀ {j command leads next stack}, w.stack = (j, .send command leads next) :: stack →
      (w.commands ++ [(j, command)]).filter (·.1 = i) = w.commands.filter (·.1 = i) := by
    intro j command leads next stack top
    have hne : j ≠ i := by
      rintro rfl
      have hpos := running_pos top (h.live top nofun)
      omega
    simp [hne]
  cases step with
  | start | pop | reply | deliver => exact ⟨dropped, rfl⟩
  | answer j stack command leads next answer top => exact ⟨dropped, hother top⟩
  | hold j stack command leads next top => exact ⟨dropped, hother top⟩
  | drop j before after resume held => exact ⟨List.mem_cons_of_mem _ dropped, rfl⟩

/-- A chain of which a completion was dropped neither replies nor sends anything any more. -/
theorem Sound.lost_run {trees : ∀ i, StepTree (α i)} {w w' : World α} (h : w.Sound)
    (run : Run trees w w') {i : ι} (dropped : i ∈ w.dropped) :
    w'.replied i = 0 ∧ w'.commandsOf i = w.commandsOf i := by
  -- That the chain has no code on the stack comes from soundness, so that goes along.
  have hstays : w'.Sound ∧ i ∈ w'.dropped ∧ w'.commandsOf i = w.commandsOf i := by
    induction run with
    | refl => exact ⟨h, dropped, rfl⟩
    | tail _ step ih =>
      obtain ⟨hsound, hdropped, hcommands⟩ := ih
      obtain ⟨hstill, hsame⟩ := hsound.lost_step step hdropped
      exact ⟨hsound.step step, hstill, hsame.trans hcommands⟩
  exact ⟨(hstays.1.lost hstays.2.1).2.2.1, hstays.2.2⟩

/-! ## No chain is stuck -/

theorem Sound.stack_finishes {w : World α} (h : w.Sound) (trees : ∀ i, StepTree (α i)) :
    ∃ w', Run trees w w' ∧ w'.stack = [] ∧ w'.held = w.held ∧ w'.dropped = w.dropped := by
  generalize hstack : w.stack = stack
  induction stack generalizing w with
  | nil => exact ⟨w, .refl, hstack, rfl, rfl⟩
  | cons f stack ih =>
    obtain ⟨i, r⟩ := f
    -- When the top of the stack has ended, what lies under it is as it was.
    have hfirst : ∃ u, Run trees w u ∧ u.stack = stack ∧ u.held = w.held ∧
        u.dropped = w.dropped := by
      rcases h.stack (i, r) (hstack ▸ List.mem_cons_self) with rfl | hlive
      · exact ⟨_, .single (.pop w i stack hstack), rfl, rfl, rfl⟩
      · have hw : { w with stack := (i, r) :: stack } = w := by rw [← hstack]
        have hends := live_finishes trees hlive { w with stack := stack }
        rwa [hw] at hends
    obtain ⟨u, hrun, hrest, hheld, hdropped⟩ := hfirst
    obtain ⟨w', hmore, hempty, hheld', hdropped'⟩ := ih (h.run hrun) hrest
    exact ⟨w', hrun.trans hmore, hempty, hheld'.trans hheld, hdropped'.trans hdropped⟩

/-- Once the channel hands over all it holds, every chain comes to its end. -/
theorem Sound.finishes {w : World α} (h : w.Sound) (trees : ∀ i, StepTree (α i)) :
    ∃ w', Run trees w w' ∧ w'.stack = [] ∧ w'.held = [] ∧ w'.dropped = w.dropped := by
  generalize hheld : w.held = held
  induction held generalizing w with
  | nil =>
    obtain ⟨w', hrun, hempty, hsame, hdropped⟩ := h.stack_finishes trees
    exact ⟨w', hrun, hempty, hsame.trans hheld, hdropped⟩
  | cons f held ih =>
    obtain ⟨i, resume⟩ := f
    -- What runs on is answered at once, so the channel holds one completion less.
    have hdeliver : Run trees w _ := .single (.deliver w i [] held resume (.success []) hheld)
    obtain ⟨u, hrun, -, hsame, hdropped⟩ := (h.run hdeliver).stack_finishes trees
    obtain ⟨w', hmore, hends⟩ := ih ((h.run hdeliver).run hrun) hsame
    rw [hdropped] at hends
    exact ⟨w', hdeliver.trans (hrun.trans hmore), hends⟩

/-! ## What becomes of a chain -/

/-- The chain has replied, and the channel holds nothing of it. -/
def Answered (w : World α) (i : ι) : Prop := w.replied i = 1 ∧ w.holding i = 0

/-- The channel holds one completion of the chain. -/
def Waiting (w : World α) (i : ι) : Prop := w.holding i = 1

/-- A completion of the chain was dropped, and it will never reply or send anything again. -/
def Lost (trees : ∀ i, StepTree (α i)) (w : World α) (i : ι) : Prop :=
  i ∈ w.dropped ∧ ∀ w', Run trees w w' → w'.replied i = 0 ∧ w'.commandsOf i = w.commandsOf i

theorem Sound.lost_iff {w : World α} (h : w.Sound) (trees : ∀ i, StepTree (α i)) {i : ι} :
    w.Lost trees i ↔ w.lost i = 1 := by
  constructor
  · exact fun hlost => (h.lost hlost.1).2.2.2
  · intro hlost
    have hcount : 0 < w.dropped.count i := by
      change 0 < w.lost i
      omega
    have hdropped := List.count_pos_iff.mp hcount
    exact ⟨hdropped, fun w' run => h.lost_run run hdropped⟩

theorem Sound.at_rest {w : World α} (h : w.Sound) (rest : w.stack = []) {i : ι}
    (started : i ∈ w.started) : w.holding i + w.replied i + w.lost i = 1 := by
  have hplaced := h.placed i
  have hrunning : w.running i = 0 := by simp [running, rest]
  rw [if_pos started] at hplaced
  omega

/-- No chain replies twice. With no code on the stack, a chain that was started has replied, or the
channel holds the one completion it waits for, or a completion was dropped and nothing more comes of
it. So when the channel holds nothing of it, it has replied exactly if nothing was dropped. -/
theorem replied_once_or_dropped (trees : ∀ i, StepTree (α i)) (w : World α)
    (run : Run trees .empty w) :
    (∀ i, w.replied i ≤ 1) ∧
    (w.stack = [] → ∀ i ∈ w.started,
      (w.Answered i ∧ ¬ w.Waiting i ∧ ¬ w.Lost trees i) ∨
      (¬ w.Answered i ∧ w.Waiting i ∧ ¬ w.Lost trees i) ∨
      (¬ w.Answered i ∧ ¬ w.Waiting i ∧ w.Lost trees i)) ∧
    (w.stack = [] → ∀ i ∈ w.started, w.holding i = 0 → (w.replied i = 1 ↔ i ∉ w.dropped)) := by
  have hsound := sound_empty.run run
  refine ⟨fun i => ?_, fun hrest i hstarted => ?_, fun hrest i hstarted hnone => ?_⟩
  · have hplaced := hsound.placed i
    split at hplaced <;> omega
  · have hsum := hsound.at_rest hrest hstarted
    rw [hsound.lost_iff trees]
    unfold Answered Waiting
    omega
  · have hsum := hsound.at_rest hrest hstarted
    rw [← List.count_pos_iff]
    change _ ↔ ¬ 0 < w.lost i
    omega

/-- Two chains: the first one is dropped with its first command, the second one is answered. -/
def dividedTrees : Bool → StepTree Unit
  | false => .andThen (.command "AT+CFUN=4") fun _ => .command "AT+COPS=0"
  | true => .command "AT+CFUN=1"

def divided : World fun _ : Bool => Unit :=
  ⟨[], [], [⟨true, .ok ()⟩], [true, false], [false], [(false, "AT+CFUN=4"), (true, "AT+CFUN=1")]⟩

theorem replied_once_or_dropped_divided :
    Run dividedTrees .empty divided ∧ divided.Answered true ∧
      (¬ divided.Answered false ∧ ¬ divided.Waiting false ∧ divided.Lost dividedTrees false) ∧
      (divided.replied true = 1 ↔ true ∉ divided.dropped) := by
  have hrun : Run dividedTrees .empty divided := by
    have hfirst : Run dividedTrees .empty _ := .single (.start _ false (by decide))
    have hheld := hfirst.tail (.hold _ false [] _ _ _ rfl)
    have hsecond := hheld.tail (.start _ true (by decide))
    have hboth := hsecond.tail (.hold _ true [] _ _ _ rfl)
    have hdropped := hboth.tail (.drop _ false [_] [] _ rfl)
    have hanswered := hdropped.tail (.deliver _ true [] [] _ ⟨true, "OK", []⟩ rfl)
    have hreplied := hanswered.tail (.reply _ true [] _ _ rfl)
    exact hreplied.tail (.pop _ true [] rfl)
  obtain ⟨honce, hwhere, hiff⟩ := replied_once_or_dropped dividedTrees divided hrun
  refine ⟨hrun, ⟨rfl, rfl⟩, ?_, hiff rfl true (by decide) (by decide)⟩
  rcases hwhere rfl false (by decide) with ⟨hanswered, -⟩ | ⟨-, hwaiting, -⟩ | hlost
  · exact absurd hanswered.1 (by decide)
  · exact absurd (show divided.holding false = 1 from hwaiting) (by decide)
  · exact hlost

end CellModem.Chain.World
