import CellModem.Channel.Simulator
import CellModem.Proofs.Operations.Occupation

/-!
# One operation at a time

An instance is busy exactly while a call of it is outstanding, and there is never more than one. So
commands of two operations of one instance do not mix, a call that finds the instance busy changes
nothing but that it is answered, and the instance is free when a caller gets its answer.
-/

namespace CellModem.Calls.World

variable {ι : Type} {α : ι → Type} {calls : Calls α} {w w' : World α}

/-! ## Slots and calls -/

structure Booked (calls : Calls α) (w : World α) : Prop where
  busy : ∀ f n, w.host.busy? f n = some true ↔ ∃ i, calls.At f n i ∧ w.Occupies i
  alone : ∀ f n i j, calls.At f n i → calls.At f n j → w.Occupies i → w.Occupies j → i = j
  /-- An instance is free when a caller that had it is about to be answered. -/
  free : ∀ i result stack, w.stack = (i, replying i result) :: stack → i ∈ w.claimed →
    ∀ f n, calls.At f n i → w.host.busy? f n ≠ some true

theorem booked_empty : (empty : World α).Booked calls where
  busy f n := by
    refine ⟨fun hbusy => ?_, fun ⟨i, _, hi⟩ => absurd hi.1 List.not_mem_nil⟩
    unfold Host.busy? Host.instance? empty Host.initial at hbusy
    rw [PerFacility.get_ofFn] at hbusy
    cases hbusy
  alone _ _ i _ _ _ hi _ := absurd hi.1 List.not_mem_nil
  free _ _ _ htop := nomatch htop

/-- Where nobody is about to be answered, `free` has nothing to say. -/
theorem free_of_working {i : ι} {r : Routine (Logged α)} {stack : List (ι × Routine (Logged α))}
    (working : Working calls i r) (j : ι) (result : Except Error (α j))
    (rest : List (ι × Routine (Logged α))) : (i, r) :: stack ≠ (j, replying j result) :: rest := by
  intro hstack
  exact working_ne_replying working result (Prod.mk.inj (List.cons.inj hstack).1).2

theorem free_of_pauses {stack : List (ι × Routine (Logged α))}
    (pause : ∀ frame ∈ stack.head?, pauses frame.2) (j : ι) (result : Except Error (α j))
    (rest : List (ι × Routine (Logged α))) : stack ≠ (j, replying j result) :: rest := by
  rintro rfl
  cases pause (j, replying j result) rfl

/-- Nothing that is under other code is about to reply. -/
theorem Sound.free_beneath [DecidableEq ι] (h : w.Sound calls) {i : ι} {r : Routine (Logged α)}
    {stack : List (ι × Routine (Logged α))} (top : w.stack = (i, r) :: stack) (j : ι)
    (result : Except Error (α j)) (rest : List (ι × Routine (Logged α))) :
    stack ≠ (j, replying j result) :: rest :=
  free_of_pauses (fun frame hframe => h.under top frame (List.mem_of_mem_head? hframe)) j result rest

theorem Booked.same (h : w.Booked calls)
    (busy : ∀ f n, w'.host.busy? f n = some true ↔ w.host.busy? f n = some true)
    (occupies : ∀ i, w'.Occupies i ↔ w.Occupies i)
    (silent : ∀ i result stack, w'.stack ≠ (i, replying i result) :: stack) : w'.Booked calls where
  busy f n := by
    rw [busy, h.busy]
    simp only [occupies]
  alone f n i j hi hj hi' hj' := h.alone f n i j hi hj ((occupies i).mp hi') ((occupies j).mp hj')
  free i result stack htop := absurd htop (silent i result stack)

theorem occupies_granted {i : ι} (new : i ∉ w.settled) (j : ι) :
    j ∈ i :: w.claimed ∧ j ∉ w.settled ↔ j = i ∨ w.Occupies j := by
  constructor
  · rintro ⟨hclaimed, hsettled⟩
    rcases List.mem_cons.mp hclaimed with hi | hclaimed
    · exact .inl hi
    · exact .inr ⟨hclaimed, hsettled⟩
  · rintro (rfl | hj)
    · exact ⟨List.mem_cons_self, new⟩
    · exact ⟨List.mem_cons_of_mem i hj.1, hj.2⟩

theorem occupies_settled (i j : ι) :
    j ∈ w.claimed ∧ j ∉ i :: w.settled ↔ j ≠ i ∧ w.Occupies j := by
  rw [List.mem_cons, not_or]
  exact ⟨fun ⟨hclaimed, hne, hsettled⟩ => ⟨hne, hclaimed, hsettled⟩,
    fun ⟨hne, hclaimed, hsettled⟩ => ⟨hclaimed, hne, hsettled⟩⟩

theorem Booked.grant (h : w.Booked calls) [DecidableEq ι] (sound : w.Sound calls) {i : ι}
    {taken : Vendor × Driver} {host : Logged α} (fresh : i ∉ w.started)
    (claims : calls.claim i w.host = (.ok taken, host)) :
    Booked calls
      { w with
        host := host
        stack := (i, calls.working i taken) :: w.stack
        started := i :: w.started
        claimed := i :: w.claimed } := by
  obtain ⟨hhost, hfree⟩ := Host.claim_ok claims
  have hnobody : ∀ j, calls.At (calls.facility i) (calls.number i) j → ¬ w.Occupies j := by
    intro j hat hj
    have hbusy := (h.busy _ _).mpr ⟨j, hat, hj⟩
    rw [hfree] at hbusy
    cases hbusy
  have hnew : i ∉ w.settled := fun hsettled => fresh (sound.claimed i (sound.settled i hsettled))
  have hoccupies := occupies_granted hnew
  constructor
  · intro f n
    rw [hhost, Host.busy?_take]
    split
    · next hat =>
      obtain ⟨rfl, rfl⟩ := hat
      rw [hfree]
      exact ⟨fun _ => ⟨i, ⟨rfl, rfl⟩, (hoccupies i).mpr (.inl rfl)⟩, fun _ => rfl⟩
    · next hat =>
      rw [h.busy]
      constructor
      · rintro ⟨j, hj, hj'⟩
        exact ⟨j, hj, (hoccupies j).mpr (.inr hj')⟩
      · rintro ⟨j, hj, hj'⟩
        rcases (hoccupies j).mp hj' with rfl | hbefore
        · exact absurd ⟨hj.1.symm, hj.2.symm⟩ hat
        · exact ⟨j, hj, hbefore⟩
  · intro f n j k hj hk hj' hk'
    rcases (hoccupies j).mp hj' with rfl | hbefore
    · rcases (hoccupies k).mp hk' with rfl | hbefore
      · rfl
      · obtain ⟨rfl, rfl⟩ := hj
        exact absurd hbefore (hnobody k hk)
    · rcases (hoccupies k).mp hk' with rfl | hbefore'
      · obtain ⟨rfl, rfl⟩ := hk
        exact absurd hbefore (hnobody j hj)
      · exact h.alone f n j k hj hk hbefore hbefore'
  · intro j result stack htop
    exact absurd htop (free_of_working (working_working calls i taken) j result stack)

theorem Booked.settle (h : w.Booked calls) [DecidableEq ι] (sound : w.Sound calls) {i : ι}
    {stack : List (ι × Routine (Logged α))} {result : Except Error (Settled (calls.facility i) (α i))}
    (top : w.stack = (i, calls.settling i result) :: stack) :
    Booked calls
      { w with
        host := w.host.settle (calls.number i) result
        stack := (i, replying i (result.map Settled.answer)) :: stack
        settled := i :: w.settled } := by
  have hi := (sound.occupies_of_working top (working_ne_replying (.settle result)) rfl).1
  have hoccupies := occupies_settled (w := w) i
  have hfreed : (w.host.settle (calls.number i) result).busy? (calls.facility i) (calls.number i)
      ≠ some true := by
    rw [Host.busy?_settle, if_pos ⟨rfl, rfl⟩]
    cases w.host.busy? (calls.facility i) (calls.number i) <;> nofun
  constructor
  · intro f n
    by_cases hat : f = calls.facility i ∧ n = calls.number i
    · obtain ⟨rfl, rfl⟩ := hat
      refine iff_of_false hfreed ?_
      rintro ⟨j, hj, hj'⟩
      obtain ⟨hne, hj'⟩ := (hoccupies j).mp hj'
      exact hne (h.alone _ _ j i hj ⟨rfl, rfl⟩ hj' hi)
    · rw [Host.busy?_settle, if_neg hat, h.busy]
      refine exists_congr fun j => and_congr_right fun hj => ?_
      have hne : j ≠ i := by
        rintro rfl
        exact hat ⟨hj.1.symm, hj.2.symm⟩
      exact ⟨fun hj' => (hoccupies j).mpr ⟨hne, hj'⟩, fun hj' => ((hoccupies j).mp hj').2⟩
  · intro f n j k hj hk hj' hk'
    exact h.alone f n j k hj hk ((hoccupies j).mp hj').2 ((hoccupies k).mp hk').2
  · intro j result' stack' htop _ f n hj
    obtain ⟨rfl, -⟩ := Prod.mk.inj (List.cons.inj htop).1
    obtain ⟨rfl, rfl⟩ := hj
    exact hfreed

theorem Booked.other (h : w.Booked calls) {host : Logged α} (opened : w.Open)
    (apart : w.host.Apart host) : Booked calls { w with host := host } := by
  refine h.same (fun f n => ?_) (fun _ => .rfl) (free_of_pauses opened)
  by_cases hnone : w.host.busy? f n = none
  · rw [hnone]
    exact iff_of_false (apart.fresh f n hnone) nofun
  · rw [show host.busy? f n = _ from apart.kept f n hnone]

theorem Booked.step [DecidableEq ι] (h : w.Booked calls) (sound : w.Sound calls)
    (step : Step calls w w') : w'.Booked calls := by
  cases step with
  | grant i taken host fresh opened claims => exact h.grant sound fresh claims
  | refuse i e host fresh opened claims =>
    have hsame := Host.claim_error (congrArg Prod.fst claims)
    rw [show w.host.claim _ _ = _ from claims] at hsame
    rw [(Prod.mk.inj hsame).2]
    refine ⟨h.busy, h.alone, fun j result stack htop hj => ?_⟩
    obtain ⟨rfl, -⟩ := Prod.mk.inj (List.cons.inj htop).1
    exact absurd (sound.claimed _ hj) fresh
  | ask i stack spend next top =>
    have hworking := (sound.occupies_of_working top (asking_ne_replying spend next) rfl).2
    exact h.same (fun _ _ => .rfl) (fun _ => .rfl) (free_of_working (hworking.asked _))
  | settle i stack result top => exact h.settle sound top
  | reply i stack result top =>
    exact h.same (fun _ _ => .rfl) (fun _ => .rfl)
      (free_of_pauses fun frame hframe => Option.some.inj hframe ▸ rfl)
  | pop i stack top =>
    exact h.same (fun _ _ => .rfl) (fun _ => .rfl) (sound.free_beneath top)
  | answer i stack command leads next answer top =>
    have hworking := (sound.occupies_of_working top nofun rfl).2
    exact h.same (fun _ _ => .rfl) (fun _ => .rfl) (free_of_working (hworking.sent answer))
  | hold i stack command leads next top =>
    exact h.same (fun _ _ => .rfl) (fun _ => .rfl) (sound.free_beneath top)
  | deliver i before after resume response opened held =>
    have hworking := (sound.remaining held).1.2 response
    exact h.same (fun _ _ => .rfl) (fun _ => .rfl) (free_of_working hworking)
  | drop i before after resume opened held =>
    exact h.same (fun _ _ => .rfl) (fun _ => .rfl) (free_of_pauses opened)
  | other host opened apart => exact h.other opened apart

/-! ## Commands in groups -/

def issuers (w : World α) : List ι := w.commands.map (·.1)

structure Grouped (calls : Calls α) (w : World α) : Prop where
  claimed : ∀ i ∈ w.issuers, i ∈ w.claimed
  /-- The call that sent something first has let the instance go. -/
  past : ∀ f n i j, calls.At f n i → calls.At f n j → i ≠ j → [i, j].Sublist w.issuers →
    ¬ w.Occupies i
  grouped : ∀ f n i j, calls.At f n i → calls.At f n j → i ≠ j → ¬ [i, j, i].Sublist w.issuers

theorem grouped_empty : (empty : World α).Grouped calls where
  claimed := nofun
  past _ _ _ _ _ _ _ h := nomatch h
  grouped _ _ _ _ _ _ _ h := nomatch h

theorem Grouped.same (h : w.Grouped calls) (commands : w'.commands = w.commands)
    (claimed : ∀ i ∈ w.claimed, i ∈ w'.claimed)
    (occupies : ∀ i ∈ w.claimed, w'.Occupies i → w.Occupies i) : w'.Grouped calls where
  claimed i hi := by
    rw [issuers, commands] at hi
    exact claimed i (h.claimed i hi)
  past f n i j hi hj hne hsent hoccupies := by
    rw [issuers, commands] at hsent
    have hclaimed := h.claimed i (hsent.subset List.mem_cons_self)
    exact h.past f n i j hi hj hne hsent (occupies i hclaimed hoccupies)
  grouped f n i j hi hj hne hsent := by
    rw [issuers, commands] at hsent
    exact h.grouped f n i j hi hj hne hsent

/-- What is a part of a list with one more entry is a part of the list, or ends with the entry. -/
theorem sublist_concat {β : Type} (part : List β) {list : List β} {last x : β}
    (h : (part ++ [x]).Sublist (list ++ [last])) :
    (part ++ [x]).Sublist list ∨ x = last ∧ part.Sublist list := by
  obtain ⟨front, back, hpart, hfront, hback⟩ := List.sublist_append_iff.mp h
  cases hback with
  | cons _ hnone =>
    rw [List.sublist_nil.mp hnone, List.append_nil] at hpart
    exact .inl (hpart ▸ hfront)
  | cons_cons _ hnone =>
    rw [List.sublist_nil.mp hnone] at hpart
    obtain ⟨rfl, hx⟩ := List.append_inj' hpart rfl
    exact .inr ⟨List.singleton_inj.mp hx, hfront⟩

theorem Grouped.issue (h : w.Grouped calls) (booked : w.Booked calls) {i : ι}
    (occupies : w.Occupies i) (command : String) (stack : List (ι × Routine (Logged α)))
    (held : List (ι × Resume (Logged α))) :
    Grouped calls
      { w with stack := stack, held := held, commands := w.commands ++ [(i, command)] } := by
  have hissuers : (w.commands ++ [(i, command)]).map (·.1) = w.issuers ++ [i] := by
    rw [List.map_append]
    rfl
  constructor
  · intro j hj
    rw [issuers, hissuers, List.mem_append, List.mem_singleton] at hj
    rcases hj with hj | rfl
    · exact h.claimed j hj
    · exact occupies.1
  · intro f n j k hj hk hne hsent hoccupies
    rw [issuers, hissuers] at hsent
    rcases sublist_concat [j] hsent with hbefore | ⟨rfl, -⟩
    · exact h.past f n j k hj hk hne hbefore hoccupies
    · exact hne (booked.alone f n j k hj hk hoccupies occupies)
  · intro f n j k hj hk hne hsent
    rw [issuers, hissuers] at hsent
    rcases sublist_concat [j, k] hsent with hbefore | ⟨rfl, hbefore⟩
    · exact h.grouped f n j k hj hk hne hbefore
    · exact h.past f n j k hj hk hne hbefore occupies

theorem Grouped.step [DecidableEq ι] (h : w.Grouped calls) (sound : w.Sound calls)
    (booked : w.Booked calls) (step : Step calls w w') : w'.Grouped calls := by
  cases step with
  | grant i taken host fresh opened claims =>
    refine h.same rfl (fun _ => List.mem_cons_of_mem i) fun j hj hoccupies => ⟨hj, hoccupies.2⟩
  | settle i stack result top =>
    refine h.same rfl (fun _ => id) fun j hj hoccupies => ⟨hj, fun hsettled => ?_⟩
    exact hoccupies.2 (List.mem_cons_of_mem i hsettled)
  | answer i stack command leads next answer top =>
    exact h.issue booked (sound.occupies_of_working top nofun rfl).1 command _ _
  | hold i stack command leads next top =>
    exact h.issue booked (sound.occupies_of_working top nofun rfl).1 command _ _
  | refuse | ask | reply | pop | deliver | drop | other =>
    exact h.same rfl (fun _ => id) fun _ _ => id

theorem run_keeps [DecidableEq ι] (run : Run calls .empty w) :
    w.Sound calls ∧ w.Booked calls ∧ w.Grouped calls := by
  induction run with
  | refl => exact ⟨sound_empty, booked_empty, grouped_empty⟩
  | tail _ step ih =>
    obtain ⟨hsound, hbooked, hgrouped⟩ := ih
    exact ⟨hsound.step step, hbooked.step hsound step, hgrouped.step hsound hbooked step⟩

/-! ## What callers see -/

/-- An instance is busy exactly while a call of it is outstanding, when no operation is at work. -/
theorem busy_iff [DecidableEq ι] (sound : w.Sound calls) (booked : w.Booked calls) (opened : w.Open)
    (f : Facility) (n : Nat) :
    w.host.busy? f n = some true ↔ ∃ i, calls.At f n i ∧ w.Outstanding i := by
  rw [booked.busy]
  simp only [sound.outstanding_iff opened]

theorem outstanding_alone [DecidableEq ι] (sound : w.Sound calls) (booked : w.Booked calls)
    {f : Facility} {n : Nat} {i j : ι} (hi : calls.At f n i) (hj : calls.At f n j)
    (outstanding : w.Outstanding i) (outstanding' : w.Outstanding j) : i = j := by
  have hfree : ∀ {i j}, calls.At f n i → calls.At f n j → w.Outstanding i → w.Occupies j →
      ∀ result stack, w.stack ≠ (i, replying i result) :: stack := by
    intro i j hi hj outstanding occupies result stack htop
    have hbusy := (booked.busy f n).mpr ⟨j, hj, occupies⟩
    exact booked.free i result stack htop outstanding.1 f n hi hbusy
  rcases sound.outstanding_cases outstanding with hoccupies | ⟨result, stack, htop⟩
  · rcases sound.outstanding_cases outstanding' with hoccupies' | ⟨result', stack', htop'⟩
    · exact booked.alone f n i j hi hj hoccupies hoccupies'
    · exact absurd htop' (hfree hj hi outstanding' hoccupies result' stack')
  · rcases sound.outstanding_cases outstanding' with hoccupies' | ⟨result', stack', htop'⟩
    · exact absurd htop (hfree hi hj outstanding hoccupies' result stack)
    · exact (Prod.mk.inj (List.cons.inj (htop.symm.trans htop')).1).1

/-- A call of a busy instance does nothing but that its caller is answered. -/
theorem start_busy {C : Type → Type} [Channel C] (calls : Calls α) {f : Facility} {n : Nat} {i : ι}
    (hi : calls.At f n i) (m : Machine C (Logged α)) {inst : Instance f}
    (found : m.state.instance? f n = some inst) (busy : inst.busy = true) :
    m.start (calls.act i) = { m with
      state := m.state.note
        ⟨i, .error (if inst.life.state = .removed then .instanceGone else .busy)⟩ } := by
  obtain ⟨rfl, rfl⟩ := hi
  exact start_refused (congrArg Prod.fst (Host.claim_busy found busy))

/-- The channel drops nothing. When no operation is at work, an instance is busy if and only if a
call of it is outstanding, and with no code on the stack the channel then holds one completion of
that call. There is never more than one outstanding call of an instance, and its commands do not mix
with those of another one. A further call is answered at once, that the instance is busy, or that it
is gone if it was removed meanwhile, and nothing else comes of it. An instance is free when a caller
that had it is about to be answered, so what the caller does with it then does not find it busy. -/
theorem slot_discipline [DecidableEq ι] (calls : Calls α) (w : World α) (run : Run calls .empty w)
    (kept : w.dropped = []) :
    (w.Open → ∀ f n,
      w.host.busy? f n = some true ↔ ∃ i, calls.At f n i ∧ w.Outstanding i) ∧
    (w.stack = [] → ∀ i, w.Outstanding i → w.holding i = 1) ∧
    (∀ f n i j, calls.At f n i → calls.At f n j →
      (w.Outstanding i → w.Outstanding j → i = j) ∧
      (i ≠ j → ¬ [i, j, i].Sublist (w.commands.map (·.1))) ∧
      (w.Open → w.Outstanding i → ∃ inst, w.host.instance? f n = some inst ∧
        ∀ (C : Type → Type) [Channel C] (channel : C (Resume (Logged α))),
          (⟨channel, w.host⟩ : Machine C (Logged α)).start (calls.act j) = ⟨channel, w.host.note
            ⟨j, .error (if inst.life.state = .removed then .instanceGone else .busy)⟩⟩)) ∧
    (∀ i result stack, w.stack = (i, replying i result) :: stack → i ∈ w.claimed →
      ∀ f n, calls.At f n i → w.host.busy? f n ≠ some true ∧
        ((w.host.note ⟨i, result⟩).claim f n).1 ≠ .error .busy) := by
  obtain ⟨hsound, hbooked, hgrouped⟩ := run_keeps run
  refine ⟨fun opened => busy_iff hsound hbooked opened, fun hrest i houtstanding => ?_, ?_, ?_⟩
  · have hplaced := hsound.placed i
    rw [if_pos (hsound.claimed i houtstanding.1), houtstanding.2] at hplaced
    simp only [running, lost, hrest, kept, List.countP_nil, List.count_nil] at hplaced
    omega
  · intro f n i j hi hj
    refine ⟨outstanding_alone hsound hbooked hi hj, hgrouped.grouped f n i j hi hj, ?_⟩
    intro opened houtstanding
    have hbusy := (busy_iff hsound hbooked opened f n).mpr ⟨i, hi, houtstanding⟩
    obtain ⟨inst, hinst, hbusy⟩ := Option.map_eq_some_iff.mp hbusy
    exact ⟨inst, hinst, fun C _ channel => start_busy calls hj ⟨channel, w.host⟩ hinst hbusy⟩
  · intro i result stack htop hclaimed f n hi
    have hfree := hbooked.free i result stack htop hclaimed f n hi
    refine ⟨hfree, fun hrefused => hfree ?_⟩
    exact Host.busy?_of_claim (h := w.host.note ⟨i, result⟩) hrefused

/-! ## Two calls of one instance -/

/-- Two callers ask for the power state. -/
def pair : Calls fun _ : Bool => Properties where
  facility _ := .power
  number _ := 0
  operation _ := .powerProperties
  built _ := (Operation.over_request _ _).built

/-- A host with an instance of power management. -/
def powered : Logged fun _ : Bool => Properties :=
  ((((Host.initial []).addInstance .power .default).2.bindInstance .power 0
    ⟨0, "telitmodem", .full⟩).showInstance .power 0)

/-- One of them was given the instance, and the channel holds the query. -/
theorem exists_querying : ∃ w : World fun _ : Bool => Properties, Run pair .empty w ∧
    w.dropped = [] ∧ w.stack = [] ∧ w.Outstanding false ∧ w.host = (pair.claim false powered).2 := by
  have hpowered : (Host.initial [] : Logged fun _ : Bool => Properties).Apart powered :=
    ((Host.apart_addInstance _ _ _).trans (Host.apart_bindInstance _ _ _ _)).trans
      (Host.apart_showInstance _ _ _)
  have hready : Run pair .empty _ := .single (.other _ powered nofun hpowered)
  have hgranted := hready.tail (.grant _ false (.default, .full) _ (by decide) nofun rfl)
  rw [working_eq] at hgranted
  have hasked := hgranted.tail (.ask _ false [] _ _ rfl)
  have hheld := hasked.tail (.hold _ false [] _ _ _ rfl)
  exact ⟨_, hheld, rfl, rfl, ⟨List.mem_cons_self, rfl⟩, rfl⟩

theorem slot_discipline_querying : ∃ w : World fun _ : Bool => Properties, Run pair .empty w ∧
    w.dropped = [] ∧ w.host.busy? .power 0 = some true ∧ w.holding false = 1 ∧
    (⟨.empty, w.host⟩ : Machine Simulator _).start (pair.act true)
      = ⟨.empty, w.host.note ⟨true, .error .busy⟩⟩ := by
  obtain ⟨w, hrun, hkept, hrest, hout, hhost⟩ := exists_querying
  have hopened : w.Open := by
    intro frame hframe
    rw [hrest] at hframe
    cases hframe
  obtain ⟨hbusy, hholding, hcalls, -⟩ := slot_discipline pair w hrun hkept
  obtain ⟨-, -, hanother⟩ := hcalls .power 0 false true ⟨rfl, rfl⟩ ⟨rfl, rfl⟩
  obtain ⟨inst, hinst, hstart⟩ := hanother hopened hout
  have hlife : inst.life.state = .registered := by
    rw [hhost] at hinst
    rw [← Option.some.inj hinst]
    rfl
  rw [hlife] at hstart
  exact ⟨w, hrun, hkept, (hbusy hopened .power 0).mpr ⟨false, ⟨rfl, rfl⟩, hout⟩,
    hholding hrest false hout, hstart Simulator .empty⟩

/-- An instance that is removed while a call of it is outstanding answers that it is gone, not that it
is busy. -/
theorem gone_while_outstanding : ∃ w : World fun _ : Bool => Properties, Run pair .empty w ∧
    w.dropped = [] ∧ w.stack = [] ∧ w.Outstanding false ∧
    (⟨.empty, w.host⟩ : Machine Simulator _).start (pair.act true)
      = ⟨.empty, w.host.note ⟨true, .error .instanceGone⟩⟩ := by
  obtain ⟨w, hrun, hkept, hrest, hout, hhost⟩ := exists_querying
  have hopened : w.Open := by
    intro frame hframe
    rw [hrest] at hframe
    cases hframe
  have hapart := w.host.apart_removeInstance .power 0
  refine ⟨_, hrun.tail (.other w _ hopened hapart), hkept, hrest, ⟨hout.1, ?_⟩, ?_⟩
  · rw [answers, hapart.observed]
    exact hout.2
  · have hinst : ((pair.claim false powered).2.removeInstance .power 0).instance? .power 0
        = some ⟨.default, "telitmodem", ⟨.removed, none⟩, none, true, (none : Option PowerState)⟩ := rfl
    rw [hhost]
    exact start_busy (C := Simulator) pair ⟨rfl, rfl⟩ ⟨.empty, _⟩ hinst rfl

end CellModem.Calls.World
