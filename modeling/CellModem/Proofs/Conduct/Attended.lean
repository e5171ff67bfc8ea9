import CellModem.Proofs.Conduct.Routine

/-!
# Channels with all that happens on them

Beside what code does to a channel, things happen on it: answers and lines come in, and writing may
begin to fail. Then those who waited go on, or handlers are given a line. Whoever goes on was kept by
the channel, and goes on once; what gets on the wire was given to the channel before, in the same
order.
-/

namespace CellModem

open scoped List

variable {σ κ : Type}

/-- What comes of something that happens on a channel. -/
inductive Delivery (C : Type → Type) (κ : Type) where
  /-- These go on, each with its answer. -/
  | answers (channel : C κ) (answered : List (κ × Response))
  /-- A line is handed round, and the channel is put in order afterwards. -/
  | hears (channel : C κ) (handlers : List (Handler κ)) (line : String) (back : C κ → C κ)

class Attended (C : Type → Type) [Channel C] where
  /-- What may happen on the channel. -/
  Input : Type
  deliver {κ : Type} (channel : C κ) (input : Input) : Delivery C κ
  waiting {κ : Type} (channel : C κ) : List κ
  handlers {κ : Type} (channel : C κ) : List (Handler κ)
  /-- The commands that have been taken and are yet to be written. -/
  backlog {κ : Type} (channel : C κ) : List String
  /-- How a command is written. -/
  written : String → String

namespace Attended

variable {C : Type → Type} [Channel C] [Attended C]

/-- Some of the commands that were to be written or were given since have been written, and others of
them are to be written, in order. -/
def Onward (channel : C κ) (given : List String) (channel' : C κ) : Prop :=
  ∃ sent, Channel.traffic channel' = Channel.traffic channel ++ sent.map (written C) ∧
    sent ++ backlog channel' <+ backlog channel ++ given

theorem Onward.refl (channel : C κ) : Onward channel [] channel :=
  ⟨[], (List.append_nil _).symm, by rw [List.append_nil]; exact List.Sublist.refl _⟩

theorem Onward.trans {c c' c'' : C κ} {given given' : List String} (h : Onward c given c')
    (h' : Onward c' given' c'') : Onward c (given ++ given') c'' := by
  obtain ⟨sent, htraffic, hsent⟩ := h
  obtain ⟨sent', htraffic', hsent'⟩ := h'
  refine ⟨sent ++ sent', ?_, ?_⟩
  · rw [htraffic', htraffic, List.map_append, List.append_assoc]
  · rw [List.append_assoc, ← List.append_assoc (backlog c)]
    refine ((List.Sublist.refl sent).append hsent').trans ?_
    rw [← List.append_assoc]
    exact hsent.append (List.Sublist.refl given')

/-- Where nothing was to be written and nothing was given, nothing has been written. -/
theorem Onward.idle {c c' : C κ} (h : Onward c [] c') (idle : backlog c = []) :
    Channel.traffic c' = Channel.traffic c ∧ backlog c' = [] := by
  obtain ⟨sent, htraffic, hsent⟩ := h
  rw [idle] at hsent
  obtain ⟨rfl, hbacklog⟩ := List.append_eq_nil_iff.mp (List.sublist_nil.mp hsent)
  exact ⟨htraffic.trans (List.append_nil _), hbacklog⟩

/-- The channel has changed without anyone being added, or anything to be written. -/
structure Lessened (c c' : C κ) : Prop where
  waiting : waiting c' <+ waiting c
  handlers : ∀ h ∈ handlers c', h ∈ handlers c
  onward : Onward c [] c'

end Attended

open Attended in
/-- Nobody is lost track of, and nothing is made up. -/
class AttendedLaws (C : Type → Type) [Channel C] [Attended C] : Prop where
  refused {κ : Type} {c c' : C κ} {command : String} {leads : List String} {k : κ}
    (sent : Channel.send c command leads k = .refused c') : Lessened c c'
  answered {κ : Type} {c c' : C κ} {command : String} {leads : List String} {k : κ}
    {response : Response} (sent : Channel.send c command leads k = .answered c' response) :
    waiting c' <+ waiting c ++ [k] ∧ (waiting c = [] → waiting c' = []) ∧
      handlers c' = handlers c ∧ Onward c [command] c'
  held {κ : Type} {c c' : C κ} {command : String} {leads : List String} {k : κ}
    (sent : Channel.send c command leads k = .held c') :
    waiting c' <+ waiting c ++ [k] ∧ handlers c' = handlers c ∧ Onward c [command] c'
  register {κ : Type} {c c' : C κ} {lead : String} {k : κ} {id : Nat}
    (taken : Channel.register c lead k = some (id, c')) :
    waiting c' = waiting c ∧ handlers c' = handlers c ++ [⟨lead, k⟩] ∧ Onward c [] c'
  unregisterAll {κ : Type} (c : C κ) :
    Lessened c (Channel.unregisterAll c) ∧ handlers (Channel.unregisterAll c) = []
  cancelAll {κ : Type} (c : C κ) :
    Lessened c (Channel.cancelAll c) ∧ waiting (Channel.cancelAll c) = [] ∧
      backlog (Channel.cancelAll c) = [] ∧
      Channel.traffic (Channel.cancelAll c) = Channel.traffic c
  close {κ : Type} (c : C κ) : Lessened c (Channel.close c)
  answers {κ : Type} {c c' : C κ} {input : Attended.Input C} {list : List (κ × Response)}
    (delivered : deliver c input = .answers c' list) :
    list.map Prod.fst ++ waiting c' <+ waiting c ∧ handlers c' = handlers c ∧ Onward c [] c'
  hears {κ : Type} {c c' : C κ} {input : Attended.Input C} {given : List (Handler κ)} {line : String}
    {back : C κ → C κ} (delivered : deliver c input = .hears c' given line back) :
    Lessened c c' ∧ (∀ h ∈ given, h ∈ handlers c) ∧
      ∀ d, waiting (back d) = waiting d ∧
        (∀ h ∈ handlers (back d), h ∈ handlers c ∨ h ∈ handlers d) ∧ Onward d [] (back d)

/-- The channel once the command has been given to it. -/
def Sent.channel : Sent κ → κ
  | .refused channel | .answered channel _ | .held channel => channel

/-- Those of the handlers that take the line, each with it. -/
def Handler.informed (handlers : List (Handler κ)) (line : String) : List (κ × Response) :=
  (handlers.filter (Handler.takes · line)).map fun h => (h.handler, .unsolicited line)

/-! ## Machines -/

section

variable {C : Type → Type} [Channel C]

/-- The commands a routine gives to the channel before it ends or waits, refused ones included. -/
def Routine.given : Routine σ → Machine C σ → List String
  | .done, _ => []
  | .read next, m => (next m.state).given m
  | .write state next, m => next.given { m with state := state }
  | .send command leads next, m =>
    command :: match Channel.send m.channel command leads fun response => next (some response) with
      | .refused channel => (next none).given { m with channel := channel }
      | .answered channel response => (next (some response)).given { m with channel := channel }
      | .held _ => []
  | .register lead handler next, m =>
    match Channel.register m.channel lead handler with
    | none => (next none).given m
    | some (id, channel) => (next (some id)).given { m with channel := channel }
  | .unregisterAll next, m => next.given { m with channel := Channel.unregisterAll m.channel }
  | .cancelAll next, m => next.given { m with channel := Channel.cancelAll m.channel }
  | .close next, m => next.given { m with channel := Channel.close m.channel }
  | .traffic next, m => (next (Channel.traffic m.channel)).given m
  | .fork child next, m => child.given m ++ next.given (child.exec m)

namespace Machine

def resumeAllGiven (m : Machine C σ) : List (Resume σ × Response) → List String
  | [] => []
  | (resume, response) :: rest =>
    (resume response).given m ++ ((resume response).exec m).resumeAllGiven rest

variable [Attended C]

/-- Something happens on the channel. -/
def feed (m : Machine C σ) (input : Attended.Input C) : Machine C σ :=
  match Attended.deliver m.channel input with
  | .answers channel answered => { m with channel := channel }.resumeAll answered
  | .hears channel handlers line back =>
    let m := { m with channel := channel }.deliver handlers line
    { m with channel := back m.channel }

/-- The commands given to the channel while that is dealt with. -/
def feedGiven (m : Machine C σ) (input : Attended.Input C) : List String :=
  match Attended.deliver m.channel input with
  | .answers channel answered => { m with channel := channel }.resumeAllGiven answered
  | .hears channel handlers line _ =>
    { m with channel := channel }.resumeAllGiven (Handler.informed handlers line)

/-- How the machine has come from `m`: such code has been started, and things have happened on the
channel. The commands are those that have been given to the channel. -/
inductive Course (code : Routine σ → Prop) (m : Machine C σ) :
    List String → Machine C σ → Prop where
  | refl : Course code m [] m
  | start {given : List String} {now : Machine C σ} (course : Course code m given now)
    (r : Routine σ) (starts : code r) : Course code m (given ++ r.given now) (r.exec now)
  | feed {given : List String} {now : Machine C σ} (course : Course code m given now)
    (input : Attended.Input C) : Course code m (given ++ now.feedGiven input) (now.feed input)

end Machine

end

section

variable {C : Type → Type} [Channel C] [Attended C]

/-- The rest of a routine keeps the state so, whenever it goes on. -/
def Resume.Keeps (kept : σ → Prop) (may : String → Prop) (resume : Resume σ) : Prop :=
  ∀ response s, kept s → (resume response).Keeps kept may kept s

/-- All who wait and all handlers keep the state so. -/
structure Machine.Attends (kept : σ → Prop) (may : String → Prop) (m : Machine C σ) : Prop where
  waiting : ∀ resume ∈ Attended.waiting m.channel, Resume.Keeps kept may resume
  handlers : ∀ h ∈ Attended.handlers m.channel, Resume.Keeps kept may h.handler

variable {kept post : σ → Prop} {may : String → Prop}

/-- Nobody waits and nobody listens. -/
theorem Machine.Attends.vacant {m : Machine C σ} (nobody : Attended.waiting m.channel = [])
    (unheard : Attended.handlers m.channel = []) : m.Attends kept may where
  waiting := by
    rw [nobody]
    exact nofun
  handlers := by
    rw [unheard]
    exact nofun

theorem Machine.Attends.lessened {m : Machine C σ} (h : m.Attends kept may) {channel : C (Resume σ)}
    (less : Attended.Lessened m.channel channel) (s : σ) :
    Machine.Attends kept may ⟨channel, s⟩ :=
  ⟨fun k hk => h.waiting k (less.waiting.subset hk), fun g hg => h.handlers g (less.handlers g hg)⟩

theorem Machine.Attends.more {m : Machine C σ} (h : m.Attends kept may) {channel : C (Resume σ)}
    {resume : Resume σ} (safe : Resume.Keeps kept may resume)
    (hwaiting : Attended.waiting channel <+ Attended.waiting m.channel ++ [resume])
    (hhandlers : Attended.handlers channel = Attended.handlers m.channel) :
    Machine.Attends kept may ⟨channel, m.state⟩ := by
  refine ⟨fun k hk => ?_, fun g hg => h.handlers g (hhandlers ▸ hg)⟩
  rcases List.mem_append.mp (hwaiting.subset hk) with hk | hk
  · exact h.waiting k hk
  · rw [List.mem_singleton.mp hk]
    exact safe

end

section

variable {C : Type → Type} [Channel C] [Attended C] [AttendedLaws C]

open Attended

theorem Routine.exec_onward (r : Routine σ) (m : Machine C σ) :
    Onward m.channel (r.given m) (r.exec m).channel := by
  induction r generalizing m with
  | done => exact .refl _
  | read next ih => exact ih m.state m
  | write s next ih => exact ih { m with state := s }
  | send command leads next ih =>
    unfold given
    cases hsent : Channel.send m.channel command leads fun response => next (some response) with
    | refused channel =>
      rw [exec_refused hsent]
      have hgiven : Onward m.channel [command] channel := by
        obtain ⟨sent, htraffic, hsent⟩ := (AttendedLaws.refused hsent).onward
        rw [List.append_nil] at hsent
        exact ⟨sent, htraffic, hsent.trans (List.sublist_append_left _ _)⟩
      exact hgiven.trans (ih none { m with channel := channel })
    | answered channel response =>
      rw [exec_answered hsent]
      exact (AttendedLaws.answered hsent).2.2.2.trans (ih _ { m with channel := channel })
    | held channel =>
      rw [exec_held hsent]
      exact (AttendedLaws.held hsent).2.2
  | register lead handler next ihh ih =>
    unfold given exec
    cases hregister : Channel.register m.channel lead handler with
    | none => exact ih none m
    | some taken =>
      exact (AttendedLaws.register hregister).2.2.trans (ih _ { m with channel := taken.2 })
  | unregisterAll next ih =>
    exact (AttendedLaws.unregisterAll m.channel).1.onward.trans (ih { m with channel := _ })
  | cancelAll next ih =>
    exact (AttendedLaws.cancelAll m.channel).1.onward.trans (ih { m with channel := _ })
  | close next ih => exact (AttendedLaws.close m.channel).onward.trans (ih { m with channel := _ })
  | traffic next ih => exact ih _ m
  | fork child next ihc ih => exact (ihc m).trans (ih _)

namespace Machine

theorem resumeAll_onward (m : Machine C σ) (answered : List (Resume σ × Response)) :
    Onward m.channel (m.resumeAllGiven answered) (m.resumeAll answered).channel := by
  induction answered generalizing m with
  | nil => exact .refl _
  | cons w rest ih => exact ((w.1 w.2).exec_onward m).trans (ih _)

theorem feed_onward (m : Machine C σ) (input : Attended.Input C) :
    Onward m.channel (m.feedGiven input) (m.feed input).channel := by
  unfold feed feedGiven
  cases hdelivered : Attended.deliver m.channel input with
  | answers channel answered =>
    exact (AttendedLaws.answers hdelivered).2.2.trans
      (resumeAll_onward { m with channel := channel } answered)
  | hears channel handlers line back =>
    obtain ⟨hlessened, -, hback⟩ := AttendedLaws.hears hdelivered
    have hheard := hlessened.onward.trans
      (resumeAll_onward { m with channel := channel } (Handler.informed handlers line))
    have hafter := hheard.trans (hback _).2.2
    rw [List.append_nil] at hafter
    exact hafter

theorem Course.onward {code : Routine σ → Prop} {m now : Machine C σ} {given : List String}
    (course : Course code m given now) : Onward m.channel given now.channel := by
  induction course with
  | refl => exact .refl _
  | start _ r _ ih => exact ih.trans (r.exec_onward _)
  | feed _ input ih => exact ih.trans (feed_onward _ input)

end Machine

/-! ## What a machine keeps -/

variable {kept post : σ → Prop} {may : String → Prop}

/-- Whatever becomes of a command, at most whoever sent it waits in addition. -/
theorem Machine.Attends.sent {m : Machine C σ} (h : m.Attends kept may) {command : String}
    {leads : List String} {resume : Resume σ} (safe : Resume.Keeps kept may resume)
    {sent : Sent (C (Resume σ))} (hsent : Channel.send m.channel command leads resume = sent) :
    Machine.Attends kept may ⟨sent.channel, m.state⟩ := by
  cases sent with
  | refused channel => exact h.lessened (AttendedLaws.refused hsent) m.state
  | answered channel response =>
    obtain ⟨hwaiting, -, hhandlers, -⟩ := AttendedLaws.answered hsent
    exact h.more safe hwaiting hhandlers
  | held channel =>
    obtain ⟨hwaiting, hhandlers, -⟩ := AttendedLaws.held hsent
    exact h.more safe hwaiting hhandlers

theorem Routine.Keeps.attends {r : Routine σ} {m : Machine C σ}
    (h : r.Keeps kept may post m.state) (attends : m.Attends kept may) :
    (r.exec m).Attends kept may ∧ ∀ command ∈ r.given m, may command := by
  induction r generalizing post m with
  | done => exact ⟨attends, nofun⟩
  | read next ih => exact ih m.state h attends
  | write s next ih =>
    exact ih (m := { m with state := s }) h ⟨attends.waiting, attends.handlers⟩
  | send command leads next ih =>
    obtain ⟨hmay, -, hnow, hlater⟩ := h
    unfold given
    cases hsent : Channel.send m.channel command leads fun response => next (some response) with
    | refused channel =>
      rw [exec_refused hsent]
      obtain ⟨hattends, hgiven⟩ := ih none (m := { m with channel := channel }) (hnow none)
        (attends.sent hlater hsent)
      exact ⟨hattends, List.forall_mem_cons.mpr ⟨hmay, hgiven⟩⟩
    | answered channel response =>
      rw [exec_answered hsent]
      obtain ⟨hattends, hgiven⟩ := ih _ (m := { m with channel := channel }) (hnow (some response))
        (attends.sent hlater hsent)
      exact ⟨hattends, List.forall_mem_cons.mpr ⟨hmay, hgiven⟩⟩
    | held channel =>
      rw [exec_held hsent]
      exact ⟨attends.sent hlater hsent, List.forall_mem_cons.mpr ⟨hmay, nofun⟩⟩
  | register lead handler next ihh ih =>
    unfold given Routine.exec
    cases hregister : Channel.register m.channel lead handler with
    | none => exact ih none (h.2 none) attends
    | some taken =>
      obtain ⟨hwaiting, hhandlers, -⟩ := AttendedLaws.register hregister
      refine ih _ (m := { m with channel := taken.2 }) (h.2 _) ⟨fun k hk => ?_, fun g hg => ?_⟩
      · exact attends.waiting k (hwaiting ▸ hk)
      · rw [hhandlers] at hg
        rcases List.mem_append.mp hg with hg | hg
        · exact attends.handlers g hg
        · rw [List.mem_singleton.mp hg]
          exact h.1
  | unregisterAll next ih =>
    exact ih (m := { m with channel := _ }) h
      (attends.lessened (AttendedLaws.unregisterAll m.channel).1 m.state)
  | cancelAll next ih =>
    exact ih (m := { m with channel := _ }) h
      (attends.lessened (AttendedLaws.cancelAll m.channel).1 m.state)
  | close next ih =>
    exact ih (m := { m with channel := _ }) h
      (attends.lessened (AttendedLaws.close m.channel) m.state)
  | traffic next ih => exact ih _ (h _) attends
  | fork child next ihc ih =>
    have hkeeps : child.Keeps kept may (fun s => next.Keeps kept may post s) m.state := h
    obtain ⟨hchild, hchildGiven⟩ := ihc hkeeps attends
    obtain ⟨hnext, hnextGiven⟩ := ih hkeeps.exec hchild
    exact ⟨hnext, List.forall_mem_append.mpr ⟨hchildGiven, hnextGiven⟩⟩

namespace Machine

/-- One last command, after which the state is kept and nothing else is sent. -/
theorem exec_last {m : Machine C σ} (keeps : kept m.state) (attends : m.Attends kept fun _ => False)
    {command : String} {leads : List String} {next : Option Response → Routine σ}
    (last : ∀ answer s, kept s → (next answer).Keeps kept (fun _ => False) kept s) :
    let r := Routine.send command leads next
    kept (r.exec m).state ∧ (r.exec m).Attends kept (fun _ => False) ∧ r.given m = [command] := by
  have hnone (given : List String) (h : ∀ command ∈ given, False) : command :: given = [command] :=
    congrArg (command :: ·) (List.eq_nil_iff_forall_not_mem.mpr h)
  have hlater : Resume.Keeps kept (fun _ => False) fun response => next (some response) :=
    fun response => last (some response)
  unfold Routine.given
  dsimp only
  cases hsent : Channel.send m.channel command leads fun response => next (some response) with
  | refused channel =>
    rw [Routine.exec_refused hsent]
    have hnow : (next none).Keeps kept (fun _ => False) kept
        (⟨channel, m.state⟩ : Machine C σ).state := last none m.state keeps
    obtain ⟨hattends, hgiven⟩ := hnow.attends (attends.sent hlater hsent)
    exact ⟨hnow.exec, hattends, hnone _ hgiven⟩
  | answered channel response =>
    rw [Routine.exec_answered hsent]
    have hnow : (next (some response)).Keeps kept (fun _ => False) kept
        (⟨channel, m.state⟩ : Machine C σ).state := last (some response) m.state keeps
    obtain ⟨hattends, hgiven⟩ := hnow.attends (attends.sent hlater hsent)
    exact ⟨hnow.exec, hattends, hnone _ hgiven⟩
  | held channel =>
    rw [Routine.exec_held hsent]
    exact ⟨keeps, attends.sent hlater hsent, hnone _ nofun⟩

theorem resumeAll_attends {m : Machine C σ} (keeps : kept m.state) (attends : m.Attends kept may)
    {answered : List (Resume σ × Response)} (safe : ∀ w ∈ answered, Resume.Keeps kept may w.1) :
    kept (m.resumeAll answered).state ∧ (m.resumeAll answered).Attends kept may ∧
      ∀ command ∈ m.resumeAllGiven answered, may command := by
  induction answered generalizing m with
  | nil => exact ⟨keeps, attends, nofun⟩
  | cons w rest ih =>
    obtain ⟨hw, hrest⟩ := List.forall_mem_cons.mp safe
    have hfirst := hw w.2 m.state keeps
    obtain ⟨hattends, hgiven⟩ := hfirst.attends attends
    obtain ⟨hkept, hattends', hgiven'⟩ := ih hfirst.exec hattends hrest
    exact ⟨hkept, hattends', List.forall_mem_append.mpr ⟨hgiven, hgiven'⟩⟩

/-- Whatever happens on the channel. -/
theorem feed_attends {m : Machine C σ} (keeps : kept m.state) (attends : m.Attends kept may)
    (input : Attended.Input C) :
    kept (m.feed input).state ∧ (m.feed input).Attends kept may ∧
      ∀ command ∈ m.feedGiven input, may command := by
  unfold feed feedGiven
  cases hdelivered : Attended.deliver m.channel input with
  | answers channel answered =>
    obtain ⟨hwaiting, hhandlers, -⟩ := AttendedLaws.answers hdelivered
    refine resumeAll_attends (m := { m with channel := channel }) keeps
      ⟨fun k hk => ?_, fun g hg => attends.handlers g (hhandlers ▸ hg)⟩ fun w hw => ?_
    · exact attends.waiting k (hwaiting.subset (List.mem_append_right _ hk))
    · exact attends.waiting w.1
        (hwaiting.subset (List.mem_append_left _ (List.mem_map_of_mem hw)))
  | hears channel handlers line back =>
    obtain ⟨hlessened, hhandlers, hback⟩ := AttendedLaws.hears hdelivered
    have hsafe : ∀ w ∈ Handler.informed handlers line, Resume.Keeps kept may w.1 := by
      intro w hw
      obtain ⟨g, hg, rfl⟩ := List.mem_map.mp hw
      exact attends.handlers g (hhandlers g (List.mem_filter.mp hg).1)
    obtain ⟨hkept, hattends, hgiven⟩ := resumeAll_attends (m := { m with channel := channel }) keeps
      (attends.lessened hlessened m.state) hsafe
    refine ⟨hkept, ⟨fun k hk => ?_, fun g hg => ?_⟩, hgiven⟩
    · exact hattends.waiting k ((hback _).1 ▸ hk)
    · rcases (hback _).2.1 g hg with hg | hg
      · exact attends.handlers g hg
      · exact hattends.handlers g hg

/-- What all the code that is started keeps, is kept whatever happens. -/
theorem Course.attends {code : Routine σ → Prop}
    (safe : ∀ r, code r → ∀ s, kept s → r.Keeps kept may kept s) {m now : Machine C σ}
    {given : List String} (course : Course code m given now) (keeps : kept m.state)
    (attends : m.Attends kept may) :
    kept now.state ∧ now.Attends kept may ∧ ∀ command ∈ given, may command := by
  induction course with
  | refl => exact ⟨keeps, attends, nofun⟩
  | start _ r starts ih =>
    obtain ⟨hkept, hattends, hgiven⟩ := ih
    have hr := safe r starts _ hkept
    obtain ⟨hattends', hgiven'⟩ := hr.attends hattends
    exact ⟨hr.exec, hattends', List.forall_mem_append.mpr ⟨hgiven, hgiven'⟩⟩
  | feed _ input ih =>
    obtain ⟨hkept, hattends, hgiven⟩ := ih
    obtain ⟨hkept', hattends', hgiven'⟩ := feed_attends hkept hattends input
    exact ⟨hkept', hattends', List.forall_mem_append.mpr ⟨hgiven, hgiven'⟩⟩

end Machine

end

end CellModem
