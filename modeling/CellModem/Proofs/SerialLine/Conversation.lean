import Mathlib.Data.List.Induction
import CellModem.Proofs.SerialLine.Moment

/-!
# The modem's side of a log

The modem answers the commands on the wire in order, each with one final line at the end. So a line
that comes in belongs to the first command whose final line has not come, and to no command when
there is none.
-/

namespace CellModem.SerialPort

structure Conversation where
  /-- The commands on the wire whose final line has not come, in order. -/
  owed : List Nat
  /-- The commands on the wire that the port gave up. -/
  abandoned : List Nat
  /-- The lines of the modem, each with the command it belongs to. -/
  produced : List (Nat × String)

namespace Conversation

/-- A line belongs to the first command that is owed its final line. -/
def take (c : Conversation) (text : String) : Conversation :=
  match c.owed with
  | [] => c
  | n :: owed =>
    { c with
      owed := if isFinal text then owed else n :: owed
      produced := c.produced ++ [(n, text)] }

def hear (c : Conversation) : Occurrence → Conversation
  | .attempted ⟨p, none⟩ => { c with owed := c.owed ++ [p.waiting] }
  | .attempted ⟨p, some .flush⟩ =>
    { c with owed := c.owed ++ [p.waiting], abandoned := c.abandoned ++ [p.waiting] }
  | .line text => c.take text
  | .cancelled | .closed => { c with abandoned := c.abandoned ++ c.owed }
  | .attempted ⟨_, some .write⟩ | .accepted _ | .completed .. => c

def answerTo (c : Conversation) (n : Nat) : List String := (c.produced.filter (·.1 = n)).map (·.2)

theorem take_free {c : Conversation} (h : c.owed = []) (text : String) : c.take text = c := by
  simp [take, h]

theorem take_owed {c : Conversation} {n : Nat} {owed : List Nat} (h : c.owed = n :: owed)
    (text : String) :
    c.take text = { c with
      owed := if isFinal text then owed else n :: owed
      produced := c.produced ++ [(n, text)] } := by
  simp [take, h]

end Conversation

/-- What the modem has heard and said in the course of a log. -/
def conversation (log : List Occurrence) : Conversation := log.foldl .hear ⟨[], [], []⟩

/-- Every occurrence of a log fits what was said before it. -/
def Always (P : Conversation → Occurrence → Prop) (log : List Occurrence) : Prop :=
  ∀ before o after, log = before ++ o :: after → P (conversation before) o

/-- Whether a final line has come. -/
def Occurrence.isEnd : Occurrence → Bool
  | .line text => isFinal text
  | _ => false

/-- Whether a command has been written, even if it could not be pushed out. -/
def Occurrence.isWrite : Occurrence → Bool
  | .attempted a => a.fault ≠ some .write
  | _ => false

/-- A final line comes only when one is owed. -/
def Answering : List Occurrence → Prop := Always fun c o => o.isEnd → c.owed ≠ []

/-- A command is written only when the final lines of all commands before it have come. -/
def InOrder : List Occurrence → Prop := Always fun c o => o.isWrite → c.owed = []

/-- No command is written while the final line of a command that was given up is owed. -/
def Unorphaned : List Occurrence → Prop := Always fun c o => o.isWrite →
  ∀ n ∈ c.owed, n ∉ c.abandoned

/-- A command that got on the line is completed with the lines that belong to it. -/
def Attributed (log : List Occurrence) : Prop :=
  ∀ done ∈ completed log, ∀ a ∈ attempted log, a.pending.waiting = done.1 → a.fault = none →
    firstAnswer a.pending.leads ((conversation log).answerTo done.1) = some done.2

theorem conversation_append (log more : List Occurrence) :
    conversation (log ++ more) = more.foldl .hear (conversation log) :=
  List.foldl_append

theorem conversation_concat (log : List Occurrence) (o : Occurrence) :
    conversation (log ++ [o]) = (conversation log).hear o :=
  conversation_append log [o]

theorem always_concat {P : Conversation → Occurrence → Prop} {log : List Occurrence}
    {o : Occurrence} : Always P (log ++ [o]) ↔ Always P log ∧ P (conversation log) o := by
  constructor
  · intro h
    refine ⟨fun before o' after hlog => h before o' (after ++ [o]) ?_, h log o [] rfl⟩
    rw [hlog, List.append_assoc, List.cons_append]
  · rintro ⟨hlog, ho⟩ before o' after heq
    rcases List.eq_nil_or_concat after with rfl | ⟨after, last, rfl⟩
    · obtain ⟨rfl, hlast⟩ := List.append_inj' heq rfl
      obtain rfl := List.head_eq_of_cons_eq hlast
      exact ho
    · have hassoc : before ++ o' :: (after ++ [last]) = (before ++ o' :: after) ++ [last] := by simp
      rw [List.concat_eq_append, hassoc] at heq
      obtain ⟨rfl, -⟩ := List.append_inj' heq rfl
      exact hlog before o' after rfl

theorem always_nil {P : Conversation → Occurrence → Prop} : Always P [] := by
  intro before o after h
  cases before <;> cases h

theorem always_iff_take {P : Conversation → Occurrence → Prop} {log : List Occurrence} :
    Always P log ↔ ∀ i : Fin log.length, P (conversation (log.take i)) log[i] := by
  constructor
  · intro h i
    refine h (log.take i) log[i] (log.drop (i + 1)) ?_
    have hdrop := List.drop_eq_getElem_cons i.isLt
    exact ((congrArg (log.take i ++ ·) hdrop).symm.trans (List.take_append_drop i log)).symm
  · intro h before o after hlog
    subst hlog
    simpa using h ⟨before.length, by simp⟩

instance {P : Conversation → Occurrence → Prop} [∀ c o, Decidable (P c o)]
    (log : List Occurrence) : Decidable (Always P log) :=
  decidable_of_iff _ always_iff_take.symm

/-! ## Which command a line belongs to -/

theorem mem_owed_hear {c : Conversation} {o : Occurrence} {n : Nat} (h : n ∈ (c.hear o).owed) :
    n ∈ c.owed ∨ n ∈ (attempted [o]).map (·.pending.waiting) := by
  cases o with
  | attempted a =>
    obtain ⟨p, _ | _ | _⟩ := a
    · simpa [Conversation.hear] using h
    · exact .inl h
    · simpa [Conversation.hear] using h
  | line text =>
    left
    rw [Conversation.hear] at h
    cases howed : c.owed with
    | nil =>
      rw [Conversation.take_free howed, howed] at h
      exact h
    | cons m owed =>
      rw [Conversation.take_owed howed] at h
      dsimp only at h
      split at h
      · exact List.mem_cons_of_mem _ h
      · exact h
  | accepted | completed | cancelled | closed => exact .inl h

theorem mem_produced_hear {c : Conversation} {o : Occurrence} {n : Nat} {text : String}
    (h : (n, text) ∈ (c.hear o).produced) : (n, text) ∈ c.produced ∨ n ∈ c.owed := by
  cases o with
  | attempted a =>
    obtain ⟨p, _ | _ | _⟩ := a
    all_goals exact .inl h
  | line text' =>
    rw [Conversation.hear] at h
    cases howed : c.owed with
    | nil =>
      rw [Conversation.take_free howed] at h
      exact .inl h
    | cons m owed =>
      rw [Conversation.take_owed howed] at h
      rcases List.mem_append.mp h with h | h
      · exact .inl h
      · obtain ⟨rfl, -⟩ := Prod.mk.inj (List.mem_singleton.mp h)
        exact .inr List.mem_cons_self
  | accepted | completed | cancelled | closed => exact .inl h

theorem conversation_attempted (log : List Occurrence) :
    (∀ n ∈ (conversation log).owed, n ∈ (attempted log).map (·.pending.waiting)) ∧
      ∀ n text, (n, text) ∈ (conversation log).produced →
        n ∈ (attempted log).map (·.pending.waiting) := by
  induction log using List.reverseRecOn with
  | nil => exact ⟨by rintro n ⟨⟩, by rintro n text ⟨⟩⟩
  | append_singleton log o ih =>
    obtain ⟨howed, hproduced⟩ := ih
    rw [conversation_concat, attempted_append, List.map_append]
    refine ⟨fun n hn => ?_, fun n text hn => ?_⟩
    · rw [List.mem_append]
      exact (mem_owed_hear hn).imp (howed n) id
    · refine List.mem_append_left _ ?_
      exact (mem_produced_hear hn).elim (hproduced n text) (howed n)

theorem answerTo_unattempted {log : List Occurrence} {n : Nat}
    (h : n ∉ (attempted log).map (·.pending.waiting)) : (conversation log).answerTo n = [] := by
  have hnone : (conversation log).produced.filter (·.1 = n) = [] := by
    rw [List.filter_eq_nil_iff]
    rintro ⟨m, text⟩ hmem heq
    rw [← of_decide_eq_true heq] at h
    exact h ((conversation_attempted log).2 m text hmem)
  rw [Conversation.answerTo, hnone]
  rfl

/-! ## Commands in order -/

/-- A command on the line is owed alone, and all lines since it was written are its own; or its final
line has come, and it has the lines up to there. -/
def Told (log : List Occurrence) (n : Nat) : Prop :=
  ((conversation log).owed = [n] ∧ since n log = (conversation log).answerTo n) ∨
    (n ∉ (conversation log).owed ∧ ∃ more, since n log = (conversation log).answerTo n ++ more ∧
      ∃ line ∈ (conversation log).answerTo n, isFinal line = true)

theorem Told.quiet {log : List Occurrence} {n : Nat} (h : Told log n) (written : n ∈ written log)
    {o : Occurrence} (owed : ((conversation log).hear o).owed = (conversation log).owed)
    (produced : ((conversation log).hear o).produced = (conversation log).produced)
    (quiet : received [o] = []) : Told (log ++ [o]) n := by
  unfold Told Conversation.answerTo at h ⊢
  rw [conversation_concat, since_append written, quiet, List.append_nil, owed, produced]
  exact h

theorem Told.behind {log : List Occurrence} {n : Nat} (h : Told log n) (written : n ∈ written log)
    (owed : (conversation log).owed = []) {a : Attempt Nat} (other : n ≠ a.pending.waiting) :
    Told (log ++ [.attempted a]) n := by
  rcases h with ⟨halone, -⟩ | ⟨hpaid, hanswer⟩
  · rw [owed] at halone
    cases halone
  · right
    rw [conversation_concat, since_append written, received_singleton, List.append_nil]
    obtain ⟨p, _ | _ | _⟩ := a
    · refine ⟨?_, hanswer⟩
      simpa [Conversation.hear, owed] using other
    · exact ⟨hpaid, hanswer⟩
    · refine ⟨?_, hanswer⟩
      simpa [Conversation.hear, owed] using other

theorem Told.line {log : List Occurrence} {n : Nat} (h : Told log n) (written : n ∈ written log)
    (text : String) : Told (log ++ [.line text]) n := by
  unfold Told at h ⊢
  rw [conversation_concat, since_append written, received_singleton, Conversation.hear]
  cases howed : (conversation log).owed with
  | nil =>
    rw [howed] at h
    rw [Conversation.take_free howed, howed]
    rcases h with ⟨halone, -⟩ | ⟨hpaid, more, hsince, hfinal⟩
    · cases halone
    · exact .inr ⟨hpaid, more ++ [text], by rw [hsince, List.append_assoc], hfinal⟩
  | cons m owed =>
    rw [howed] at h
    rw [Conversation.take_owed howed]
    rcases h with ⟨halone, hsince⟩ | ⟨hpaid, more, hsince, hfinal⟩
    · obtain ⟨rfl, rfl⟩ := List.cons.inj halone
      have hanswer : Conversation.answerTo { conversation log with
          owed := if isFinal text then [] else [m]
          produced := (conversation log).produced ++ [(m, text)] } m
            = (conversation log).answerTo m ++ [text] := by
        simp [Conversation.answerTo]
      rw [hanswer]
      by_cases hend : isFinal text
      · refine .inr ⟨by simp [hend], [], by rw [hsince, List.append_nil], text, ?_, hend⟩
        exact List.mem_append_right _ (List.mem_singleton_self text)
      · exact .inl ⟨by simp [hend], by rw [hsince]⟩
    · have hm : m ≠ n := fun heq => hpaid (heq ▸ List.mem_cons_self)
      have hanswer : Conversation.answerTo { conversation log with
          owed := if isFinal text then owed else m :: owed
          produced := (conversation log).produced ++ [(m, text)] } n
            = (conversation log).answerTo n := by
        simp [Conversation.answerTo, hm]
      rw [hanswer]
      refine .inr ⟨?_, more ++ [text], by rw [hsince, List.append_assoc], hfinal⟩
      dsimp only
      split
      · exact fun hmem => hpaid (List.mem_cons_of_mem _ hmem)
      · exact hpaid

theorem InOrder.told {log : List Occurrence} (order : InOrder log)
    (nodup : ((attempted log).map (·.pending.waiting)).Nodup) {n : Nat} (h : n ∈ written log) :
    Told log n := by
  induction log using List.reverseRecOn with
  | nil => cases h
  | append_singleton log o ih =>
    obtain ⟨horder, ho⟩ := always_concat.mp order
    rw [attempted_append, List.map_append] at nodup
    have hold := ih horder (List.nodup_append.mp nodup).1
    cases o with
    | attempted a =>
      by_cases hbefore : n ∈ written log
      · have hother : n ≠ a.pending.waiting := by
          obtain ⟨b, hb, -, rfl⟩ := mem_written.mp hbefore
          exact (List.nodup_append.mp nodup).2.2 _ (List.mem_map_of_mem hb) _ (by simp)
        by_cases hwrite : a.fault = some .write
        · obtain ⟨p, fault⟩ := a
          obtain rfl : fault = some .write := hwrite
          exact (hold hbefore).quiet hbefore rfl rfl rfl
        · exact (hold hbefore).behind hbefore (ho (by simp [Occurrence.isWrite, hwrite])) hother
      · -- The command has just been put on the line.
        have hnew : a.fault = none ∧ a.pending.waiting = n := by
          rw [written_append] at h
          have h' := (List.mem_append.mp h).resolve_left hbefore
          simpa [mem_written] using h'
        obtain ⟨p, fault⟩ := a
        obtain ⟨rfl, rfl⟩ := hnew
        have hunattempted : p.waiting ∉ (attempted log).map (·.pending.waiting) := fun hmem =>
          (List.nodup_append.mp nodup).2.2 _ hmem _ (by simp) rfl
        have howed := ho (by simp [Occurrence.isWrite])
        refine .inl ⟨?_, ?_⟩
        · rw [conversation_concat, Conversation.hear, howed]
          rfl
        · rw [since_attempted hbefore, conversation_concat]
          exact (answerTo_unattempted hunattempted).symm
    | line text =>
      have hbefore : n ∈ written log := by simpa [written] using h
      exact (hold hbefore).line hbefore text
    | accepted | completed | cancelled | closed =>
      have hbefore : n ∈ written log := by simpa [written] using h
      exact (hold hbefore).quiet hbefore rfl rfl rfl

/-- A command that was told everything has the same first answer in its own lines as in all lines
since it was written. -/
theorem Told.firstAnswer {log : List Occurrence} {n : Nat} (h : Told log n) {leads : List String}
    {r : Response} (answer : firstAnswer leads (since n log) = some r) :
    firstAnswer leads ((conversation log).answerTo n) = some r := by
  rcases h with ⟨-, hsince⟩ | ⟨-, more, hsince, line, hline, hfinal⟩
  · rwa [← hsince]
  · cases hanswer : SerialPort.firstAnswer leads ((conversation log).answerTo n) with
    | none => exact absurd hanswer (firstAnswer_ne_none hline hfinal)
    | some r' =>
      have hmore := firstAnswer_append hanswer more
      rw [← hsince, answer] at hmore
      rw [hmore]

end CellModem.SerialPort
