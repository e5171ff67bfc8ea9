import Mathlib.Data.List.Basic
import Mathlib.Logic.Function.Iterate
import Mathlib.Tactic.TFAE
import CellModem.Proofs.Decoding.Fields

/-!
# Where calls leave the place in a line

The commas of a text cut it into fields, except those between quotes, and only a quote with nothing
but blanks before it in its field opens a quoted part. Every call takes the place to the next of
these fields, whatever the call makes of the one it consumes. There is one exception: behind a
quoted part that is followed by more than blanks the rest of the line is lost.
-/

namespace CellModem

namespace Fields

/-! ## The fields of a text -/

/-- What has been seen of a field: blanks at most, the quote that opens its quoted part, or else. -/
inductive Seen where
  | blanks
  | quote
  | more
  deriving DecidableEq

def Seen.next (seen : Seen) (c : Char) : Seen :=
  match seen with
  | .blanks => if c = '"' then .quote else if Text.isBlank c then .blanks else .more
  | .quote => if c = '"' then .more else .quote
  | .more => .more

/-- The fields of a text. Of the first of them something has been seen already. -/
def cut : Seen → List Char → List (List Char)
  | _, [] => [[]]
  | seen, c :: text =>
    if c = ',' ∧ seen ≠ .quote then [] :: cut .blanks text
    else (cut (seen.next c) text).modifyHead (c :: ·)

def cutRest (rest : Option (List Char)) : List (List Char) := rest.elim [] (cut .blanks)

/-- The text that the fields have been cut from. -/
def joined : List (List Char) → Option (List Char)
  | [] => none
  | field :: fields => some (field ++ tail (joined fields))

/-- In front of the field with this number. -/
def atField (text : String) (number : Nat) : Fields :=
  ⟨joined ((cut .blanks text.toList).drop number), min number (cut .blanks text.toList).length⟩

/-- Behind the quoted part of the field there is more than blanks. -/
def Overruns (field : List Char) : Prop :=
  ∃ blanks part behind, field = blanks ++ '"' :: (part ++ '"' :: behind) ∧
    (∀ c ∈ blanks, Text.isBlank c = true) ∧ '"' ∉ part ∧ ∃ c ∈ behind, Text.isBlank c = false

theorem cut_ne_nil (seen : Seen) (text : List Char) : cut seen text ≠ [] := by
  induction text generalizing seen with
  | nil => exact List.cons_ne_nil _ _
  | cons c text ih =>
    rw [cut]
    split
    · exact List.cons_ne_nil _ _
    · simp [ih]

/-- Nothing is lost by cutting. -/
theorem joined_cut (seen : Seen) (text : List Char) : joined (cut seen text) = some text := by
  induction text generalizing seen with
  | nil => rfl
  | cons c text ih =>
    rw [cut]
    split
    · next h => rw [joined, ih, List.nil_append, tail, h.1]
    · have hrest := ih (seen.next c)
      cases hcut : cut (seen.next c) text with
      | nil => exact absurd hcut (cut_ne_nil _ _)
      | cons field fields =>
        rw [hcut, joined] at hrest
        rw [List.modifyHead_cons, joined, List.cons_append, Option.some.inj hrest]

theorem joined_cutRest (rest : Option (List Char)) : joined (cutRest rest) = rest := by
  cases rest with
  | none => rfl
  | some text => exact joined_cut .blanks text

theorem joined_eq_none_iff {fields : List (List Char)} : joined fields = none ↔ fields = [] := by
  cases fields <;> simp [joined]

/-! ### Parts of a field -/

theorem cut_blanks {blanks : List Char} (h : ∀ c ∈ blanks, Text.isBlank c = true)
    (text : List Char) :
    cut .blanks (blanks ++ text) = (cut .blanks text).modifyHead (blanks ++ ·) := by
  induction blanks with
  | nil => exact (congrFun List.modifyHead_id (cut .blanks text)).symm
  | cons c blanks ih =>
    simp only [List.forall_mem_cons] at h
    have hcomma : c ≠ ',' := by
      rintro rfl
      exact absurd h.1 (by decide)
    have hquote : c ≠ '"' := by
      rintro rfl
      exact absurd h.1 (by decide)
    simp [cut, Seen.next, hcomma, hquote, h.1, ih h.2, Function.comp_def]

theorem cut_unclosed {part : List Char} (h : '"' ∉ part) : cut .quote part = [part] := by
  induction part with
  | nil => rfl
  | cons c part ih =>
    simp only [List.mem_cons, not_or] at h
    simp [cut, Seen.next, Ne.symm h.1, ih h.2]

theorem cut_quoted {part : List Char} (h : '"' ∉ part) (behind : List Char) :
    cut .quote (part ++ '"' :: behind)
      = (cut .more behind).modifyHead (part ++ '"' :: ·) := by
  induction part with
  | nil => simp [cut, Seen.next]
  | cons c part ih =>
    simp only [List.mem_cons, not_or] at h
    simp [cut, Seen.next, Ne.symm h.1, ih h.2, Function.comp_def]

theorem cut_more {text : List Char} (h : ',' ∉ text) (behind : Option (List Char)) :
    cut .more (text ++ tail behind) = text :: cutRest behind := by
  induction text with
  | nil => cases behind <;> simp [cut, cutRest, tail]
  | cons c text ih =>
    simp only [List.mem_cons, not_or] at h
    simp [cut, Seen.next, Ne.symm h.1, ih h.2]

/-! ### Kinds of fields -/

/-- What a field can look like that has the rest of the text behind it. -/
inductive First : List Char → Option (List Char) → Prop where
  | plain {blanks body : List Char} (blank : ∀ c ∈ blanks, Text.isBlank c = true)
    (bare : ∀ c ∈ body.head?, Text.isBlank c = false ∧ c ≠ '"') (comma : ',' ∉ body)
    (rest : Option (List Char)) : First (blanks ++ body) rest
  | quoted {blanks part behind : List Char} (blank : ∀ c ∈ blanks, Text.isBlank c = true)
    (quote : '"' ∉ part) (comma : ',' ∉ behind) (rest : Option (List Char)) :
    First (blanks ++ '"' :: (part ++ '"' :: behind)) rest
  | unclosed {blanks part : List Char} (blank : ∀ c ∈ blanks, Text.isBlank c = true)
    (quote : '"' ∉ part) : First (blanks ++ '"' :: part) none

/-- A text has a first mark, or none. -/
theorem exists_mark (mark : Char) (text : List Char) : ∃ before, mark ∉ before ∧
    (text = before ∨ ∃ behind, text = before ++ mark :: behind) := by
  by_cases h : mark ∈ text
  · obtain ⟨before, behind, hsplit, hbefore⟩ := List.eq_append_cons_of_mem h
    exact ⟨before, hbefore, .inr ⟨behind, hsplit⟩⟩
  · exact ⟨text, h, .inl rfl⟩

theorem exists_comma (text : List Char) :
    ∃ before rest, ',' ∉ before ∧ text = before ++ tail rest := by
  obtain ⟨before, hbefore, rfl | ⟨behind, rfl⟩⟩ := exists_mark ',' text
  · exact ⟨text, none, hbefore, (List.append_nil text).symm⟩
  · exact ⟨before, some behind, hbefore, rfl⟩

theorem exists_blanks (text : List Char) : ∃ blanks body, text = blanks ++ body ∧
    (∀ c ∈ blanks, Text.isBlank c = true) ∧ ∀ c ∈ body.head?, Text.isBlank c = false := by
  refine ⟨text.takeWhile Text.isBlank, text.dropWhile Text.isBlank,
    List.takeWhile_append_dropWhile.symm, fun c => List.mem_takeWhile_imp, fun c hc => ?_⟩
  have hfirst := List.head?_dropWhile_not Text.isBlank text
  rwa [Option.mem_def.mp hc] at hfirst

theorem exists_first (text : List Char) : ∃ field rest, First field rest ∧
    text = field ++ tail rest := by
  obtain ⟨blanks, body, rfl, hblank, hbare⟩ := exists_blanks text
  by_cases hquote : body.head? = some '"'
  · obtain ⟨body, rfl⟩ := List.head?_eq_some_iff.mp hquote
    obtain ⟨part, hpart, rfl | ⟨behind, rfl⟩⟩ := exists_mark '"' body
    · exact ⟨_, none, .unclosed hblank hpart, (List.append_nil _).symm⟩
    · obtain ⟨more, rest, hmore, rfl⟩ := exists_comma behind
      exact ⟨_, rest, .quoted hblank hpart hmore rest, by simp⟩
  · obtain ⟨field, rest, hfield, rfl⟩ := exists_comma body
    refine ⟨blanks ++ field, rest, .plain hblank (fun c hc => ?_) hfield rest, by simp⟩
    have hhead : (field ++ tail rest).head? = some c := List.mem_head?_append_of_mem_head? hc
    refine ⟨hbare c hhead, ?_⟩
    rintro rfl
    exact hquote hhead

theorem cut_first {field : List Char} {rest : Option (List Char)} (h : First field rest) :
    cut .blanks (field ++ tail rest) = field :: cutRest rest := by
  cases h with
  | @plain blanks body blank bare comma rest =>
    rw [List.append_assoc, cut_blanks blank]
    cases body with
    | nil => cases rest <;> simp [cut, cutRest, tail]
    | cons c body =>
      obtain ⟨hblank, hquote⟩ := bare c rfl
      simp only [List.mem_cons, not_or] at comma
      simp [cut, Seen.next, Ne.symm comma.1, hblank, hquote, cut_more comma.2]
  | quoted blank quote comma rest =>
    simp [cut_blanks blank, cut, Seen.next, cut_quoted quote, cut_more comma]
  | unclosed blank quote =>
    simp [cut_blanks blank, cut, Seen.next, cut_unclosed quote, cutRest, tail]

/-- Every text begins with its first field. -/
theorem exists_cut (text : List Char) : ∃ field rest, First field rest ∧
    text = field ++ tail rest ∧ cutRest (some text) = field :: cutRest rest := by
  obtain ⟨field, rest, hfirst, rfl⟩ := exists_first text
  exact ⟨field, rest, hfirst, rfl, cut_first hfirst⟩

/-! ## One call -/

theorem quote_bare (text : List Char) : ∀ c ∈ ('"' :: text).head?, Text.isBlank c = false := by
  simp [show Text.isBlank '"' = false from by decide]

theorem overruns_iff {field : List Char} : Overruns field ↔ ∃ body part behind,
    Text.trimStart field = '"' :: body ∧ cutAt '"' body = (part, some behind) ∧
      ∃ c ∈ behind, Text.isBlank c = false := by
  constructor
  · rintro ⟨blanks, part, behind, rfl, hblank, hquote, hmore⟩
    exact ⟨_, part, behind, trimStart_append hblank (quote_bare _), cutAt_append hquote behind,
      hmore⟩
  · rintro ⟨body, part, behind, htrim, hcut, hmore⟩
    obtain ⟨blanks, body', rfl, hblank, hbare⟩ := exists_blanks field
    rw [trimStart_append hblank hbare] at htrim
    obtain ⟨part', hpart, rfl | ⟨behind', rfl⟩⟩ := exists_mark '"' body
    · simp [cutAt_of_not_mem hpart] at hcut
    · obtain ⟨-, rfl⟩ : part' = part ∧ behind' = behind := by
        simpa [cutAt_append hpart] using hcut
      exact ⟨blanks, part', behind', by rw [htrim], hblank, hpart, hmore⟩

instance : DecidablePred Overruns := fun field =>
  decidable_of_iff ((match Text.trimStart field with
    | '"' :: body => (cutAt '"' body).2.any fun behind => behind.any fun c => !Text.isBlank c
    | _ => false) = true) <| by
  rw [overruns_iff]
  split
  · next body htrim =>
    rcases hcut : cutAt '"' body with ⟨part, _ | behind⟩ <;> simp [htrim, hcut]
  · next hquote =>
    simp only [Bool.false_eq_true, false_iff, not_exists, not_and]
    exact fun body _ _ htrim => absurd htrim (hquote body)

theorem bare_tail {body : List Char} (bare : ∀ c ∈ body.head?, Text.isBlank c = false)
    (rest : Option (List Char)) : ∀ c ∈ (body ++ tail rest).head?, Text.isBlank c = false := by
  cases body with
  | nil => exact tail_head rest
  | cons c body => exact bare

theorem afterComma?_more {text : List Char} (h : ∃ c ∈ text, Text.isBlank c = false)
    (comma : ',' ∉ text) (rest : Option (List Char)) : afterComma? (text ++ tail rest) = none := by
  obtain ⟨blanks, body, rfl, hblank, hbare⟩ := exists_blanks text
  rw [afterComma?, List.append_assoc, trimStart_append hblank (bare_tail hbare rest)]
  cases body with
  | nil =>
    obtain ⟨c, hc, hmore⟩ := h
    rw [hblank c (by simpa using hc)] at hmore
    cases hmore
  | cons c body =>
    simp only [List.mem_append, List.mem_cons, not_or] at comma
    simp [Text.dropLead?, comma.2.1]

theorem splitField_bare {text body : List Char} (trimmed : Text.trimStart text = body)
    (bare : body.head? ≠ some '"') : (splitField text).2 = (cutAt ',' body).2 := by
  rw [splitField, trimmed]
  split
  · exact absurd rfl bare
  · rfl

theorem splitField_quote {text body : List Char} (trimmed : Text.trimStart text = '"' :: body) :
    (splitField text).2 = (cutAt '"' body).2.bind afterComma? := by
  unfold splitField
  rw [trimmed]
  rcases hcut : cutAt '"' body with ⟨part, _ | behind⟩ <;> simp [hcut]

/-- The rest of the text is lost behind a field that overruns. -/
theorem splitField_first {field : List Char} {rest : Option (List Char)} (h : First field rest) :
    (¬ Overruns field → (splitField (field ++ tail rest)).2 = rest) ∧
      (Overruns field → (splitField (field ++ tail rest)).2 = none) := by
  cases h with
  | @plain blanks body blank bare comma rest =>
    have hbare : ∀ c ∈ body.head?, Text.isBlank c = false := fun c hc => (bare c hc).1
    have hfree : ¬ Overruns (blanks ++ body) := by
      intro hover
      obtain ⟨body', part, behind, htrim, -⟩ := overruns_iff.mp hover
      rw [trimStart_append blank hbare] at htrim
      exact (bare '"' (by rw [htrim]; rfl)).2 rfl
    have htrim := trimStart_append blank (bare_tail hbare rest)
    rw [← List.append_assoc] at htrim
    refine ⟨fun _ => ?_, fun hover => absurd hover hfree⟩
    rw [splitField_bare htrim, cutAt_tail comma]
    cases body with
    | nil => cases rest <;> simp [tail]
    | cons c body => simpa using (bare c rfl).2
  | @quoted blanks part behind blank quote comma rest =>
    have htrim := trimStart_append blank (quote_bare (part ++ '"' :: (behind ++ tail rest)))
    have hbehind : (splitField (blanks ++ '"' :: (part ++ '"' :: behind) ++ tail rest)).2
        = afterComma? (behind ++ tail rest) := by
      rw [splitField_quote (by simpa using htrim), cutAt_append quote, Option.bind_some]
    rw [hbehind]
    refine ⟨fun hfree => afterComma?_tail (fun c hc => ?_) rest, fun hover => ?_⟩
    · by_contra hmore
      exact hfree ⟨blanks, part, behind, rfl, blank, quote, c, hc, by simpa using hmore⟩
    · obtain ⟨body, part', behind', htrim', hcut, hmore⟩ := overruns_iff.mp hover
      rw [trimStart_append blank (quote_bare _)] at htrim'
      obtain rfl := (List.cons.inj htrim').2
      obtain ⟨-, rfl⟩ : part = part' ∧ behind = behind' := by
        simpa [cutAt_append quote] using hcut
      exact afterComma?_more hmore comma rest
  | @unclosed blanks part blank quote =>
    have htrim := trimStart_append blank (quote_bare part)
    have hnone : (splitField (blanks ++ '"' :: part ++ tail none)).2 = none := by
      rw [tail, List.append_nil, splitField_quote htrim, cutAt_of_not_mem quote]
      rfl
    exact ⟨fun _ => hnone, fun _ => hnone⟩

/-! ## Every call -/

def advance (f : Fields) : Fields := f.take.2

theorem advance_none (index : Nat) : advance ⟨none, index⟩ = ⟨none, index⟩ := rfl

theorem advance_some (text : List Char) (index : Nat) :
    advance ⟨some text, index⟩ = ⟨(splitField text).2, index + 1⟩ := rfl

theorem advance_first {field : List Char} {rest : Option (List Char)} (h : First field rest)
    (index : Nat) : (¬ Overruns field →
        advance ⟨some (field ++ tail rest), index⟩ = ⟨rest, index + 1⟩) ∧
      (Overruns field → advance ⟨some (field ++ tail rest), index⟩ = ⟨none, index + 1⟩) := by
  obtain ⟨hwithin, hover⟩ := splitField_first h
  exact ⟨fun h => by rw [advance_some, hwithin h], fun h => by rw [advance_some, hover h]⟩

theorem advances_none (calls index : Nat) : advance^[calls] ⟨none, index⟩ = ⟨none, index⟩ :=
  Function.iterate_fixed (advance_none index) calls

theorem takeAs_snd {α : Type} (expected : FieldKind) (read? : RawField → Option α) (f : Fields) :
    (f.takeAs expected read?).2 = f.advance := by
  unfold takeAs advance
  rcases f.take with ⟨e | ⟨index, field⟩, f⟩
  · rfl
  · rcases field with (_ | _) | _ | _
    all_goals
      dsimp only
      try split
      all_goals rfl

theorem skip_snd (f : Fields) : f.skip.2 = f.advance := by
  unfold skip advance
  rcases f.take with ⟨e | _, f⟩ <;> rfl

theorem skipMany_snd (count : Nat) (f : Fields) : (f.skipMany count).2 = advance^[count] f := by
  induction count generalizing f with
  | zero => rfl
  | succ count ih =>
    obtain ⟨rest, index⟩ := f
    cases rest with
    | none =>
      rw [advances_none]
      rfl
    | some text =>
      rw [Function.iterate_succ_apply, advance_some, ← ih]
      rfl

end Fields

namespace Accessor

/-- How many fields the call is for. -/
def span : Accessor → Nat
  | .skipMany more => more + 1
  | _ => 1

def spans : List Accessor → Nat
  | [] => 0
  | accessor :: accessors => spans accessors + accessor.span

theorem read_snd (accessor : Accessor) (f : Fields) :
    (accessor.read f).2 = Fields.advance^[accessor.span] f := by
  cases accessor with
  | integer | float | quotedString | token =>
    simp [read, span, Fields.integer, Fields.float, Fields.quotedString, Fields.token,
      Fields.takeAs_snd]
  | skip => exact Fields.skip_snd f
  | skipMany more => exact Fields.skipMany_snd (more + 1) f

theorem readEach_snd (accessors : List Accessor) (f : Fields) :
    (readEach accessors f).2 = Fields.advance^[spans accessors] f := by
  induction accessors generalizing f with
  | nil => rfl
  | cons accessor accessors ih =>
    rw [spans, Function.iterate_add_apply, ← read_snd, ← ih]
    rfl

end Accessor

namespace Fields

theorem mem_dropLast_first {field : List Char} {rest : Option (List Char)} (h : rest ≠ none) :
    field ∈ (field :: cutRest rest).dropLast := by
  cases rest with
  | none => exact absurd rfl h
  | some text =>
    rw [cutRest, Option.elim_some, List.dropLast_cons_of_ne_nil (cut_ne_nil _ _)]
    exact List.mem_cons_self

theorem mem_dropLast_behind {field f : List Char} {fields : List (List Char)}
    (h : f ∈ fields.dropLast) : f ∈ (field :: fields).dropLast := by
  cases fields with
  | nil => cases h
  | cons next fields => exact List.mem_cons_of_mem _ h

/-- Nothing is lost where no field but the last overruns. -/
theorem advance_within {rest : Option (List Char)}
    (within : ∀ field ∈ (cutRest rest).dropLast, ¬ Overruns field) (calls index : Nat) :
    advance^[calls] ⟨rest, index⟩
      = ⟨joined ((cutRest rest).drop calls), index + min calls (cutRest rest).length⟩ := by
  induction calls generalizing rest index with
  | zero => simp [joined_cutRest]
  | succ calls ih =>
    cases rest with
    | none => simp [advances_none, cutRest, joined]
    | some text =>
      obtain ⟨field, rest, hfirst, rfl, hcut⟩ := exists_cut text
      rw [hcut] at within ⊢
      have hnext : advance ⟨some (field ++ tail rest), index⟩ = ⟨rest, index + 1⟩ := by
        by_cases h : Overruns field
        · obtain rfl : rest = none := by
            by_contra hrest
            exact within field (mem_dropLast_first hrest) h
          exact (advance_first hfirst index).2 h
        · exact (advance_first hfirst index).1 h
      rw [Function.iterate_succ_apply, hnext, ih fun f hf => within f (mem_dropLast_behind hf),
        List.drop_succ_cons, List.length_cons]
      congr 1
      omega

/-- The first field that overruns is reached, and nothing behind it. -/
theorem advance_over {rest : Option (List Char)} {before lost : List (List Char)}
    {field : List Char} (fields : cutRest rest = before ++ field :: lost)
    (within : ∀ f ∈ before, ¬ Overruns f) (overruns : Overruns field) (calls index : Nat) :
    advance^[calls] ⟨rest, index⟩ = if calls ≤ before.length
      then ⟨joined ((cutRest rest).drop calls), index + calls⟩
      else ⟨none, index + before.length + 1⟩ := by
  induction calls generalizing rest before index with
  | zero => simp [joined_cutRest]
  | succ calls ih =>
    cases rest with
    | none => simp [cutRest] at fields
    | some text =>
      obtain ⟨f, rest, hfirst, rfl, hcut⟩ := exists_cut text
      rw [hcut] at fields
      rw [Function.iterate_succ_apply, hcut]
      cases before with
      | nil =>
        obtain ⟨rfl, -⟩ := List.cons.inj fields
        rw [(advance_first hfirst index).2 overruns, advances_none]
        simp
      | cons f' before =>
        obtain ⟨rfl, hfields⟩ := List.cons.inj fields
        simp only [List.forall_mem_cons] at within
        rw [(advance_first hfirst index).1 within.1, ih hfields within.2]
        simp [Nat.add_comm, Nat.add_left_comm]

theorem exists_first_over {fields : List (List Char)} (h : ∃ field ∈ fields, Overruns field) :
    ∃ before field lost, fields = before ++ field :: lost ∧ (∀ f ∈ before, ¬ Overruns f) ∧
      Overruns field := by
  obtain ⟨_, hmem, hover⟩ := h
  have hsome : (fields.find? fun field => Overruns field).isSome = true :=
    List.find?_isSome.mpr ⟨_, hmem, decide_eq_true hover⟩
  obtain ⟨field, hfind⟩ := Option.isSome_iff_exists.mp hsome
  obtain ⟨hfield, before, lost, hfields, hbefore⟩ := List.find?_eq_some_iff_append.mp hfind
  exact ⟨before, field, lost, hfields, fun f hf => by simpa using hbefore f hf,
    of_decide_eq_true hfield⟩

theorem exists_over {fields : List (List Char)}
    (h : ¬ ∀ field ∈ fields.dropLast, ¬ Overruns field) : ∃ before field lost,
      fields = before ++ field :: lost ∧ (∀ f ∈ before, ¬ Overruns f) ∧ Overruns field ∧
        lost ≠ [] := by
  push Not at h
  obtain ⟨before, field, lost, hfields, hbefore, hfield⟩ := exists_first_over h
  have hsome : fields ≠ [] := by
    rintro rfl
    simp at hfields
  refine ⟨before, field, lost ++ [fields.getLast hsome], ?_, hbefore, hfield,
    List.concat_ne_nil _ _⟩
  rw [← List.cons_append, ← List.append_assoc, ← hfields, List.dropLast_concat_getLast]

end Fields

/-- Whatever calls are made and whatever comes of each, they take the place to the field whose
number they add up to, and they come to the end only with the last field, exactly if no field but
the last overruns. Otherwise they come to the end behind the first field that does. At the end every
call finds the field missing, and the place stays as it is. -/
theorem Accessor.readEach_fields (text : String) :
    [∀ accessors, (readEach accessors (.ofText text)).2 = .atField text (spans accessors),
      ∀ accessors, (readEach accessors (.ofText text)).2.rest = none →
        (Fields.cut .blanks text.toList).length ≤ spans accessors,
      ∀ field ∈ (Fields.cut .blanks text.toList).dropLast, ¬ Fields.Overruns field].TFAE ∧
    (∀ before field lost, Fields.cut .blanks text.toList = before ++ field :: lost →
      (∀ f ∈ before, ¬ Fields.Overruns f) → Fields.Overruns field → ∀ accessors,
      (readEach accessors (.ofText text)).2 = if spans accessors ≤ before.length
        then .atField text (spans accessors) else ⟨none, before.length + 1⟩) ∧
    ∀ (f : Fields) (accessor : Accessor), f.rest = none →
      accessor.read f = (.error (.fieldMissing f.index), f) := by
  have hover {before lost : List (List Char)} {field : List Char}
      (hfields : Fields.cut .blanks text.toList = before ++ field :: lost)
      (hwithin : ∀ f ∈ before, ¬ Fields.Overruns f) (hover : Fields.Overruns field)
      (accessors : List Accessor) : (readEach accessors (.ofText text)).2 =
        if spans accessors ≤ before.length then .atField text (spans accessors)
        else ⟨none, before.length + 1⟩ := by
    have hlength : before.length < (Fields.cut .blanks text.toList).length := by simp [hfields]
    have hcalls := Fields.advance_over (show Fields.cutRest (some text.toList) = _ from hfields)
      hwithin hover (spans accessors) 0
    rw [readEach_snd, Fields.ofText, hcalls, Fields.atField, Nat.zero_add, Nat.zero_add]
    by_cases hreached : spans accessors ≤ before.length
    · rw [if_pos hreached, if_pos hreached, Nat.min_eq_left (by omega)]
      rfl
    · rw [if_neg hreached, if_neg hreached]
  refine ⟨?_, fun _ _ _ => hover, ?_⟩
  · tfae_have 1 → 2 := fun hplaces accessors hrest => by
      rw [hplaces, Fields.atField] at hrest
      exact List.drop_eq_nil_iff.mp (Fields.joined_eq_none_iff.mp hrest)
    tfae_have 2 → 3 := fun hends => by
      by_contra hlost
      obtain ⟨before, field, lost, hfields, hwithin, hfield, hne⟩ := Fields.exists_over hlost
      have hspans : spans [.skipMany before.length] = before.length + 1 := Nat.zero_add _
      have hplace := hover hfields hwithin hfield [.skipMany before.length]
      rw [hspans, if_neg (by omega)] at hplace
      have hlength := hends [.skipMany before.length] (by rw [hplace])
      rw [hspans, hfields, List.length_append, List.length_cons] at hlength
      exact hne (List.length_eq_zero_iff.mp (by omega))
    tfae_have 3 → 1 := fun hwithin accessors => by
      have hrest : ∀ field ∈ (Fields.cutRest (some text.toList)).dropLast,
          ¬ Fields.Overruns field := hwithin
      have hcalls := Fields.advance_within hrest (spans accessors) 0
      rw [readEach_snd, Fields.ofText, hcalls, Nat.zero_add]
      rfl
    tfae_finish
  · rintro ⟨_, index⟩ accessor rfl
    exact accessor.read_missing index

/-- Quotes behind something else open no quoted part, an empty field is a field, and behind the last
field there is nothing to lose. In the other text two fields are lost. -/
theorem Accessor.readEach_fields_stray :
    (∀ accessors, (readEach accessors (.ofText "x\"y\", \"a,b\" ,,\"c\"d")).2
        = .atField "x\"y\", \"a,b\" ,,\"c\"d" (spans accessors)) ∧
      (∀ accessors, (readEach accessors (.ofText "1, \"a,\"b,5,6")).2 =
        if spans accessors ≤ 1 then .atField "1, \"a,\"b,5,6" (spans accessors) else ⟨none, 2⟩) ∧
      Accessor.float.read ⟨none, 2⟩ = (.error (.fieldMissing 2), ⟨none, 2⟩) := by
  have hwithin : ∀ field ∈ (Fields.cut .blanks "x\"y\", \"a,b\" ,,\"c\"d".toList).dropLast,
      ¬ Fields.Overruns field := by decide
  have hfields : Fields.cut .blanks "1, \"a,\"b,5,6".toList
      = [['1']] ++ " \"a,\"b".toList :: [['5'], ['6']] := by decide
  exact ⟨((readEach_fields _).1.out 0 2).mpr hwithin,
    (readEach_fields _).2.1 _ _ _ hfields (by decide) (by decide),
    (readEach_fields "").2.2 _ .float rfl⟩

/-- A character too many behind the quotes, and the number behind it is taken to be missing. -/
theorem Accessor.number_lost :
    (readEach [.skip] (.ofText "\"a\"b,5")).2 ≠ .atField "\"a\"b,5" 1 ∧
      (readEach [.skip, .integer] (.ofText "\"a\"b,5")).1
        = [.ok .nothing, .error (.fieldMissing 1)] ∧
      Accessor.integer.read (.atField "\"a\"b,5" 1) = (.ok (.integer 5), ⟨none, 2⟩) :=
  ⟨by decide, rfl, rfl⟩

end CellModem
