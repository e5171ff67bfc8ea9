import CellModem.Proofs.Decoding.Cutting
import CellModem.Proofs.Decoding.Table

/-!
# Fields read by their numbers

Calls in turn come to the fields of a text by their numbers, as long as none of the fields before
overruns. So what a call hands out can be told from the field with its number, whatever else stands
in the fields before; behind a field that overruns there is nothing to hand out.
-/

namespace CellModem

theorem bind_ok_iff {ε α β : Type} {first : Except ε α} {next : α → Except ε β} {result : β} :
    (first >>= next) = .ok result ↔ ∃ value, first = .ok value ∧ next value = .ok result := by
  cases first with
  | error e => exact ⟨nofun, nofun⟩
  | ok value =>
    constructor
    · intro h
      exact ⟨value, rfl, h⟩
    · rintro ⟨_, hvalue, hnext⟩
      obtain rfl := Except.ok.inj hvalue
      exact hnext

/-- Behind the lead, the text is what the first line with the lead holds. -/
def Response.Carries (r : Response) (lead text : String) : Prop :=
  ∃ earlier later, r.lines = earlier ++ (lead ++ text) :: later ∧
    ∀ line ∈ earlier, Text.startsWith line lead = false

namespace Fields

/-! ## A number in a field -/

theorem takeAs_ok_iff {α : Type} {expected : FieldKind} {read? : RawField → Option α}
    {text : List Char} {index : Nat} {a : α} :
    (takeAs expected read? ⟨some text, index⟩).1 = .ok a ↔
      (splitField text).1 ≠ .plain [] ∧ read? (splitField text).1 = some a := by
  unfold takeAs take
  dsimp only
  rcases splitField text with ⟨raw, behind⟩
  dsimp only
  split
  · next heq => cases heq
  · next heq =>
    obtain ⟨hraw, -⟩ := Prod.mk.inj heq
    simp [(Prod.mk.inj (Except.ok.inj hraw)).2]
  · next hplain heq =>
    obtain ⟨hraw, rfl⟩ := Prod.mk.inj heq
    obtain ⟨rfl, rfl⟩ := Prod.mk.inj (Except.ok.inj hraw)
    have hfull : raw ≠ .plain [] := hplain
    cases read? raw <;> simp [hfull]

theorem exists_trimEnd (text : List Char) :
    ∃ behind, text = Text.trimEnd text ++ behind ∧ ∀ c ∈ behind, Text.isBlank c = true := by
  refine ⟨(text.reverse.takeWhile Text.isBlank).reverse, ?_, fun c hc => ?_⟩
  · rw [Text.trimEnd, ← List.reverse_append, List.takeWhile_append_dropWhile, List.reverse_reverse]
  · exact List.mem_takeWhile_imp (List.mem_reverse.mp hc)

theorem integer_first_iff {field : List Char} {rest : Option (List Char)} (h : First field rest)
    {n : Int} {index : Nat} :
    (integer ⟨some (field ++ tail rest), index⟩).1 = .ok n ↔ Spells field n := by
  constructor
  · intro hread
    obtain ⟨-, hnumber⟩ := takeAs_ok_iff.mp hread
    cases h with
    | @plain blanks body blank bare comma rest =>
      have hbare : ∀ c ∈ body.head?, Text.isBlank c = false := fun c hc => (bare c hc).1
      have htrim := trimStart_append blank (bare_tail hbare rest)
      have hquote : (body ++ tail rest).head? ≠ some '"' := by
        cases body with
        | nil => cases rest <;> simp [tail]
        | cons c body => simpa using (bare c rfl).2
      have hsplit : (splitField (blanks ++ body ++ tail rest)).1 = .plain (Text.trimEnd body) := by
        rw [List.append_assoc, splitField, htrim]
        split
        · next hbody => exact absurd (by rw [hbody]; rfl) hquote
        · rw [cutAt_tail comma]
      rw [hsplit] at hnumber
      obtain ⟨behind, hbody, hbehind⟩ := exists_trimEnd body
      exact ⟨blanks, Text.trimEnd body, behind, by rw [List.append_assoc, ← hbody], blank, hbehind,
        hnumber⟩
    | @quoted blanks part behind blank quote comma rest =>
      have htrim := trimStart_append blank (quote_bare (part ++ '"' :: (behind ++ tail rest)))
      have hsplit : (splitField (blanks ++ '"' :: (part ++ '"' :: behind) ++ tail rest)).1
          = .quoted part := by
        simp [splitField, htrim, cutAt_append quote]
      rw [hsplit] at hnumber
      cases hnumber
    | @unclosed blanks part blank quote =>
      have htrim := trimStart_append blank (quote_bare part)
      have hsplit : (splitField (blanks ++ '"' :: part ++ tail none)).1 = .unterminated := by
        simp [splitField, tail, htrim, cutAt_of_not_mem quote]
      rw [hsplit] at hnumber
      cases hnumber
  · intro hspells
    rw [integer_spelled hspells]

/-! ## Places -/

theorem first_of_cut {text field : List Char} {fields : List (List Char)}
    (h : cut .blanks text = field :: fields) :
    First field (joined fields) ∧ fields = cutRest (joined fields) := by
  obtain ⟨field', rest, hfirst, -, hcut⟩ := exists_cut text
  obtain ⟨rfl, rfl⟩ := List.cons.inj (hcut.symm.trans h)
  rw [joined_cutRest]
  exact ⟨hfirst, rfl⟩

theorem first_of_drop {text field : List Char} {number : Nat} {fields : List (List Char)}
    (h : (cut .blanks text).drop number = field :: fields) : First field (joined fields) := by
  induction number generalizing text with
  | zero => exact (first_of_cut h).1
  | succ number ih =>
    cases hcut : cut .blanks text with
    | nil => exact absurd hcut (cut_ne_nil _ _)
    | cons before behind =>
      rw [hcut, List.drop_succ_cons] at h
      have hbehind := (first_of_cut hcut).2
      cases hrest : joined behind with
      | none =>
        rw [joined_eq_none_iff.mp hrest, List.drop_nil] at h
        cases h
      | some more =>
        rw [hbehind, hrest] at h
        exact ih h

/-- Where the place is when this many fields have been asked for. -/
def place (text : String) (calls : Nat) : Fields := advance^[calls] (.ofText text)

/-- No field before the one with this number overruns. -/
def Reached (text : String) (number : Nat) : Prop :=
  ∀ field ∈ (cut .blanks text.toList).take number, ¬ Overruns field

variable {text : String} {number : Nat}

instance : Decidable (Reached text number) :=
  inferInstanceAs (Decidable (∀ field ∈ (cut .blanks text.toList).take number, ¬ Overruns field))

theorem Reached.mono {earlier : Nat} (h : Reached text number) (le : earlier ≤ number) :
    Reached text earlier :=
  fun field hfield => h field (List.take_subset_take_left _ le hfield)

theorem advances_place (calls : Nat) :
    advance^[calls] (place text number) = place text (number + calls) := by
  rw [place, place, Nat.add_comm, Function.iterate_add_apply]

theorem place_of_reached (h : Reached text number) : place text number = atField text number := by
  by_cases hover : ∃ field ∈ cut .blanks text.toList, Overruns field
  · obtain ⟨before, field, lost, hfields, hbefore, hfield⟩ := exists_first_over hover
    have hnumber : number ≤ before.length := by
      by_contra hpast
      refine h field ?_ hfield
      rw [hfields, List.take_append, List.take_cons (by omega)]
      exact List.mem_append_right _ List.mem_cons_self
    have hlength : before.length < (cut .blanks text.toList).length := by simp [hfields]
    have hrest : cutRest (some text.toList) = before ++ field :: lost := hfields
    refine (advance_over hrest hbefore hfield number 0).trans ?_
    rw [if_pos hnumber, Nat.zero_add, atField, Nat.min_eq_left (by omega)]
    rfl
  · have hwithin : ∀ field ∈ (cutRest (some text.toList)).dropLast, ¬ Overruns field :=
      fun field hfield hover' => hover ⟨field, List.dropLast_subset _ hfield, hover'⟩
    refine (advance_within hwithin number 0).trans ?_
    rw [Nat.zero_add]
    rfl

/-- Behind a field that overruns there is nothing. -/
theorem rest_place (h : ¬ Reached text number) : (place text number).rest = none := by
  unfold Reached at h
  push Not at h
  obtain ⟨before, field, lost, htaken, hbefore, hfield⟩ := exists_first_over h
  have hfields : cutRest (some text.toList)
      = before ++ field :: (lost ++ (cut .blanks text.toList).drop number) := by
    change cut .blanks text.toList = _
    conv_lhs => rw [← List.take_append_drop number (cut .blanks text.toList), htaken]
    rw [List.append_assoc, List.cons_append]
  have hlength : before.length < number := by
    have htake := List.length_take_le number (cut .blanks text.toList)
    rw [htaken, List.length_append, List.length_cons] at htake
    omega
  have hover := advance_over hfields hbefore hfield number 0
  rw [if_neg (by omega)] at hover
  rw [place, ofText, hover]

/-- The field with this number spells this number. -/
def Holds (text : String) (number : Nat) (n : Int) : Prop :=
  ∃ field, (cut .blanks text.toList)[number]? = some field ∧ Spells field n

theorem atField_rest_iff :
    (atField text number).rest ≠ none ↔ number < (cut .blanks text.toList).length := by
  rw [atField, ne_eq, joined_eq_none_iff, List.drop_eq_nil_iff, Nat.not_le]

theorem integer_atField_iff {n : Int} :
    (integer (atField text number)).1 = .ok n ↔ Holds text number n := by
  unfold Holds
  cases hdrop : (cut .blanks text.toList).drop number with
  | nil =>
    have hplace : atField text number = ⟨none, min number (cut .blanks text.toList).length⟩ := by
      rw [atField, hdrop, joined]
    have hnone : (cut .blanks text.toList)[number]? = none :=
      List.getElem?_eq_none (List.drop_eq_nil_iff.mp hdrop)
    rw [hplace, hnone]
    constructor
    · intro h
      cases h
    · rintro ⟨_, hsame, -⟩
      cases hsame
  | cons field fields =>
    have hplace : atField text number
        = ⟨some (field ++ tail (joined fields)), min number (cut .blanks text.toList).length⟩ := by
      rw [atField, hdrop, joined]
    have hfield : (cut .blanks text.toList)[number]? = some field := by
      rw [← List.head?_drop, hdrop, List.head?_cons]
    rw [hplace, integer_first_iff (first_of_drop hdrop), hfield]
    constructor
    · intro h
      exact ⟨field, rfl, h⟩
    · rintro ⟨_, hsame, h⟩
      obtain rfl := Option.some.inj hsame
      exact h

/-- The field with this number is a number, however large it is. -/
def Tells (text : String) (number : Nat) (n : Int) : Prop :=
  ∃ field, (cut .blanks text.toList)[number]? = some field ∧ Denotes field n

theorem tells_of_field (field : List Char) {n : Int}
    (there : (cut .blanks text.toList)[number]? = some field)
    (read : Number.readSigned? field = some n) : Tells text number n :=
  ⟨field, there, [], field, [], (List.append_nil _).symm, nofun, nofun, read⟩

theorem Tells.there {n : Int} (h : Tells text number n) :
    number < (cut .blanks text.toList).length := by
  obtain ⟨field, hfield, -⟩ := h
  exact (List.getElem?_eq_some_iff.mp hfield).1

theorem holds_iff {n : Int} : Holds text number n ↔ Tells text number n ∧ Number.IsInt64 n := by
  unfold Holds Tells
  simp only [spells_iff]
  exact ⟨fun ⟨field, hfield, hdenotes, hfits⟩ => ⟨⟨field, hfield, hdenotes⟩, hfits⟩,
    fun ⟨⟨field, hfield, hdenotes⟩, hfits⟩ => ⟨field, hfield, hdenotes, hfits⟩⟩

theorem holds_uint32_iff {n : UInt32} : Holds text number n.toNat ↔ Tells text number n.toNat := by
  have hbound := n.toNat_lt
  rw [holds_iff]
  exact and_iff_left ⟨by omega, by omega⟩

theorem Denotes.within {field : List Char} {n : Int} (h : Denotes field n) : ¬ Overruns field := by
  obtain ⟨before, text, behind, rfl, hbefore, hbehind, hsigned⟩ := h
  have hblank {blanks : List Char} (h : ∀ c ∈ blanks, Text.isBlank c = true) : '"' ∉ blanks :=
    fun hquote => absurd (h _ hquote) (by decide)
  have hbare : '"' ∉ text := fun hquote => ((Number.bare_of_readSigned? hsigned).2 _ hquote).2.2 rfl
  rintro ⟨blanks, part, more, hfield, -⟩
  have hquote : '"' ∈ before ++ text ++ behind := by simp [hfield]
  simp [hblank hbefore, hbare, hblank hbehind] at hquote

/-- A number does not overrun. -/
theorem Reached.next {n : Int} (h : Reached text number) (told : Tells text number n) :
    Reached text (number + 1) := by
  obtain ⟨number', hnumber, hdenotes⟩ := told
  intro field hfield
  rw [List.take_add_one, hnumber, List.mem_append] at hfield
  rcases hfield with hbefore | hlast
  · exact h field hbefore
  · obtain rfl : field = number' := by simpa using hlast
    exact hdenotes.within

/-- The field with this number reads as `x`. -/
def Measures (text : String) (number : Nat) (x : Number.Binary32) : Prop :=
  (atField text number).float.1 = .ok x

theorem skip_ok_iff (f : Fields) : f.skip.1 = .ok () ↔ f.rest ≠ none := by
  rw [skip, take]
  cases f.rest with
  | none =>
    constructor
    · intro h
      cases h
    · exact fun h => absurd rfl h
  | some rest => exact ⟨fun _ => Option.some_ne_none rest, fun _ => rfl⟩

/-- Fields can be skipped when the last of them is there. -/
theorem skipMany_ok_iff (count : Nat) (f : Fields) :
    (f.skipMany (count + 1)).1 = .ok () ↔ (advance^[count] f).rest ≠ none := by
  induction count generalizing f with
  | zero =>
    rw [Function.iterate_zero, id_eq, ← skip_ok_iff, skipMany]
    rcases f.skip with ⟨_ | _, f⟩ <;> exact Iff.rfl
  | succ count ih =>
    obtain ⟨rest, index⟩ := f
    cases rest with
    | none =>
      rw [advances_none]
      exact ⟨nofun, fun h => absurd rfl h⟩
    | some text =>
      rw [Function.iterate_succ_apply, ← ih]
      exact Iff.rfl

theorem Holds.there {n : Int} (h : Holds text number n) :
    number < (cut .blanks text.toList).length := (holds_iff.mp h).1.there

theorem Measures.there {x : Number.Binary32} (h : Measures text number x) :
    number < (cut .blanks text.toList).length := by
  refine atField_rest_iff.mp fun hrest => ?_
  unfold Measures float takeAs take at h
  rw [hrest] at h
  cases h

/-! ### What is read where the place is -/

theorem rest_place_iff : (place text number).rest ≠ none ↔
    Reached text number ∧ number < (cut .blanks text.toList).length := by
  by_cases hreached : Reached text number
  · rw [place_of_reached hreached, atField_rest_iff]
    exact (and_iff_right hreached).symm
  · rw [rest_place hreached]
    exact ⟨fun h => absurd rfl h, fun h => absurd h.1 hreached⟩

theorem takeAs_place_iff {α : Type} {expected : FieldKind} {read? : RawField → Option α} {a : α} :
    (takeAs expected read? (place text number)).1 = .ok a ↔
      Reached text number ∧ (takeAs expected read? (atField text number)).1 = .ok a := by
  by_cases hreached : Reached text number
  · rw [place_of_reached hreached]
    exact (and_iff_right hreached).symm
  · rw [takeAs, take, rest_place hreached]
    constructor
    · intro h
      cases h
    · exact fun h => absurd h.1 hreached

theorem integer_place_iff {n : Int} : (integer (place text number)).1 = .ok n ↔
    Reached text number ∧ Holds text number n := by
  rw [← integer_atField_iff]
  exact takeAs_place_iff

theorem float_place_iff {x : Number.Binary32} : (float (place text number)).1 = .ok x ↔
    Reached text number ∧ Measures text number x := takeAs_place_iff

theorem uint32_place_iff {n : UInt32} : (FieldReader.uint32.run (place text number)).1 = .ok n ↔
    Reached text number ∧ Holds text number n.toNat := by
  rw [FieldReader.run_uint32, ← integer_place_iff]
  cases (place text number).integer.1 with
  | error e => exact ⟨nofun, nofun⟩
  | ok m =>
    change FieldReader.fitUInt32 m = .ok n ↔ _
    constructor
    · intro h
      unfold FieldReader.fitUInt32 at h
      split at h
      · next hfits =>
        obtain rfl := Except.ok.inj h
        rw [Number.toNat_of_toUInt32? hfits]
      · cases h
    · intro h
      obtain rfl := Except.ok.inj h
      exact FieldReader.fitUInt32_toNat n

theorem integer_place_told {n : Int} (reached : Reached text number) (told : Tells text number n) :
    (integer (place text number)).1
      = if Number.IsInt64 n then .ok n else .error (.fieldMismatch number .integer) := by
  obtain ⟨field, hfield, hdenotes⟩ := told
  obtain ⟨hnumber, -⟩ := List.getElem?_eq_some_iff.mp hfield
  rw [place_of_reached reached, atField, List.drop_eq_getElem?_toList_append, hfield,
    Nat.min_eq_left hnumber.le]
  exact congrArg Prod.fst (integer_denoted hdenotes _ _)

theorem uint32_place_told {n : Int} (reached : Reached text number) (told : Tells text number n) :
    (FieldReader.uint32.run (place text number)).1 = if Number.IsInt64 n
      then FieldReader.fitUInt32 n else .error (.fieldMismatch number .integer) := by
  rw [FieldReader.run_uint32]
  dsimp only
  rw [integer_place_told reached told]
  split <;> rfl

theorem skip_place_iff : (place text number).skip.1 = .ok () ↔
    Reached text number ∧ number < (cut .blanks text.toList).length := by
  rw [skip_ok_iff, rest_place_iff]

theorem skipMany_place_iff {count : Nat} : ((place text number).skipMany (count + 1)).1 = .ok () ↔
    Reached text (number + count) ∧ number + count < (cut .blanks text.toList).length := by
  rw [skipMany_ok_iff, advances_place, rest_place_iff]

end Fields

/-! ## Calls in turn -/

namespace FieldReader

open Fields

variable {α β : Type} {text : String} {number : Nat}

/-- What is read behind a call is read where the call leaves the place. -/
theorem run_bind_place (calls : Nat) {first : FieldReader α}
    (moves : (first.run (place text number)).2 = advance^[calls] (place text number))
    (next : α → FieldReader β) : ((first >>= next).run (place text number)).1 =
      (first.run (place text number)).1 >>= fun value =>
        ((next value).run (place text (number + calls))).1 := by
  rw [← advances_place, ← moves, run_bind]
  rcases first.run (place text number) with ⟨_ | value, f⟩ <;> rfl

theorem run_skip (f : Fields) : skip.run f = f.skip := rfl

theorem run_integer_snd (f : Fields) : (integer.run f).2 = f.advance := takeAs_snd _ _ _

theorem run_float_snd (f : Fields) : (float.run f).2 = f.advance := takeAs_snd _ _ _

theorem run_uint32_snd (f : Fields) : (uint32.run f).2 = f.advance := by
  rw [run_uint32]
  exact run_integer_snd f

theorem run_skip_snd (f : Fields) : (skip.run f).2 = f.advance := skip_snd f

theorem run_skipMany_snd (count : Nat) (f : Fields) :
    ((skipMany count).run f).2 = advance^[count] f := skipMany_snd count f

variable {result : β}

theorem integer_bind_ok_iff {next : Int → FieldReader β} :
    ((integer >>= next).run (place text number)).1 = .ok result ↔
      ∃ n, (Reached text number ∧ Holds text number n) ∧
        ((next n).run (place text (number + 1))).1 = .ok result := by
  rw [run_bind_place 1 (run_integer_snd _), bind_ok_iff]
  exact exists_congr fun n => and_congr_left' integer_place_iff

theorem float_bind_ok_iff {next : Number.Binary32 → FieldReader β} :
    ((float >>= next).run (place text number)).1 = .ok result ↔
      ∃ x, (Reached text number ∧ Measures text number x) ∧
        ((next x).run (place text (number + 1))).1 = .ok result := by
  rw [run_bind_place 1 (run_float_snd _), bind_ok_iff]
  exact exists_congr fun x => and_congr_left' float_place_iff

theorem uint32_bind_ok_iff {next : UInt32 → FieldReader β} :
    ((uint32 >>= next).run (place text number)).1 = .ok result ↔
      ∃ n : UInt32, (Reached text number ∧ Holds text number n.toNat) ∧
        ((next n).run (place text (number + 1))).1 = .ok result := by
  rw [run_bind_place 1 (run_uint32_snd _), bind_ok_iff]
  exact exists_congr fun n => and_congr_left' uint32_place_iff

theorem skip_bind_ok_iff {next : Unit → FieldReader β} :
    ((skip >>= next).run (place text number)).1 = .ok result ↔
      (Reached text number ∧ number < (cut .blanks text.toList).length) ∧
        ((next ()).run (place text (number + 1))).1 = .ok result := by
  rw [run_bind_place 1 (run_skip_snd _), bind_ok_iff, ← skip_place_iff]
  exact ⟨fun ⟨(), h⟩ => h, fun h => ⟨(), h⟩⟩

theorem skipMany_bind_ok_iff {count : Nat} {next : Unit → FieldReader β} :
    ((skipMany (count + 1) >>= next).run (place text number)).1 = .ok result ↔
      (Reached text (number + count) ∧ number + count < (cut .blanks text.toList).length) ∧
        ((next ()).run (place text (number + (count + 1)))).1 = .ok result := by
  rw [run_bind_place (count + 1) (run_skipMany_snd (count + 1) _), bind_ok_iff,
    ← skipMany_place_iff]
  exact ⟨fun ⟨(), h⟩ => h, fun h => ⟨(), h⟩⟩

end FieldReader

/-! ## Lines read from their first field on -/

theorem Response.Carries.decodeSingle {α : Type} {r : Response} {lead text : String}
    (h : r.Carries lead text) (read : FieldReader α) :
    r.decodeSingle lead read = (read.run (.place text 0)).1 := by
  obtain ⟨earlier, later, hlines, hothers⟩ := h
  rw [Response.decodeSingle_first hlines hothers]
  rfl

end CellModem
