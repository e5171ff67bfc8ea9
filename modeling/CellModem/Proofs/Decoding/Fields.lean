import Mathlib.Data.List.TakeDrop
import Mathlib.Data.List.TakeWhile
import CellModem.Decoding
import CellModem.Proofs.Number.Integer

/-!
# Fields are read as they were written

Values that are written as the fields of a line, with blanks around them as one likes, come back
one by one from the calls that suit them. Behind the last field every call finds the field missing,
and nothing changes any more.
-/

namespace CellModem

/-! ## Written fields -/

inductive FieldValue where
  | integer (n : Int)
  | quoted (text : String)
  | token (text : String)
  deriving DecidableEq, Repr

namespace FieldValue

/-- What a field can carry: a number of 64 bits, a text without a quote, a token that is not taken
for something else. -/
def Writable : FieldValue → Prop
  | .integer n => Number.IsInt64 n
  | .quoted text => '"' ∉ text.toList
  | .token text => text ≠ "" ∧ ',' ∉ text.toList ∧
      (∀ c ∈ text.toList.head?, Text.isBlank c = false ∧ c ≠ '"') ∧
      ∀ c ∈ text.toList.getLast?, Text.isBlank c = false

instance : DecidablePred Writable
  | .integer n => inferInstanceAs (Decidable (Number.IsInt64 n))
  | .quoted text => inferInstanceAs (Decidable ('"' ∉ text.toList))
  | .token text => decidable_of_iff (text ≠ "" ∧ ',' ∉ text.toList ∧
      text.toList.head?.all (fun c => !Text.isBlank c && c != '"') ∧
      text.toList.getLast?.all fun c => !Text.isBlank c) (by simp [Writable, Option.all_eq_true])

def text : FieldValue → String
  | .integer n => toString n
  | .quoted text => "\"" ++ text ++ "\""
  | .token text => text

/-- What the text of the value is split off as. -/
def raw : FieldValue → RawField
  | .integer n => .plain (toString n).toList
  | .quoted text => .quoted text.toList
  | .token text => .plain text.toList

end FieldValue

/-- A value that a field can carry, between blanks. -/
structure WrittenField where
  value : FieldValue
  before : String
  behind : String
  writable : value.Writable
  blankBefore : ∀ c ∈ before.toList, Text.isBlank c = true
  blankBehind : ∀ c ∈ behind.toList, Text.isBlank c = true

def WrittenField.text (field : WrittenField) : String :=
  field.before ++ field.value.text ++ field.behind

/-! ## Texts cut at a mark -/

namespace Fields

theorem cutAt_of_not_mem {mark : Char} {text : List Char} (h : mark ∉ text) :
    cutAt mark text = (text, none) := by
  have hall : ∀ c ∈ text, decide (c ≠ mark) = true := fun c hc =>
    decide_eq_true fun heq => h (heq ▸ hc)
  rw [cutAt, List.span_eq_takeWhile_dropWhile, List.takeWhile_eq_self_iff.mpr hall,
    List.dropWhile_eq_nil_iff.mpr hall]

theorem cutAt_append {mark : Char} {text : List Char} (h : mark ∉ text) (behind : List Char) :
    cutAt mark (text ++ mark :: behind) = (text, some behind) := by
  have hall : ∀ c ∈ text, decide (c ≠ mark) = true := fun c hc =>
    decide_eq_true fun heq => h (heq ▸ hc)
  rw [cutAt, List.span_eq_takeWhile_dropWhile, List.takeWhile_append_of_pos hall,
    List.dropWhile_append_of_pos hall, List.takeWhile_cons_of_neg (by simp),
    List.dropWhile_cons_of_neg (by simp), List.append_nil]

theorem trimStart_append {blanks : List Char} (h : ∀ c ∈ blanks, Text.isBlank c = true)
    {text : List Char} (bare : ∀ c ∈ text.head?, Text.isBlank c = false) :
    Text.trimStart (blanks ++ text) = text := by
  rw [Text.trimStart, List.dropWhile_append_of_pos h]
  cases text with
  | nil => rfl
  | cons c text => rw [List.dropWhile_cons_of_neg (by rw [bare c rfl]; exact Bool.false_ne_true)]

theorem trimEnd_append {blanks : List Char} (h : ∀ c ∈ blanks, Text.isBlank c = true)
    {text : List Char} (bare : ∀ c ∈ text.getLast?, Text.isBlank c = false) :
    Text.trimEnd (text ++ blanks) = text := by
  have htrim : Text.trimStart (blanks.reverse ++ text.reverse) = text.reverse :=
    trimStart_append (fun c hc => h c (List.mem_reverse.mp hc))
      (by rw [List.head?_reverse]; exact bare)
  rw [Text.trimEnd, List.reverse_append]
  rw [Text.trimStart] at htrim
  rw [htrim, List.reverse_reverse]

/-! ## One field -/

/-- What stands behind a field: nothing, or a comma and the other fields. -/
def tail : Option (List Char) → List Char
  | none => []
  | some text => ',' :: text

theorem tail_head (behind : Option (List Char)) :
    ∀ c ∈ (tail behind).head?, Text.isBlank c = false := by
  cases behind with
  | none => exact fun c hc => absurd hc (Option.not_mem_none c)
  | some text =>
    rintro c hc
    obtain rfl := Option.some.inj hc
    decide

theorem cutAt_tail {text : List Char} (h : ',' ∉ text) (behind : Option (List Char)) :
    cutAt ',' (text ++ tail behind) = (text, behind) := by
  cases behind with
  | none => rw [tail, List.append_nil, cutAt_of_not_mem h]
  | some rest => exact cutAt_append h rest

theorem afterComma?_tail {blanks : List Char} (h : ∀ c ∈ blanks, Text.isBlank c = true)
    (behind : Option (List Char)) : afterComma? (blanks ++ tail behind) = behind := by
  rw [afterComma?, trimStart_append h (tail_head behind)]
  cases behind with
  | none => rfl
  | some text => exact Text.dropLead?_eq_some_iff.mpr rfl

theorem comma_not_blank {blanks : List Char} (h : ∀ c ∈ blanks, Text.isBlank c = true) :
    ',' ∉ blanks := fun hc => absurd (h ',' hc) (by decide)

section Blanks

variable {before behind : List Char} (blankBefore : ∀ c ∈ before, Text.isBlank c = true)
  (blankBehind : ∀ c ∈ behind, Text.isBlank c = true)
include blankBefore blankBehind

theorem splitField_quoted {text : List Char} (h : '"' ∉ text) (rest : Option (List Char)) :
    splitField (before ++ ('"' :: text ++ ['"']) ++ behind ++ tail rest)
      = (.quoted text, rest) := by
  have hbare : ∀ c ∈ ('"' :: (text ++ '"' :: (behind ++ tail rest))).head?,
      Text.isBlank c = false := by
    intro c hc
    obtain rfl := Option.some.inj hc
    decide
  have htrim := trimStart_append blankBefore hbare
  have hcut := cutAt_append h (behind ++ tail rest)
  simp only [List.append_assoc, List.cons_append, List.nil_append]
  unfold splitField
  simp only [htrim, hcut, afterComma?_tail blankBehind]

theorem splitField_plain {c : Char} {text : List Char}
    (first : Text.isBlank c = false ∧ c ≠ '"') (comma : ',' ∉ c :: text)
    (last : ∀ c' ∈ (c :: text).getLast?, Text.isBlank c' = false) (rest : Option (List Char)) :
    splitField (before ++ (c :: text) ++ behind ++ tail rest) = (.plain (c :: text), rest) := by
  have hbare : ∀ c' ∈ ((c :: text) ++ (behind ++ tail rest)).head?, Text.isBlank c' = false := by
    intro c' hc'
    obtain rfl := Option.some.inj hc'
    exact first.1
  have htrim := trimStart_append blankBefore hbare
  have hcut := cutAt_tail (List.not_mem_append comma (comma_not_blank blankBehind)) rest
  rw [List.append_assoc, List.append_assoc, splitField, htrim, ← List.append_assoc]
  split
  · next body hbody => exact absurd (List.cons.inj hbody).1 first.2
  · rw [hcut]
    dsimp only
    rw [trimEnd_append blankBehind last]

theorem splitField_number {text : List Char} {n : Int} (h : Number.readSigned? text = some n)
    (rest : Option (List Char)) :
    splitField (before ++ text ++ behind ++ tail rest) = (.plain text, rest) := by
  obtain ⟨hfull, hbare⟩ := Number.bare_of_readSigned? h
  cases text with
  | nil => exact absurd rfl hfull
  | cons c text =>
    exact splitField_plain blankBefore blankBehind
      ⟨(hbare c List.mem_cons_self).1, (hbare c List.mem_cons_self).2.2⟩
      (fun hc => (hbare _ hc).2.1 rfl) (fun c' hc' => (hbare c' (List.mem_of_getLast? hc')).1) rest

end Blanks

theorem splitField_text (field : WrittenField) (rest : Option (List Char)) :
    splitField (field.text.toList ++ tail rest) = (field.value.raw, rest) := by
  obtain ⟨value, before, behind, writable, blankBefore, blankBehind⟩ := field
  rw [WrittenField.text, String.toList_append, String.toList_append]
  dsimp only at *
  cases value with
  | integer n =>
    rw [FieldValue.text, FieldValue.raw]
    exact splitField_number blankBefore blankBehind (Number.readSigned?_toString n) rest
  | quoted text =>
    have htext : (FieldValue.quoted text).text.toList = '"' :: text.toList ++ ['"'] := by
      rw [FieldValue.text, String.toList_append, String.toList_append]
      rfl
    rw [htext, FieldValue.raw]
    exact splitField_quoted blankBefore blankBehind writable rest
  | token text =>
    obtain ⟨hfull, hcomma, hfirst, hlast⟩ := writable
    rw [FieldValue.text, FieldValue.raw]
    cases htext : text.toList with
    | nil => exact absurd (String.toList_eq_nil_iff.mp htext) hfull
    | cons c chars =>
      rw [htext] at hcomma hfirst hlast
      exact splitField_plain blankBefore blankBehind (hfirst c rfl) hcomma hlast rest

theorem take_text (field : WrittenField) (rest : Option (List Char)) (index : Nat) :
    take ⟨some (field.text.toList ++ tail rest), index⟩
      = (.ok (index, field.value.raw), ⟨rest, index + 1⟩) := by
  simp only [take, splitField_text]

theorem takeAs_full {α : Type} {text : List Char} {raw : RawField} {rest : Option (List Char)}
    (split : splitField text = (raw, rest)) (full : raw ≠ .plain []) (expected : FieldKind)
    (read? : RawField → Option α) (index : Nat) : takeAs expected read? ⟨some text, index⟩ =
      ((read? raw).elim (.error (.fieldMismatch index expected)) .ok, ⟨rest, index + 1⟩) := by
  have htake : take ⟨some text, index⟩ = (.ok (index, raw), ⟨rest, index + 1⟩) := by
    simp only [take, split]
  rw [takeAs, htake]
  split
  · next heq => cases heq
  · next heq =>
    obtain ⟨hraw, -⟩ := Prod.mk.inj heq
    exact absurd (Prod.mk.inj (Except.ok.inj hraw)).2 full
  · next heq =>
    obtain ⟨hraw, rfl⟩ := Prod.mk.inj heq
    obtain ⟨rfl, rfl⟩ := Prod.mk.inj (Except.ok.inj hraw)
    cases read? raw <;> rfl

theorem takeAs_split {α : Type} {text : List Char} {raw : RawField} {rest : Option (List Char)}
    {read? : RawField → Option α} {a : α} (split : splitField text = (raw, rest))
    (full : raw ≠ .plain []) (hread : read? raw = some a) (expected : FieldKind) (index : Nat) :
    takeAs expected read? ⟨some text, index⟩ = (.ok a, ⟨rest, index + 1⟩) := by
  rw [takeAs_full split full, hread]
  rfl

theorem takeAs_text {α : Type} {field : WrittenField} {read? : RawField → Option α} {a : α}
    (full : field.value.raw ≠ .plain []) (hread : read? field.value.raw = some a)
    (expected : FieldKind) (rest : Option (List Char)) (index : Nat) :
    takeAs expected read? ⟨some (field.text.toList ++ tail rest), index⟩
      = (.ok a, ⟨rest, index + 1⟩) :=
  takeAs_split (splitField_text field rest) full hread expected index

/-- A number in any spelling, between blanks, however large it is. -/
def Denotes (field : List Char) (n : Int) : Prop :=
  ∃ before text behind, field = before ++ text ++ behind ∧
    (∀ c ∈ before, Text.isBlank c = true) ∧ (∀ c ∈ behind, Text.isBlank c = true) ∧
    Number.readSigned? text = some n

/-- A number of 64 bits in any spelling, between blanks. -/
def Spells (field : List Char) (n : Int) : Prop :=
  ∃ before text behind, field = before ++ text ++ behind ∧
    (∀ c ∈ before, Text.isBlank c = true) ∧ (∀ c ∈ behind, Text.isBlank c = true) ∧
    Number.readInt64? text = some n

theorem spells_iff {field : List Char} {n : Int} :
    Spells field n ↔ Denotes field n ∧ Number.IsInt64 n := by
  constructor
  · rintro ⟨before, text, behind, hfield, hbefore, hbehind, hread⟩
    obtain ⟨hsigned, hfits⟩ := Number.readInt64?_eq_some_iff.mp hread
    exact ⟨⟨before, text, behind, hfield, hbefore, hbehind, hsigned⟩, hfits⟩
  · rintro ⟨⟨before, text, behind, hfield, hbefore, hbehind, hsigned⟩, hfits⟩
    exact ⟨before, text, behind, hfield, hbefore, hbehind,
      Number.readInt64?_eq_some_iff.mpr ⟨hsigned, hfits⟩⟩

theorem Spells.blank {field : List Char} {n : Int} (h : Spells field n) {c : Char}
    (blank : Text.isBlank c = true) : Spells (c :: field) n := by
  obtain ⟨before, text, behind, rfl, hbefore, hbehind, hread⟩ := h
  exact ⟨c :: before, text, behind, rfl, List.forall_mem_cons.mpr ⟨blank, hbefore⟩, hbehind, hread⟩

theorem spells_uint32 (n : UInt32) : Spells (toString n).toList n.toNat :=
  ⟨[], (toString n).toList, [], by simp, nofun, nofun, Number.readInt64?_uint32 n⟩

/-- A number that is too large is not read. -/
theorem integer_denoted {field : List Char} {n : Int} (h : Denotes field n)
    (rest : Option (List Char)) (index : Nat) : integer ⟨some (field ++ tail rest), index⟩ =
      (if Number.IsInt64 n then .ok n else .error (.fieldMismatch index .integer),
        ⟨rest, index + 1⟩) := by
  obtain ⟨before, text, behind, rfl, hbefore, hbehind, hsigned⟩ := h
  have hfull : RawField.plain text ≠ .plain [] := fun h =>
    (Number.bare_of_readSigned? hsigned).1 (RawField.plain.inj h)
  refine (takeAs_full (splitField_number hbefore hbehind hsigned rest) hfull .integer _ index).trans ?_
  dsimp only
  rw [Number.readInt64?, hsigned, Option.bind_some]
  split <;> rfl

theorem integer_spelled {field : List Char} {n : Int} (h : Spells field n)
    (rest : Option (List Char)) (index : Nat) :
    integer ⟨some (field ++ tail rest), index⟩ = (.ok n, ⟨rest, index + 1⟩) := by
  obtain ⟨hdenotes, hfits⟩ := spells_iff.mp h
  rw [integer_denoted hdenotes, if_pos hfits]

theorem quotedString_quoted {text : String} (h : '"' ∉ text.toList) (rest : Option (List Char))
    (index : Nat) : quotedString ⟨some ('"' :: (text.toList ++ '"' :: tail rest)), index⟩
      = (.ok text, ⟨rest, index + 1⟩) := by
  have hnone : ∀ c ∈ ([] : List Char), Text.isBlank c = true := nofun
  have hsplit := splitField_quoted hnone hnone h rest
  simp only [List.nil_append, List.append_nil, List.cons_append, List.append_assoc] at hsplit
  refine takeAs_split hsplit RawField.noConfusion ?_ .quotedString index
  exact congrArg some String.ofList_toList

end Fields

theorem FieldValue.Writable.raw_ne {value : FieldValue} (h : value.Writable) :
    value.raw ≠ .plain [] := by
  cases value with
  | integer n => exact fun hraw => Number.toString_toList_ne_nil n (RawField.plain.inj hraw)
  | quoted text => exact RawField.noConfusion
  | token text => exact fun hraw => h.1 (String.toList_eq_nil_iff.mp (RawField.plain.inj hraw))

/-! ## Fields in turn -/

section

variable {σ α β : Type}

theorem run_bind (first : ExceptT DecodeError (StateM σ) α)
    (next : α → ExceptT DecodeError (StateM σ) β) (s : σ) :
    (first >>= next).run s = match first.run s with
      | (.ok value, s) => (next value).run s
      | (.error e, s) => (.error e, s) := by
  change ExceptT.bindCont next (first.run s).1 (first.run s).2 = _
  rcases first.run s with ⟨_ | value, s⟩ <;> rfl

theorem run_map (first : ExceptT DecodeError (StateM σ) α) (f : α → β) (s : σ) :
    (f <$> first).run s = (first.run s).map (Except.map f) id := by
  rw [map_eq_pure_bind, run_bind]
  rcases first.run s with ⟨_ | value, s⟩ <;> rfl

end

namespace FieldReader

theorem run_integer (f : Fields) : integer.run f = f.integer := rfl

theorem run_quotedString (f : Fields) :
    quotedString.run f = f.quotedString := rfl

theorem run_uint32 (f : Fields) :
    uint32.run f = (f.integer.1.bind fitUInt32, f.integer.2) := by
  rw [uint32, run_bind, run_integer]
  rcases f.integer with ⟨_ | value, f⟩ <;> rfl

theorem run_uint32_spelled {field : List Char} {n : Int} (h : Fields.Spells field n)
    (rest : Option (List Char)) (index : Nat) :
    uint32.run ⟨some (field ++ Fields.tail rest), index⟩
      = (fitUInt32 n, ⟨rest, index + 1⟩) := by
  rw [run_uint32, Fields.integer_spelled h]
  rfl

theorem fitUInt32_toNat (n : UInt32) : fitUInt32 n.toNat = .ok n := by
  rw [fitUInt32, Number.toUInt32?_toNat]

theorem fitUInt32_outside {n : Int} (h : n < 0 ∨ 0xFFFFFFFF < n) :
    fitUInt32 n = .error (.outOfRange n 0xFFFFFFFF) := by
  rw [fitUInt32, Number.toUInt32?_eq_none_iff.mpr (by omega)]

end FieldReader

/-! ## Calls -/

/-- The calls that consume fields; `skipMany` skips one field and `more` behind it. -/
inductive Accessor where
  | integer
  | float
  | quotedString
  | token
  | skip
  | skipMany (more : Nat)

/-- What a call that succeeds hands out. -/
inductive Reading where
  | integer (n : Int)
  | float (x : Number.Binary32)
  | text (text : String)
  | nothing

namespace Accessor

def read : Accessor → Fields → Except DecodeError Reading × Fields
  | integer, f => f.integer.map (Except.map Reading.integer) id
  | float, f => f.float.map (Except.map Reading.float) id
  | quotedString, f => f.quotedString.map (Except.map Reading.text) id
  | token, f => f.token.map (Except.map Reading.text) id
  | skip, f => f.skip.map (Except.map fun _ => Reading.nothing) id
  | skipMany more, f => (f.skipMany (more + 1)).map (Except.map fun _ => Reading.nothing) id

/-- Calls one after the other, whatever comes of each. -/
def readEach : List Accessor → Fields → List (Except DecodeError Reading) × Fields
  | [], f => ([], f)
  | accessor :: accessors, f =>
    let (reading, f) := accessor.read f
    let (readings, f) := readEach accessors f
    (reading :: readings, f)

/-- The call is one for a field with this value and has this to hand out. -/
inductive Suits : Accessor → FieldValue → Reading → Prop where
  | integer (n : Int) : Suits .integer (.integer n) (.integer n)
  | quoted (text : String) : Suits .quotedString (.quoted text) (.text text)
  | token (text : String) : Suits .token (.token text) (.text text)
  | skip (value : FieldValue) : Suits .skip value .nothing

theorem Suits.read_text {accessor : Accessor} {field : WrittenField} {reading : Reading}
    (h : accessor.Suits field.value reading) (rest : Option (List Char)) (index : Nat) :
    accessor.read ⟨some (field.text.toList ++ Fields.tail rest), index⟩
      = (.ok reading, ⟨rest, index + 1⟩) := by
  have hfull := field.writable.raw_ne
  have hwritable := field.writable
  generalize hvalue : field.value = value at h hwritable
  cases h with
  | integer n =>
    rw [read, Fields.integer, Fields.takeAs_text hfull (a := n)]
    · rfl
    · rw [hvalue]
      exact Number.readInt64?_toString hwritable
  | quoted text =>
    rw [read, Fields.quotedString, Fields.takeAs_text hfull (a := text)]
    · rfl
    · rw [hvalue]
      exact congrArg some String.ofList_toList
  | token text =>
    rw [read, Fields.token, Fields.takeAs_text hfull (a := text)]
    · rfl
    · rw [hvalue]
      exact congrArg some String.ofList_toList
  | skip =>
    rw [read, Fields.skip, Fields.take_text]
    rfl

/-- Behind the last field. -/
theorem read_missing (accessor : Accessor) (index : Nat) :
    accessor.read ⟨none, index⟩ = (.error (.fieldMissing index), ⟨none, index⟩) := by
  cases accessor <;> rfl

theorem readEach_missing (accessors : List Accessor) (index : Nat) :
    readEach accessors ⟨none, index⟩
      = (accessors.map fun _ => .error (.fieldMissing index), ⟨none, index⟩) := by
  induction accessors with
  | nil => rfl
  | cons accessor accessors ih => simp only [readEach, read_missing, ih, List.map_cons]

end Accessor

/-! ## Whole lines -/

/-- A written field with a call that suits it. -/
structure Call where
  field : WrittenField
  accessor : Accessor
  reading : Reading
  suits : accessor.Suits field.value reading

namespace Call

/-- A line of fields between commas, behind its lead. -/
def line (lead : String) (calls : List Call) : String :=
  lead ++ ",".intercalate (calls.map fun call => call.field.text)

/-- The text from the first of the fields on. -/
def rest : List Call → Option (List Char)
  | [] => none
  | call :: calls => some (call.field.text.toList ++ Fields.tail (rest calls))

theorem rest_eq {calls : List Call} (nonempty : calls ≠ []) :
    rest calls = some (",".intercalate (calls.map fun call => call.field.text)).toList := by
  induction calls with
  | nil => exact absurd rfl nonempty
  | cons call calls ih =>
    cases calls with
    | nil => simp [rest, Fields.tail]
    | cons next calls =>
      rw [rest, ih (List.cons_ne_nil _ _)]
      simp only [List.map_cons]
      rw [String.intercalate_cons_cons, String.toList_append, String.toList_append,
        List.append_assoc]
      rfl

/-- One field after the other is consumed, whatever fields are left. -/
theorem readEach_append (done left : List Call) (index : Nat) :
    Accessor.readEach (done.map Call.accessor) ⟨rest (done ++ left), index⟩
      = (done.map fun call => .ok call.reading, ⟨rest left, index + done.length⟩) := by
  induction done generalizing index with
  | nil => rfl
  | cons call done ih =>
    simp only [List.map_cons, List.cons_append, rest, Accessor.readEach, call.suits.read_text, ih,
      List.length_cons, Nat.add_assoc, Nat.add_comm 1]

end Call

theorem Decoder.seek_append {lead line : String} {earlier : List String} {fields : Fields}
    (others : ∀ line ∈ earlier, Text.startsWith line lead = false)
    (hline : fieldsAfter? lead line = some fields) (later : List String) :
    seek lead (earlier ++ line :: later) = (.ok fields, ⟨later⟩) := by
  induction earlier with
  | nil => rw [List.nil_append, seek, hline]
  | cons other earlier ih =>
    obtain ⟨hother, hothers⟩ := List.forall_mem_cons.mp others
    have hnone : fieldsAfter? lead other = none := by
      rw [fieldsAfter?, Option.map_eq_none_iff, ← Option.not_isSome_iff_eq_none]
      exact ne_true_of_eq_false hother
    rw [List.cons_append, seek, hnone]
    exact ih hothers

/-- A line of written fields is found behind lines without its lead. From the calls that suit the
fields come the values, in order, and the place tells how many have been consumed. From then on
every call finds the field missing, how many there ever are, and the place stays as it is. -/
theorem Decoder.nextLine_readEach {lead : String} {earlier : List String} {calls : List Call}
    (others : ∀ line ∈ earlier, Text.startsWith line lead = false) (nonempty : calls ≠ [])
    (later : List String) :
    ∃ start, nextLine lead ⟨earlier ++ Call.line lead calls :: later⟩ = (.ok start, ⟨later⟩) ∧
      (∀ done left, calls = done ++ left →
        (Accessor.readEach (done.map Call.accessor) start).1
            = (done.map fun call => .ok call.reading) ∧
          (Accessor.readEach (done.map Call.accessor) start).2.index = done.length) ∧
      ∀ behind, behind = (Accessor.readEach (calls.map Call.accessor) start).2 →
        ∀ further : List Accessor, Accessor.readEach further behind
          = (further.map fun _ => .error (.fieldMissing calls.length), behind) := by
  have hline : fieldsAfter? lead (Call.line lead calls) = some ⟨Call.rest calls, 0⟩ := by
    rw [fieldsAfter?, Call.line, String.toList_append, Text.dropLead?_eq_some_iff.mpr rfl,
      Call.rest_eq nonempty]
    rfl
  refine ⟨_, seek_append others hline later, ?_, ?_⟩
  · rintro done left rfl
    rw [Call.readEach_append]
    exact ⟨rfl, Nat.zero_add _⟩
  · rintro behind rfl further
    have hread := Call.readEach_append calls [] 0
    rw [List.append_nil, Nat.zero_add] at hread
    rw [hread]
    exact Accessor.readEach_missing further calls.length

/-- A number at the lower end of its range, a comma between quotes, a token with a blank in it and a
field that is skipped; with a blank beyond ASCII among those around them. -/
theorem Decoder.nextLine_readEach_mixed :
    ∃ start, nextLine "+X:"
        ⟨["+Y: 1", "+X: -9223372036854775808\u2003,\t\" a,b \" ,GSM 900,7", "+X: 8"]⟩
          = (.ok start, ⟨["+X: 8"]⟩) ∧
      (Accessor.readEach [.integer, .quotedString, .token, .skip] start).1
        = [.ok (.integer (-0x8000000000000000)), .ok (.text " a,b "), .ok (.text "GSM 900"),
            .ok .nothing] ∧
      (Accessor.readEach [.integer, .quotedString] start).2.index = 2 ∧
      ∀ behind, behind = (Accessor.readEach [.integer, .quotedString, .token, .skip] start).2 →
        Accessor.readEach [.float, .skipMany 2, .token] behind
          = ([.error (.fieldMissing 4), .error (.fieldMissing 4), .error (.fieldMissing 4)],
              behind) := by
  have hblank (text : String) (h : text.toList.all Text.isBlank = true) :
      ∀ c ∈ text.toList, Text.isBlank c = true := List.all_eq_true.mp h
  let lowest : Call := ⟨⟨.integer (-0x8000000000000000), " ", "\u2003", by decide,
    hblank _ (by decide), hblank _ (by decide)⟩, _, _, .integer _⟩
  let quoted : Call := ⟨⟨.quoted " a,b ", "\t", " ", by decide, hblank _ (by decide),
    hblank _ (by decide)⟩, _, _, .quoted _⟩
  let token : Call := ⟨⟨.token "GSM 900", "", "", by decide, hblank _ rfl, hblank _ rfl⟩, _, _,
    .token _⟩
  let skipped : Call := ⟨⟨.integer 7, "", "", by decide, hblank _ rfl, hblank _ rfl⟩, _, _,
    .skip _⟩
  have hothers : ∀ line ∈ ["+Y: 1"], Text.startsWith line "+X:" = false := by decide
  have hnonempty : [lowest, quoted, token, skipped] ≠ [] := List.cons_ne_nil _ _
  obtain ⟨start, hline, hread, hmissing⟩ := nextLine_readEach hothers hnonempty ["+X: 8"]
  refine ⟨start, ?_, (hread [lowest, quoted, token, skipped] [] rfl).1,
    (hread [lowest, quoted] [token, skipped] rfl).2, fun behind h => hmissing behind h _⟩
  exact hline

end CellModem
