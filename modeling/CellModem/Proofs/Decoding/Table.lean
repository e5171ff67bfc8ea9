import CellModem.Proofs.Decoding.Fields

/-!
# A table is read in one pass

The rows of a table are counted before they are read, and then looked for one by one. Both go by the
same lead, so reading a table comes to going through its lines once: the lines with the lead are
read as they come, and the others are passed over.
-/

namespace CellModem

namespace Decoder

theorem fieldsAfter?_isSome (lead line : String) :
    (fieldsAfter? lead line).isSome = Text.startsWith line lead := by
  simp [fieldsAfter?, Text.startsWith]

theorem fieldsAfter?_eq_some_iff {lead line : String} {fields : Fields} :
    fieldsAfter? lead line = some fields ↔ ∃ rest, line = lead ++ rest ∧ fields = .ofText rest := by
  simp only [fieldsAfter?, Option.map_eq_some_iff, Text.dropLead?_eq_some_iff, Fields.ofText]
  constructor
  · rintro ⟨rest, hline, rfl⟩
    refine ⟨.ofList rest, ?_, by simp⟩
    apply String.toList_injective
    simpa using hline
  · rintro ⟨rest, rfl, rfl⟩
    exact ⟨rest.toList, by simp, rfl⟩

/-! ## Counting and then reading -/

section

variable {m : Type → Type} [Monad m] {α : Type} (lead : String)
  (row : Nat → Fields → ExceptT DecodeError m α)

/-- Reads the lines with the lead as they come, the first of them numbered `index`. -/
def scan (lead : String) (row : Nat → Fields → ExceptT DecodeError m α) :
    (index : Nat) → List String → ExceptT DecodeError m (List α)
  | _, [] => pure []
  | index, line :: lines =>
    match fieldsAfter? lead line with
    | none => scan lead row index lines
    | some fields => do
      let value ← row index fields
      return value :: (← scan lead row (index + 1) lines)

/-- As many rows are found as have been counted. -/
theorem rows_eq_scan [LawfulMonad m] (index : Nat) (lines : List String) :
    rows lead row (lines.filter (Text.startsWith · lead)).length index ⟨lines⟩
      = scan lead row index lines := by
  induction lines generalizing index with
  | nil => rfl
  | cons line lines ih =>
    cases hline : fieldsAfter? lead line with
    | none =>
      have hother : Text.startsWith line lead = false := by
        rw [← fieldsAfter?_isSome, hline, Option.isSome_none]
      have hskip (count : Nat) :
          rows lead row count index ⟨line :: lines⟩ = rows lead row count index ⟨lines⟩ := by
        cases count with
        | zero => rfl
        | succ count => simp only [rows, nextLine, seek, hline]
      rw [List.filter_cons_of_neg (by simp [hother]), hskip, ih, scan, hline]
    | some fields =>
      have hrow : Text.startsWith line lead = true := by
        rw [← fieldsAfter?_isSome, hline, Option.isSome_some]
      rw [List.filter_cons_of_pos (by simp [hrow]), List.length_cons, scan, hline]
      simp only [rows, nextLine, seek, hline, ih]
      exact pure_bind fields _

theorem scan_eq_mapM [LawfulMonad m] (index : Nat) (lines : List String) :
    scan lead row index lines = ((lines.filterMap (fieldsAfter? lead)).zipIdx index).mapM
      fun call => row call.2 call.1 := by
  induction lines generalizing index with
  | nil => rfl
  | cons line lines ih =>
    rw [scan, ih, ih]
    cases hline : fieldsAfter? lead line with
    | none => rw [List.filterMap_cons_none hline]
    | some fields => rw [List.filterMap_cons_some hline, List.zipIdx_cons, List.mapM_cons]

end

end Decoder

/-- The first line with the lead is read, and nothing else. -/
theorem Response.decodeSingle_first {α : Type} {r : Response} {lead rest : String}
    {earlier later : List String} (lines : r.lines = earlier ++ (lead ++ rest) :: later)
    (others : ∀ line ∈ earlier, Text.startsWith line lead = false) (read : FieldReader α) :
    r.decodeSingle lead read = (read.run (.ofText rest)).1 := by
  have hline : Decoder.fieldsAfter? lead (lead ++ rest) = some (.ofText rest) :=
    Decoder.fieldsAfter?_eq_some_iff.mpr ⟨rest, rfl, rfl⟩
  rw [decodeSingle, Decoder.ofResponse, Decoder.nextLine, lines,
    Decoder.seek_append others hline later]
  rfl

theorem Response.decodeTableWith_eq {m : Type → Type} [Monad m] [LawfulMonad m] {α : Type}
    (r : Response) (lead : String) (cap : Nat) (row : Nat → Fields → ExceptT DecodeError m α) :
    r.decodeTableWith lead cap row
      = if cap < (r.lines.filter (Text.startsWith · lead)).length then throw (.tooManyRows cap)
        else Decoder.scan lead row 0 r.lines := by
  rw [decodeTableWith, ← Decoder.rows_eq_scan]
  rfl

theorem run_mapM {ε α β : Type} (f : α → Except ε β) (list : List α) :
    (list.mapM fun x => (ExceptT.mk (f x) : ExceptT ε Id β)).run = (list.mapM f : Except _ _) := by
  have hbind {γ δ : Type} (first : ExceptT ε Id γ) (next : γ → ExceptT ε Id δ) :
      (first >>= next).run = (first.run >>= fun value => (next value).run : Except ε δ) := by
    change ExceptT.bindCont next first.run = _
    rcases first.run with e | value <;> rfl
  induction list with
  | nil => rfl
  | cons x list ih =>
    rw [List.mapM_cons, List.mapM_cons, ← ih, hbind]
    congr 1
    funext value
    exact hbind _ _

/-- A table whose rows are read alike, whatever their number. -/
theorem Response.decodeTable_eq {α : Type} (r : Response) (lead : String) (cap : Nat)
    (row : FieldReader α) : (r.decodeTable lead cap fun _ => row)
      = if cap < (r.lines.filter (Text.startsWith · lead)).length then .error (.tooManyRows cap)
        else (r.lines.filterMap (Decoder.fieldsAfter? lead)).mapM fun fields => (row.run fields).1 := by
  rw [decodeTable, decodeTableWith_eq, Decoder.scan_eq_mapM]
  split
  · rfl
  · have hfst := List.zipIdx_map_fst 0 (r.lines.filterMap (Decoder.fieldsAfter? lead))
    conv => rhs; rw [← hfst, List.mapM_map]
    exact run_mapM _ _

/-! ## Rows that keep a state -/

section

variable {σ α β : Type}

variable (lead : String) (row : Nat → Fields → ExceptT DecodeError (StateM σ) α)

/-- The lines are gone through once. Those with the lead are given to `row` as they come, from
behind the lead on and numbered from `index`, up to the first that fails. -/
inductive OnePass : (index : Nat) → List String → σ → List (Fields × Nat) →
    Except DecodeError (List α) → σ → Prop where
  | done (index : Nat) (s : σ) : OnePass index [] s [] (.ok []) s
  | other {index : Nat} {line : String} {lines : List String} {s s' : σ}
    {calls : List (Fields × Nat)} {result : Except DecodeError (List α)}
    (unlike : Text.startsWith line lead = false)
    (behind : OnePass index lines s calls result s') :
    OnePass index (line :: lines) s calls result s'
  | fails {index : Nat} {rest : String} {s s' : σ} {e : DecodeError} (lines : List String)
    (call : (row index (.ofText rest)).run s = (.error e, s')) :
    OnePass index ((lead ++ rest) :: lines) s [(.ofText rest, index)] (.error e) s'
  | reads {index : Nat} {rest : String} {lines : List String} {s s' s'' : σ} {value : α}
    {calls : List (Fields × Nat)} {result : Except DecodeError (List α)}
    (call : (row index (.ofText rest)).run s = (.ok value, s'))
    (behind : OnePass (index + 1) lines s' calls result s'') :
    OnePass index ((lead ++ rest) :: lines) s ((.ofText rest, index) :: calls)
      (result.map (value :: ·)) s''

/-- The row with a note of every call. -/
def noted : Nat → Fields → ExceptT DecodeError (StateM (σ × List (Fields × Nat))) α :=
  fun index fields => ExceptT.mk fun (s, calls) =>
    let (result, s) := (row index fields).run s
    (result, s, calls ++ [(fields, index)])

variable {lead row}

theorem run_noted {index : Nat} {fields : Fields} {s s' : σ} {result : Except DecodeError α}
    (call : (row index fields).run s = (result, s')) (calls : List (Fields × Nat)) :
    (noted row index fields).run (s, calls) = (result, s', calls ++ [(fields, index)]) := by
  change (let (result, s) := (row index fields).run s; (result, s, calls ++ [(fields, index)])) = _
  rw [call]

/-! ### Every line in turn -/

section

variable {index : Nat} {lines : List String} {s s' : σ} {rest : String}

theorem Decoder.scan_other {line : String} (unlike : Text.startsWith line lead = false) :
    scan lead row index (line :: lines) = scan lead row index lines := by
  rw [← fieldsAfter?_isSome, Option.isSome_eq_false_iff, Option.isNone_iff_eq_none] at unlike
  rw [scan, unlike]

theorem Decoder.scan_row : scan lead row index ((lead ++ rest) :: lines) = (do
    let value ← row index (.ofText rest)
    return value :: (← scan lead row (index + 1) lines)) := by
  rw [scan, fieldsAfter?_eq_some_iff.mpr ⟨rest, rfl, rfl⟩]

theorem Decoder.scan_fails {e : DecodeError}
    (call : (row index (.ofText rest)).run s = (.error e, s')) :
    (scan lead row index ((lead ++ rest) :: lines)).run s = (.error e, s') := by
  rw [scan_row, run_bind, call]

theorem Decoder.scan_reads {value : α} {result : Except DecodeError (List α)} {s'' : σ}
    (call : (row index (.ofText rest)).run s = (.ok value, s'))
    (behind : (scan lead row (index + 1) lines).run s' = (result, s'')) :
    (scan lead row index ((lead ++ rest) :: lines)).run s = (result.map (value :: ·), s'') := by
  rw [scan_row, run_bind, call]
  dsimp only
  rw [bind_pure_comp, run_map, behind]
  rfl

end

theorem Decoder.scan_onePass (index : Nat) (lines : List String) (s : σ)
    (past : List (Fields × Nat)) : ∃ calls result s',
      (scan lead row index lines).run s = (result, s') ∧
      (scan lead (noted row) index lines).run (s, past) = (result, s', past ++ calls) ∧
      OnePass lead row index lines s calls result s' := by
  induction lines generalizing index s past with
  | nil => exact ⟨[], .ok [], s, rfl, by rw [List.append_nil]; rfl, .done index s⟩
  | cons line lines ih =>
    cases hlead : Text.startsWith line lead with
    | false =>
      obtain ⟨calls, result, s', hscan, hnoted, hpass⟩ := ih index s past
      exact ⟨calls, result, s', by rw [scan_other hlead, hscan], by rw [scan_other hlead, hnoted],
        .other hlead hpass⟩
    | true =>
      rw [← fieldsAfter?_isSome, Option.isSome_iff_exists] at hlead
      obtain ⟨fields, hfields⟩ := hlead
      obtain ⟨rest, rfl, rfl⟩ := fieldsAfter?_eq_some_iff.mp hfields
      rcases hcall : (row index (.ofText rest)).run s with ⟨e | value, s'⟩
      · exact ⟨_, _, _, scan_fails hcall, scan_fails (run_noted hcall past), .fails lines hcall⟩
      · obtain ⟨calls, result, s'', hscan, hnoted, hpass⟩ :=
          ih (index + 1) s' (past ++ [(.ofText rest, index)])
        rw [List.append_assoc] at hnoted
        exact ⟨_, _, _, scan_reads hcall hscan, scan_reads (run_noted hcall past) hnoted,
          .reads hcall hpass⟩

namespace OnePass

variable {index : Nat} {lines : List String} {s s' : σ} {calls : List (Fields × Nat)}
  {result : Except DecodeError (List α)}

theorem filterMap_other {line : String} (unlike : Text.startsWith line lead = false) :
    (line :: lines).filterMap (Decoder.fieldsAfter? lead)
      = lines.filterMap (Decoder.fieldsAfter? lead) := by
  rw [← Decoder.fieldsAfter?_isSome, Option.isSome_eq_false_iff, Option.isNone_iff_eq_none]
    at unlike
  exact List.filterMap_cons_none unlike

theorem filterMap_row (rest : String) :
    ((lead ++ rest) :: lines).filterMap (Decoder.fieldsAfter? lead)
      = .ofText rest :: lines.filterMap (Decoder.fieldsAfter? lead) :=
  List.filterMap_cons_some (Decoder.fieldsAfter?_eq_some_iff.mpr ⟨rest, rfl, rfl⟩)

theorem calls_prefix (h : OnePass lead row index lines s calls result s') :
    calls <+: (lines.filterMap (Decoder.fieldsAfter? lead)).zipIdx index := by
  induction h with
  | done => exact List.nil_prefix
  | other unlike behind ih =>
    rw [filterMap_other unlike]
    exact ih
  | fails lines call =>
    rw [filterMap_row, List.zipIdx_cons]
    exact List.cons_prefix_cons.mpr ⟨rfl, List.nil_prefix⟩
  | reads call behind ih =>
    rw [filterMap_row, List.zipIdx_cons]
    exact List.cons_prefix_cons.mpr ⟨rfl, ih⟩

theorem calls_all {values : List α} (h : OnePass lead row index lines s calls (.ok values) s') :
    calls = (lines.filterMap (Decoder.fieldsAfter? lead)).zipIdx index := by
  generalize hresult : Except.ok values = result at h
  induction h generalizing values with
  | done => rfl
  | other unlike behind ih => rw [filterMap_other unlike, ih hresult]
  | fails => cases hresult
  | @reads index rest lines s s' s'' value calls result call behind ih =>
    cases result with
    | error e => cases hresult
    | ok values => rw [filterMap_row, List.zipIdx_cons, ih rfl]

/-- A failure is that of the row that was read last. -/
theorem fails_last {e : DecodeError} (h : OnePass lead row index lines s calls (.error e) s') :
    ∃ fields last before, calls.getLast? = some (fields, last) ∧
      (row last fields).run before = (.error e, s') := by
  generalize hresult : Except.error e = result at h
  induction h with
  | done => cases hresult
  | other unlike behind ih => exact ih hresult
  | fails lines call =>
    obtain rfl := Except.error.inj hresult
    exact ⟨_, _, _, rfl, call⟩
  | @reads index rest lines s s' s'' value calls result call behind ih =>
    cases result with
    | ok values => cases hresult
    | error e' =>
      obtain rfl := Except.error.inj hresult
      obtain ⟨fields, last, before, hlast, hcall⟩ := ih rfl
      refine ⟨fields, last, before, ?_, hcall⟩
      rw [List.getLast?_cons, hlast]
      rfl

end OnePass

end

/-- What comes of reading a table, whatever state the rows keep. With too many rows nothing is read.
Otherwise the lines are gone through once: the rows are read in their order, numbered from zero,
each from behind the lead on, up to the first that fails. The lead is never found missing, unless a
row says so. -/
theorem Response.decodeTableWith_onePass {σ α : Type} (r : Response) (lead : String) (cap : Nat)
    (row : Nat → Fields → ExceptT DecodeError (StateM σ) α) (s : σ) :
    ∃ calls result s', (r.decodeTableWith lead cap row).run s = (result, s') ∧
      (r.decodeTableWith lead cap (noted row)).run (s, []) = (result, s', calls) ∧
      (cap < (r.lines.filter (Text.startsWith · lead)).length →
        calls = [] ∧ result = .error (.tooManyRows cap) ∧ s' = s) ∧
      ((r.lines.filter (Text.startsWith · lead)).length ≤ cap →
        OnePass lead row 0 r.lines s calls result s' ∧
        calls <+: (r.lines.filterMap (Decoder.fieldsAfter? lead)).zipIdx ∧
        ∀ values, result = .ok values →
          calls = (r.lines.filterMap (Decoder.fieldsAfter? lead)).zipIdx) ∧
      ∀ missing, result = .error (.leadNotFound missing) →
        ∃ fields index before, calls.getLast? = some (fields, index) ∧
          (row index fields).run before = (.error (.leadNotFound missing), s') := by
  by_cases hcap : cap < (r.lines.filter (Text.startsWith · lead)).length
  · refine ⟨[], .error (.tooManyRows cap), s, ?_, ?_, fun _ => ⟨rfl, rfl, rfl⟩,
      fun h => absurd hcap (by omega), nofun⟩
    · rw [decodeTableWith_eq, if_pos hcap]
      rfl
    · rw [decodeTableWith_eq, if_pos hcap]
      rfl
  · obtain ⟨calls, result, s', hscan, hnoted, hpass⟩ := Decoder.scan_onePass 0 r.lines s []
    refine ⟨calls, result, s', ?_, ?_, fun h => absurd h hcap, fun _ => ⟨hpass, hpass.calls_prefix,
      ?_⟩, ?_⟩
    · rw [decodeTableWith_eq, if_neg hcap, hscan]
    · rw [decodeTableWith_eq, if_neg hcap, hnoted, List.nil_append]
    · rintro values rfl
      exact hpass.calls_all
    · rintro missing rfl
      exact hpass.fails_last

/-- Reads a number and adds it to those before. -/
def summing : Nat → Fields → ExceptT DecodeError (StateM Int) Int := fun _ fields =>
  ExceptT.mk fun sum => match fields.integer.1 with
    | .ok n => (.ok n, sum + n)
    | .error e => (.error e, sum)

/-- The third of three rows is no number. -/
def pins : List String :=
  ["#GPIO:" ++ " 1,0", "noise", "#GPIO:" ++ " 2,1", "", "#GPIO:" ++ " off", "#GPIO"]

theorem decodeTableWith_pins {σ : Type} {row : Nat → Fields → ExceptT DecodeError (StateM σ) Int}
    {s₀ s₁ s₂ s₃ : σ} {n n' : Int} {e : DecodeError}
    (first : (row 0 (.ofText " 1,0")).run s₀ = (.ok n, s₁))
    (second : (row 1 (.ofText " 2,1")).run s₁ = (.ok n', s₂))
    (third : (row 2 (.ofText " off")).run s₂ = (.error e, s₃)) :
    ((Response.success pins).decodeTableWith "#GPIO:" 3 row).run s₀ = (.error e, s₃) := by
  have hthird : (Decoder.scan "#GPIO:" row 2 ["", "#GPIO:" ++ " off", "#GPIO"]).run s₂
      = (.error e, s₃) := by
    rw [Decoder.scan_other (by decide), Decoder.scan_fails third]
  have hsecond : (Decoder.scan "#GPIO:" row 1
      ("noise" :: ("#GPIO:" ++ " 2,1") :: ["", "#GPIO:" ++ " off", "#GPIO"])).run s₁
        = (.error e, s₃) := by
    rw [Decoder.scan_other (by decide), Decoder.scan_reads second hthird]
    rfl
  rw [Response.decodeTableWith_eq, if_neg (by decide), Response.success, pins,
    Decoder.scan_reads first hsecond]
  rfl

theorem Response.decodeTableWith_onePass_summing :
    (∃ calls, OnePass "#GPIO:" summing 0 pins 0 calls (.error (.fieldMismatch 0 .integer)) 3 ∧
      calls = [(.ofText " 1,0", 0), (.ofText " 2,1", 1), (.ofText " off", 2)]) ∧
    ((Response.success pins).decodeTableWith "" 5 (noted summing)).run (0, [])
      = (.error (.tooManyRows 5), 0, []) := by
  have hfirst : (summing 0 (.ofText " 1,0")).run 0 = (.ok 1, 1) := rfl
  have hsecond : (summing 1 (.ofText " 2,1")).run 1 = (.ok 2, 3) := rfl
  have hthird : (summing 2 (.ofText " off")).run 3 = (.error (.fieldMismatch 0 .integer), 3) := rfl
  constructor
  · obtain ⟨calls, result, s, hrun, hnoted, -, hwithin, -⟩ :=
      decodeTableWith_onePass (.success pins) "#GPIO:" 3 summing 0
    obtain ⟨rfl, rfl⟩ := Prod.mk.inj (hrun.symm.trans (decodeTableWith_pins hfirst hsecond hthird))
    have hcalls := decodeTableWith_pins (run_noted hfirst []) (run_noted hsecond _)
      (run_noted hthird _)
    obtain ⟨hpass, -, -⟩ := hwithin (by decide)
    exact ⟨calls, hpass, (Prod.mk.inj (Prod.mk.inj (hnoted.symm.trans hcalls)).2).2⟩
  · obtain ⟨calls, result, s, -, hnoted, htoo, -⟩ :=
      decodeTableWith_onePass (.success pins) "" 5 summing 0
    obtain ⟨rfl, rfl, rfl⟩ := htoo (by decide)
    exact hnoted

end CellModem
