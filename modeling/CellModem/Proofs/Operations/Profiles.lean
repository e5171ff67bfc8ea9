import CellModem.Proofs.Decoding.Table
import CellModem.Proofs.Operations.Arguments
import CellModem.Proofs.Operations.Ways

/-!
# Profiles are read back as they were set

A line of the profile table holds a profile as `AT+CGDCONT=` takes it, and maybe more fields. The
table gives the profiles in their order, whatever lines stand between.
-/

namespace CellModem

/-! ## One line -/

namespace Profile

/-- The line holds the profile, and behind it more fields or none. -/
def HeldBy (p : Profile) (line : String) : Prop :=
  '"' ∉ p.pdpType.toList ∧ '"' ∉ p.apn.toList ∧
    ∃ further, line = "+CGDCONT: " ++ p.argument ++ String.ofList (Fields.tail further)

/-- The line has a number of 64 bits in place of the profile's number. -/
def Misnumbered (value : Int) (line : String) : Prop :=
  ∃ field further, Fields.Spells field value ∧
    line = "+CGDCONT:" ++ String.ofList (field ++ Fields.tail further)

/-- What comes of a line of the table. -/
def ofLine? (line : String) : Option (Except DecodeError Profile) :=
  (Decoder.fieldsAfter? "+CGDCONT:" line).map fun fields => (row.run fields).1

theorem ofLine?_append (rest : String) :
    ofLine? ("+CGDCONT:" ++ rest) = some (row.run (.ofText rest)).1 := by
  rw [ofLine?, Decoder.fieldsAfter?_eq_some_iff.mpr ⟨rest, rfl, rfl⟩]
  rfl

theorem argument_toList (p : Profile) : p.argument.toList = (toString p.cid).toList ++
    ',' :: '"' :: (p.pdpType.toList ++ '"' :: ',' :: '"' :: (p.apn.toList ++ ['"'])) := by
  simp [argument, toString]

theorem HeldBy.ofLine? {p : Profile} {line : String} (h : p.HeldBy line) :
    ofLine? line = some (.ok p) := by
  obtain ⟨hpdpType, hapn, further, rfl⟩ := h
  have hline : "+CGDCONT: " ++ p.argument ++ String.ofList (Fields.tail further) = "+CGDCONT:" ++
      String.ofList ((' ' :: (toString p.cid).toList) ++ Fields.tail
        (some ('"' :: (p.pdpType.toList ++ '"' :: Fields.tail
          (some ('"' :: (p.apn.toList ++ '"' :: Fields.tail further))))))) := by
    apply String.toList_injective
    simp [argument_toList, Fields.tail]
  have hcid := (Fields.spells_uint32 p.cid).blank (show Text.isBlank ' ' = true by decide)
  rw [hline, ofLine?_append, Fields.ofText, String.toList_ofList, row, run_bind,
    FieldReader.run_uint32_spelled hcid, FieldReader.fitUInt32_toNat]
  dsimp only
  rw [run_bind, FieldReader.run_quotedString, Fields.quotedString_quoted hpdpType]
  dsimp only
  rw [run_bind, FieldReader.run_quotedString, Fields.quotedString_quoted hapn]
  rfl

theorem Misnumbered.ofLine? {value : Int} {line : String} (h : Misnumbered value line)
    (outside : value < 0 ∨ 0xFFFFFFFF < value) :
    ofLine? line = some (.error (.outOfRange value 0xFFFFFFFF)) := by
  obtain ⟨field, further, hfield, rfl⟩ := h
  rw [ofLine?_append, row, run_bind, Fields.ofText, String.toList_ofList,
    FieldReader.run_uint32_spelled hfield, FieldReader.fitUInt32_outside outside]

/-! ## The table -/

theorem ofLine?_isSome (line : String) :
    (ofLine? line).isSome = Text.startsWith line "+CGDCONT:" := by
  rw [ofLine?, Option.isSome_map, Decoder.fieldsAfter?_isSome]

theorem HeldBy.startsWith {p : Profile} {line : String} (h : p.HeldBy line) :
    Text.startsWith line "+CGDCONT:" = true := by
  rw [← ofLine?_isSome, h.ofLine?]
  rfl

theorem filterMap_ofLine? (lines : List String) :
    lines.filterMap ofLine? = (lines.filter (Text.startsWith · "+CGDCONT:")).filterMap ofLine? := by
  rw [List.filterMap_filter]
  congr 1
  funext line
  cases h : ofLine? line <;> simp [← ofLine?_isSome, h]

theorem ofResponse_eq (r : Response) : ofResponse r =
    if 16 < (r.lines.filter (Text.startsWith · "+CGDCONT:")).length then .error (.tooManyRows 16)
    else ((r.lines.filter (Text.startsWith · "+CGDCONT:")).filterMap ofLine?).mapM id := by
  have hlines : r.lines.filterMap ofLine? = (r.lines.filterMap
      (Decoder.fieldsAfter? "+CGDCONT:")).map fun fields => (row.run fields).1 := by
    rw [List.map_filterMap]
    rfl
  rw [ofResponse, Response.decodeTable_eq, ← filterMap_ofLine?, hlines, List.mapM_map]
  rfl

theorem mapM_held {profiles : List Profile} {rows : List String}
    (h : List.Forall₂ HeldBy profiles rows) (more : List String) :
    ((rows ++ more).filterMap ofLine?).mapM id
      = (profiles ++ ·) <$> (more.filterMap ofLine?).mapM id := by
  induction h with
  | nil => simp
  | @cons p line profiles rows hline _ ih =>
    rw [List.cons_append, List.filterMap_cons_some hline.ofLine?, List.mapM_cons, ih]
    cases (more.filterMap ofLine?).mapM id <;> rfl

end Profile

/-! ## Setting a profile -/

variable {υ : Type}

theorem leads_setProfile (cid pdpType apn : String) (vendor : Vendor) :
    (Host.carryOut (Operation.setProfile cid pdpType apn) vendor .full : Step (Host υ) _).Leads
      (fun _ => True) fun way result =>
        (way = [] ∧ ¬ Profile.MadeOf cid pdpType apn ∧
          ∃ detail, result = .error (.invalidArgument detail)) ∨
        Profile.MadeOf cid pdpType apn ∧ ∃ number answer,
          Number.readUInt32? cid.toList = some number ∧
          way = [("AT+CGDCONT=" ++ (Profile.mk number pdpType apn).argument, answer)] := by
  have hchecks : Except.Checks (Profile.MadeOf cid pdpType apn)
      (fun r : Request Unit => ∃ number, Number.readUInt32? cid.toList = some number ∧
        r = .setProfile ⟨number, pdpType, apn⟩)
      (do return .setProfile (← Profile.parse cid pdpType apn)) := by
    refine (Profile.checks_parse cid pdpType apn).map ?_
    rintro ⟨number, _, _⟩ ⟨hread, rfl, rfl⟩
    exact ⟨number, hread, rfl⟩
  refine Operation.leads_request (fun e he => ?_) fun r answer hr => ?_
  · rw [he] at hchecks
    cases hchecks with
    | bad h detail => exact .inl ⟨rfl, h, detail, rfl⟩
  · rw [hr] at hchecks
    cases hchecks with
    | good h _ made =>
      obtain ⟨number, hread, rfl⟩ := made
      exact .inr ⟨h, number, answer, hread, rfl⟩

/-- The table gives the profiles that its lines hold, one after the other, unless it has too many
lines. The first line that holds none for its number is out of range fails it. A profile that can be
set is sent as a line of the table holds it. -/
theorem Profile.ofResponse_profiles :
    (∀ (r : Response) (profiles : List Profile),
      List.Forall₂ HeldBy profiles (r.lines.filter (Text.startsWith · "+CGDCONT:")) →
      profiles.length ≤ 16 → ofResponse r = .ok profiles) ∧
    (∀ r : Response, 16 < (r.lines.filter (Text.startsWith · "+CGDCONT:")).length →
      ofResponse r = .error (.tooManyRows 16)) ∧
    (∀ (r : Response) (profiles : List Profile) (rows : List String) (line : String)
      (value : Int) (later : List String),
      r.lines.filter (Text.startsWith · "+CGDCONT:") = rows ++ line :: later →
      (rows ++ line :: later).length ≤ 16 → List.Forall₂ HeldBy profiles rows →
      Misnumbered value line → value < 0 ∨ 0xFFFFFFFF < value →
      ofResponse r = .error (.outOfRange value 0xFFFFFFFF)) ∧
    ∀ (cid pdpType apn : String) (vendor : Vendor),
      (Host.carryOut (Operation.setProfile cid pdpType apn) vendor .full : Step (Host υ) _).Leads
        (fun _ => True) fun way result =>
          (way = [] ∧ ¬ MadeOf cid pdpType apn ∧
            ∃ detail, result = .error (.invalidArgument detail)) ∨
          MadeOf cid pdpType apn ∧ ∃ number text answer,
            Number.readUInt32? cid.toList = some number ∧
            way = [("AT+CGDCONT=" ++ text, answer)] ∧
            ofResponse (.success ["+CGDCONT: " ++ text]) = .ok [⟨number, pdpType, apn⟩] := by
  have hheld (r : Response) (profiles : List Profile)
      (hrows : List.Forall₂ HeldBy profiles (r.lines.filter (Text.startsWith · "+CGDCONT:")))
      (hfew : profiles.length ≤ 16) : ofResponse r = .ok profiles := by
    have hread := mapM_held hrows []
    rw [List.append_nil] at hread
    rw [ofResponse_eq, ← hrows.length_eq, if_neg (by omega), hread]
    exact congrArg Except.ok (List.append_nil profiles)
  refine ⟨hheld, fun r hmany => ?_, ?_, fun cid pdpType apn vendor => ?_⟩
  · rw [ofResponse_eq, if_pos hmany]
  · intro r profiles rows line value later hlines hfew hrows hline houtside
    rw [ofResponse_eq, hlines, if_neg (by omega), mapM_held hrows,
      List.filterMap_cons_some (hline.ofLine? houtside), List.mapM_cons]
    rfl
  · refine fun reply => (leads_setProfile cid pdpType apn vendor reply).imp ?_
    rintro _ result (hrefused | ⟨hmade, number, answer, hread, rfl⟩)
    · exact .inl hrefused
    · obtain ⟨-, -, -, hpdpType, hapn⟩ := id hmade
      have hline : HeldBy ⟨number, pdpType, apn⟩ ("+CGDCONT: " ++ argument ⟨number, pdpType, apn⟩) :=
        ⟨hpdpType, hapn, none, String.append_empty.symm⟩
      refine .inr ⟨hmade, number, _, answer, hread, rfl, hheld _ _ ?_ (by simp)⟩
      have hrow : [_].filter (Text.startsWith · "+CGDCONT:") = [_] :=
        List.filter_cons_of_pos hline.startsWith
      rw [Response.success, hrow]
      exact .cons hline .nil

/-- Texts with commas, the largest number there is, and the next one; a lead in a line's midst. -/
theorem Profile.ofResponse_profiles_largest :
    ofResponse (.success ["+CGDCONT: 1,\"IP\",\"a,b\",\"\",0", "no +CGDCONT: 2",
        "+CGDCONT: 4294967295,\"+CGDCONT:\",\"\""])
      = .ok [⟨1, "IP", "a,b"⟩, ⟨0xFFFFFFFF, "+CGDCONT:", ""⟩] ∧
    ofResponse (.success (List.replicate 17 "+CGDCONT:")) = .error (.tooManyRows 16) ∧
    ofResponse (.success ["+CGDCONT: 1,\"IP\",\"a,b\",\"\",0", "+CGDCONT:4294967296", "+CGDCONT: "])
      = .error (.outOfRange 0x100000000 0xFFFFFFFF) := by
  have hfirst : HeldBy ⟨1, "IP", "a,b"⟩ "+CGDCONT: 1,\"IP\",\"a,b\",\"\",0" :=
    ⟨by decide, by decide, some "\"\",0".toList, by decide⟩
  have hlast : HeldBy ⟨0xFFFFFFFF, "+CGDCONT:", ""⟩ "+CGDCONT: 4294967295,\"+CGDCONT:\",\"\"" :=
    ⟨by decide, by decide, none, by decide⟩
  obtain ⟨hheld, hmany, houtside, -⟩ := @ofResponse_profiles Unit
  refine ⟨hheld _ _ (.cons hfirst (.cons hlast .nil)) (by decide), hmany _ (by decide), ?_⟩
  have hnumber : Fields.Spells "4294967296".toList 0x100000000 :=
    ⟨[], "4294967296".toList, [], by simp, nofun, nofun, by decide⟩
  exact houtside _ [⟨1, "IP", "a,b"⟩] ["+CGDCONT: 1,\"IP\",\"a,b\",\"\",0"] "+CGDCONT:4294967296" _
    ["+CGDCONT: "] rfl (by decide) (.cons hfirst .nil) ⟨_, none, hnumber, by decide⟩ (by decide)

end CellModem
