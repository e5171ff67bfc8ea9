import CellModem.Hardware.Gpio
import CellModem.Hardware.Power
import CellModem.Packet.Profile
import CellModem.Sim.Detection

/-!
# What arguments are taken

A check of arguments lets a value through or refuses them as invalid. Checks in a row let through
what each of them does.
-/

namespace CellModem

variable {α β : Type}

/-- Arguments that can be used come to a value as stated, and others are refused. -/
inductive Except.Checks (valid : Prop) (P : α → Prop) : Except Error α → Prop where
  | good (h : valid) (value : α) (stated : P value) : Checks valid P (.ok value)
  | bad (h : ¬ valid) (detail : String) : Checks valid P (.error (.invalidArgument detail))

namespace Except

variable {valid valid' : Prop} {P : α → Prop} {Q : β → Prop}

theorem checks_ok {value : α} (h : P value) : Checks True P (.ok value) := .good trivial value h

theorem Checks.congr {result : Except Error α} (h : Checks valid P result) (iff : valid' ↔ valid) :
    Checks valid' P result := by
  cases h with
  | good h value stated => exact .good (iff.mpr h) value stated
  | bad h detail => exact .bad (fun h' => h (iff.mp h')) detail

theorem Checks.bind {first : Except Error α} {next : α → Except Error β} (h : Checks valid P first)
    (hnext : ∀ value, P value → Checks valid' Q (next value)) :
    Checks (valid ∧ valid') Q (first >>= next) := by
  cases h with
  | bad h detail => exact .bad (fun h' => h h'.1) detail
  | good h value stated =>
    have hlast : Checks valid' Q (Except.ok value >>= next) := hnext value stated
    exact hlast.congr (and_iff_right h)

theorem Checks.map {first : Except Error α} {next : α → β} (h : Checks valid P first)
    (hnext : ∀ value, P value → Q (next value)) :
    Checks valid Q (do return next (← first)) := by
  cases h with
  | bad h detail => exact .bad h detail
  | good h value stated => exact .good h (next value) (hnext value stated)

theorem checks_length (what text : String) (max : Nat) :
    Checks (text.toList.length ≤ max) (fun _ => True) (checkLength what text max) := by
  unfold checkLength
  split
  · next hlong => exact .bad (by omega) _
  · next hshort => exact .good (by omega) () trivial

theorem checks_unquoted (what text : String) :
    Checks ('"' ∉ text.toList) (fun _ => True) (checkUnquoted what text) := by
  unfold checkUnquoted
  split
  · next hquoted => exact .bad (fun h => h (List.contains_iff_mem.mp hquoted)) _
  · next hfree => exact .good (fun h => hfree (List.contains_iff_mem.mpr h)) () trivial

/-- A value looked up by its name. -/
theorem checks_find {γ : Type} (all : List γ) (name : γ → String) (complete : ∀ x, x ∈ all)
    {text : String} {result : Except Error γ}
    (found : ∀ x, all.find? (name · = text) = some x → result = .ok x)
    (missing : all.find? (name · = text) = none →
      ∃ detail, result = .error (.invalidArgument detail)) :
    Checks (∃ x, text = name x) (fun x => text = name x) result := by
  cases hfind : all.find? (name · = text) with
  | some x =>
    have hdecided := List.find?_some hfind
    have hx : text = name x := (of_decide_eq_true hdecided).symm
    rw [found x hfind]
    exact .good ⟨x, hx⟩ x hx
  | none =>
    obtain ⟨detail, hresult⟩ := missing hfind
    rw [hresult]
    refine .bad ?_ detail
    rintro ⟨x, rfl⟩
    simpa using List.find?_eq_none.mp hfind x (complete x)

end Except

namespace Profile

/-- The text names a profile by its number. -/
def NamedBy (text : String) : Prop :=
  text.toList.length ≤ 4 ∧ (Number.readUInt32? text.toList).isSome = true

/-- The texts make up a profile. -/
def MadeOf (cid pdpType apn : String) : Prop :=
  NamedBy cid ∧ pdpType.toList.length ≤ 8 ∧ apn.toList.length ≤ 40 ∧ '"' ∉ pdpType.toList ∧
    '"' ∉ apn.toList

theorem checks_parseCid (text : String) : Except.Checks (NamedBy text)
    (fun cid => Number.readUInt32? text.toList = some cid) (parseCid text) := by
  refine (Except.checks_length "cid" text 4).bind fun _ _ => ?_
  cases hread : Number.readUInt32? text.toList with
  | some cid => exact .good rfl cid rfl
  | none => exact .bad nofun _

theorem checks_parse (cid pdpType apn : String) : Except.Checks (MadeOf cid pdpType apn)
    (fun p => Number.readUInt32? cid.toList = some p.cid ∧ p.pdpType = pdpType ∧ p.apn = apn)
    (parse cid pdpType apn) := by
  refine (checks_parseCid cid).bind fun _ hcid => ?_
  refine (Except.checks_length "PDP type" pdpType 8).bind fun _ _ => ?_
  refine (Except.checks_length "APN" apn 40).bind fun _ _ => ?_
  refine (Except.checks_unquoted "PDP type" pdpType).bind fun _ _ => ?_
  exact (Except.checks_unquoted "APN" apn).map fun _ _ => ⟨hcid, rfl, rfl⟩

end Profile

theorem GpioSetting.checks_checked (setting : GpioSetting) :
    Except.Checks (setting.pin ≠ 0) (fun _ => True) setting.checked := by
  unfold checked
  split
  · next hpin => exact .bad (fun h => h hpin) _
  · next hpin => exact .good hpin setting trivial

theorem PowerState.checks_ofName (text : String) :
    Except.Checks (∃ state : PowerState, text = state.name) (fun state => text = state.name)
      (ofName text) :=
  Except.checks_find all name (by rintro ⟨⟩ <;> decide) (fun _ h => by rw [ofName, h])
    fun h => ⟨_, by rw [ofName, h]⟩

theorem SimDetection.checks_ofName (text : String) :
    Except.Checks (∃ mode : SimDetection, text = mode.name) (fun mode => text = mode.name)
      (ofName text) :=
  Except.checks_find all name (by rintro ⟨⟩ <;> decide) (fun _ h => by rw [ofName, h])
    fun h => ⟨_, by rw [ofName, h]⟩

end CellModem
