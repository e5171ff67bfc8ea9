import CellModem.Number.Integer
import CellModem.Text.Blank

/-!
# Whole numbers are read as they were written

A number written in decimal digits, with a minus sign when it is below zero, is read back as it
was. What it is written with can be told from what stands around it in a line.
-/

namespace CellModem.Number

theorem digitValue?_of_isDigit {c : Char} (h : c.isDigit = true) :
    digitValue? c = some (c.toNat - '0'.toNat) := by
  rw [Char.isDigit, Bool.and_eq_true, decide_eq_true_eq, decide_eq_true_eq] at h
  exact if_pos h

theorem readDigitsFrom?_of_isDigit (acc : Nat) {digits : List Char}
    (h : ∀ c ∈ digits, c.isDigit = true) :
    readDigitsFrom? acc digits = some (Nat.ofDigitChars 10 digits acc) := by
  induction digits generalizing acc with
  | nil => rfl
  | cons c digits ih =>
    obtain ⟨hc, hdigits⟩ := List.forall_mem_cons.mp h
    rw [readDigitsFrom?, digitValue?_of_isDigit hc, Option.bind_some, ih _ hdigits,
      Nat.mul_comm acc 10]
    rfl

/-! ## Numbers from zero on -/

theorem isDigit_of_mem_repr {n : Nat} {c : Char} (h : c ∈ n.repr.toList) : c.isDigit = true := by
  rw [Nat.toList_repr] at h
  exact Nat.isDigit_of_mem_toDigits (by decide) (by decide) h

theorem readDigits?_repr (n : Nat) : readDigits? n.repr.toList = some n := by
  have hdigits := readDigitsFrom?_of_isDigit 0 fun c => isDigit_of_mem_repr (n := n)
  rw [Nat.toList_repr, Nat.ofDigitChars_ten_toDigits] at hdigits
  rw [Nat.toList_repr]
  cases h : Nat.toDigits 10 n with
  | nil => exact absurd h Nat.toDigits_ne_nil
  | cons c digits =>
    rw [h] at hdigits
    exact hdigits

/-! ## Numbers with sign -/

theorem readSigned?_of_isDigit {digits : List Char} (h : ∀ c ∈ digits, c.isDigit = true) :
    readSigned? digits = (readDigits? digits).map Int.ofNat := by
  unfold readSigned?
  split
  · exact absurd (h _ List.mem_cons_self) (by decide)
  · exact absurd (h _ List.mem_cons_self) (by decide)
  · rfl

theorem readSigned?_toString (n : Int) : readSigned? (toString n).toList = some n := by
  cases n with
  | ofNat n =>
    rw [show toString (Int.ofNat n) = n.repr from rfl,
      readSigned?_of_isDigit fun c => isDigit_of_mem_repr, readDigits?_repr]
    rfl
  | negSucc n =>
    rw [show toString (Int.negSucc n) = "-" ++ (n + 1).repr from rfl, String.toList_append,
      show "-".toList = ['-'] from rfl, List.singleton_append, readSigned?, readDigits?_repr]
    rfl

theorem readInt64?_eq_some_iff {text : List Char} {n : Int} :
    readInt64? text = some n ↔ readSigned? text = some n ∧ IsInt64 n := by
  unfold readInt64?
  cases readSigned? text with
  | none => simp
  | some m =>
    by_cases hfits : IsInt64 m
    · simp only [Option.bind_some, if_pos hfits, Option.some.injEq]
      exact ⟨fun h => ⟨h, h ▸ hfits⟩, And.left⟩
    · simp only [Option.bind_some, if_neg hfits, Option.some.injEq]
      exact ⟨nofun, fun h => absurd (h.1 ▸ h.2) hfits⟩

theorem readInt64?_toString {n : Int} (h : IsInt64 n) :
    readInt64? (toString n).toList = some n := by
  rw [readInt64?, readSigned?_toString, Option.bind_some, if_pos h]

theorem readInt64?_uint32 (n : UInt32) : readInt64? (toString n).toList = some n.toNat := by
  have hbound := n.toNat_lt
  exact readInt64?_toString (n := n.toNat) ⟨by omega, by omega⟩

theorem toUInt32?_toNat (n : UInt32) : toUInt32? n.toNat = some n := by
  have hbound := n.toNat_lt
  rw [toUInt32?, if_pos (by omega)]
  simp

/-! ## What numbers are written with -/

theorem isDigit_of_digitValue? {c : Char} {d : Nat} (h : digitValue? c = some d) :
    c.isDigit = true := by
  unfold digitValue? at h
  split at h
  · next hc =>
    rw [Char.isDigit, Bool.and_eq_true, decide_eq_true_eq, decide_eq_true_eq]
    exact hc
  · cases h

theorem isDigit_of_readDigitsFrom? {acc n : Nat} {digits : List Char}
    (h : readDigitsFrom? acc digits = some n) : ∀ c ∈ digits, c.isDigit = true := by
  induction digits generalizing acc with
  | nil => exact nofun
  | cons c digits ih =>
    obtain ⟨d, hd, hdigits⟩ := Option.bind_eq_some_iff.mp h
    exact List.forall_mem_cons.mpr ⟨isDigit_of_digitValue? hd, ih hdigits⟩

theorem isDigit_of_readDigits? {n : Nat} {digits : List Char} (h : readDigits? digits = some n) :
    digits ≠ [] ∧ ∀ c ∈ digits, c.isDigit = true := by
  cases digits with
  | nil => cases h
  | cons c digits => exact ⟨List.cons_ne_nil _ _, isDigit_of_readDigitsFrom? h⟩

/-- A number is digits behind a sign at most. -/
theorem exists_digits {text : List Char} {n : Int} (h : readSigned? text = some n) :
    ∃ sign digits, text = sign ++ digits ∧ (∀ c ∈ sign, c = '-' ∨ c = '+') ∧ digits ≠ [] ∧
      ∀ c ∈ digits, c.isDigit = true := by
  unfold readSigned? at h
  split at h
  · next digits =>
    cases hread : readDigits? digits with
    | none => simp [hread] at h
    | some n => exact ⟨['-'], digits, rfl, by simp, isDigit_of_readDigits? hread⟩
  · next digits =>
    cases hread : readDigits? digits with
    | none => simp [hread] at h
    | some n => exact ⟨['+'], digits, rfl, by simp, isDigit_of_readDigits? hread⟩
  · cases hread : readDigits? text with
    | none => simp [hread] at h
    | some n => exact ⟨[], text, rfl, nofun, isDigit_of_readDigits? hread⟩

theorem not_isBlank_of_isDigit {c : Char} (h : c.isDigit = true) : Text.isBlank c = false := by
  rw [Char.isDigit, Bool.and_eq_true, decide_eq_true_eq, decide_eq_true_eq] at h
  have hlow : 48 ≤ c.toNat := h.1
  have hhigh : c.toNat ≤ 57 := h.2
  unfold Text.isBlank
  simp
  omega

/-- Neither blank nor comma nor quote. -/
theorem bare_of_readSigned? {text : List Char} {n : Int} (h : readSigned? text = some n) :
    text ≠ [] ∧ ∀ c ∈ text, Text.isBlank c = false ∧ c ≠ ',' ∧ c ≠ '"' := by
  obtain ⟨sign, digits, rfl, hsign, hfull, hdigits⟩ := exists_digits h
  refine ⟨List.append_ne_nil_of_right_ne_nil _ hfull, fun c hc => ?_⟩
  rcases List.mem_append.mp hc with hc | hc
  · rcases hsign c hc with rfl | rfl <;> decide
  · refine ⟨not_isBlank_of_isDigit (hdigits c hc), ?_, ?_⟩
    · rintro rfl
      exact absurd (hdigits _ hc) (by decide)
    · rintro rfl
      exact absurd (hdigits _ hc) (by decide)

theorem toString_toList_ne_nil (n : Int) : (toString n).toList ≠ [] :=
  (bare_of_readSigned? (readSigned?_toString n)).1

end CellModem.Number
