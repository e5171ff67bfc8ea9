import Mathlib.Algebra.Group.Nat.Defs
import CellModem.Text.Utf8

/-!
# Written UTF-8 is read back

Characters that were written as UTF-8 are read as they were, one after the other, and no byte of a
longer character can be taken for a character of its own.
-/

namespace CellModem.Text

/-- The bytes of a text. -/
def encode (text : List Char) : List UInt8 := text.flatMap String.utf8EncodeChar

theorem encode_cons (c : Char) (text : List Char) :
    encode (c :: text) = String.utf8EncodeChar c ++ encode text :=
  List.flatMap_cons

theorem toList_toUTF8 (s : String) : s.toUTF8.data.toList = encode s.toList := by
  rw [String.toUTF8_eq_toByteArray, ← String.utf8Encode_toList, List.utf8Encode]
  exact List.toList_data_toByteArray

/-! ## The bytes of one character -/

section Widths

variable {v : Nat}

theorem toNat_byte {n : Nat} (h : n < 256) : (UInt8.ofNat n).toNat = n :=
  UInt8.toNat_ofNat_of_lt' h

/-- A byte that continues a character. -/
def tailByte (n : Nat) : UInt8 := UInt8.ofNat (n % 64 + 128)

theorem toNat_tailByte (n : Nat) : (tailByte n).toNat = n % 64 + 128 :=
  toNat_byte (by omega)

theorem utf8Tail_cons {owed value low high size : Nat} {b : UInt8} {rest : List UInt8}
    (lower : low ≤ b.toNat) (upper : b.toNat ≤ high) :
    utf8Tail (owed + 1) value low high size (b :: rest)
      = utf8Tail owed (value * 64 + (b.toNat - 0x80)) 0x80 0xBF (size + 1) rest := by
  rw [utf8Tail, if_pos ⟨lower, upper⟩]

theorem utf8Tail_tailByte (owed value size n : Nat) (rest : List UInt8) :
    utf8Tail (owed + 1) value 0x80 0xBF size (tailByte n :: rest)
      = utf8Tail owed (value * 64 + n % 64) 0x80 0xBF (size + 1) rest := by
  have hn := toNat_tailByte n
  rw [utf8Tail_cons (by omega) (by omega), hn, Nat.add_sub_cancel]

theorem utf8Head_lead {b : UInt8} {owed value low high : Nat} (long : ¬ b.toNat < 0x80)
    (lead : utf8Lead? b = some (owed, value, low, high)) (rest : List UInt8) :
    utf8Head b rest = utf8Tail owed value low high 1 rest := by
  rw [utf8Head, if_neg long, lead]

theorem utf8Head_one (h : v < 0x80) (rest : List UInt8) :
    utf8Head (UInt8.ofNat v) rest = .char (Char.ofNat v) 1 := by
  have hv := toNat_byte (n := v) (by omega)
  rw [utf8Head, hv, if_pos h]

theorem utf8Head_two (h : 0x80 ≤ v) (h' : v ≤ 0x7FF) (rest : List UInt8) :
    utf8Head (UInt8.ofNat (v / 64 % 32 + 0xC0)) (tailByte v :: rest) = .char (Char.ofNat v) 2 := by
  have hlead := toNat_byte (n := v / 64 % 32 + 0xC0) (by omega)
  have hvalue : v / 64 % 32 + 0xC0 - 0xC0 = v / 64 := by omega
  have hlead? : utf8Lead? (UInt8.ofNat (v / 64 % 32 + 0xC0)) = some (1, v / 64, 0x80, 0xBF) := by
    unfold utf8Lead?
    rw [hlead]
    dsimp only
    rw [if_pos (by omega), hvalue]
  rw [utf8Head_lead (by omega) hlead?, utf8Tail_tailByte, utf8Tail, Nat.div_add_mod' v 64]

/-- What a lead byte of three says of the next byte leaves out overlong forms and surrogates. -/
theorem utf8Lead?_three (h : 0x800 ≤ v) (h' : v ≤ 0xFFFF) (valid : v < 0xD800 ∨ 0xDFFF < v) :
    ∃ low high, utf8Lead? (UInt8.ofNat (v / 4096 % 16 + 0xE0)) = some (2, v / 4096, low, high) ∧
      low ≤ v / 64 % 64 + 0x80 ∧ v / 64 % 64 + 0x80 ≤ high := by
  have hlead := toNat_byte (n := v / 4096 % 16 + 0xE0) (by omega)
  have hvalue : v / 4096 % 16 + 0xE0 - 0xE0 = v / 4096 := by omega
  unfold utf8Lead?
  rw [hlead]
  dsimp only
  rw [if_neg (by omega)]
  rcases Nat.lt_trichotomy (v / 4096) 13 with hlow | heq | hhigh
  · rcases Nat.eq_zero_or_pos (v / 4096) with hzero | hpos
    · rw [if_pos (by omega), hzero]
      exact ⟨_, _, rfl, by omega, by omega⟩
    · rw [if_neg (by omega), if_pos (by omega), hvalue]
      exact ⟨_, _, rfl, by omega, by omega⟩
  · rw [if_neg (by omega), if_neg (by omega), if_pos (by omega), heq]
    exact ⟨_, _, rfl, by omega, by omega⟩
  · rw [if_neg (by omega), if_neg (by omega), if_neg (by omega), if_pos (by omega), hvalue]
    exact ⟨_, _, rfl, by omega, by omega⟩

theorem utf8Head_three (h : 0x800 ≤ v) (h' : v ≤ 0xFFFF) (valid : v < 0xD800 ∨ 0xDFFF < v)
    (rest : List UInt8) :
    utf8Head (UInt8.ofNat (v / 4096 % 16 + 0xE0)) (tailByte (v / 64) :: tailByte v :: rest)
      = .char (Char.ofNat v) 3 := by
  have hlead := toNat_byte (n := v / 4096 % 16 + 0xE0) (by omega)
  have hsecond := toNat_tailByte (v / 64)
  obtain ⟨low, high, hlead?, hlow, hhigh⟩ := utf8Lead?_three h h' valid
  have hvalue : (v / 4096 * 64 + v / 64 % 64) * 64 + v % 64 = v := by omega
  rw [utf8Head_lead (by omega) hlead?, utf8Tail_cons (by omega) (by omega), hsecond,
    Nat.add_sub_cancel, utf8Tail_tailByte, utf8Tail, hvalue]

/-- What a lead byte of four says of the next byte leaves out overlong forms and what is past the last
code point. -/
theorem utf8Lead?_four (h : 0x10000 ≤ v) (h' : v < 0x110000) :
    ∃ low high, utf8Lead? (UInt8.ofNat (v / 262144 % 8 + 0xF0)) = some (3, v / 262144, low, high) ∧
      low ≤ v / 4096 % 64 + 0x80 ∧ v / 4096 % 64 + 0x80 ≤ high := by
  have hlead := toNat_byte (n := v / 262144 % 8 + 0xF0) (by omega)
  have hvalue : v / 262144 % 8 + 0xF0 - 0xF0 = v / 262144 := by omega
  unfold utf8Lead?
  rw [hlead]
  dsimp only
  rw [if_neg (by omega), if_neg (by omega), if_neg (by omega), if_neg (by omega),
    if_neg (by omega)]
  rcases Nat.lt_trichotomy (v / 262144) 4 with hlow | heq | hhigh
  · rcases Nat.eq_zero_or_pos (v / 262144) with hzero | hpos
    · rw [if_pos (by omega), hzero]
      exact ⟨_, _, rfl, by omega, by omega⟩
    · rw [if_neg (by omega), if_pos (by omega), hvalue]
      exact ⟨_, _, rfl, by omega, by omega⟩
  · rw [if_neg (by omega), if_neg (by omega), if_pos (by omega), heq]
    exact ⟨_, _, rfl, by omega, by omega⟩
  · omega

theorem utf8Head_four (h : 0x10000 ≤ v) (h' : v < 0x110000) (rest : List UInt8) :
    utf8Head (UInt8.ofNat (v / 262144 % 8 + 0xF0))
        (tailByte (v / 4096) :: tailByte (v / 64) :: tailByte v :: rest)
      = .char (Char.ofNat v) 4 := by
  have hlead := toNat_byte (n := v / 262144 % 8 + 0xF0) (by omega)
  have hsecond := toNat_tailByte (v / 4096)
  obtain ⟨low, high, hlead?, hlow, hhigh⟩ := utf8Lead?_four h h'
  have hvalue : ((v / 262144 * 64 + v / 4096 % 64) * 64 + v / 64 % 64) * 64 + v % 64 = v := by omega
  rw [utf8Head_lead (by omega) hlead?, utf8Tail_cons (by omega) (by omega), hsecond,
    Nat.add_sub_cancel, utf8Tail_tailByte, utf8Tail_tailByte, utf8Tail, hvalue]

end Widths

/-- How a character is written, by the number of its bytes. -/
theorem utf8EncodeChar_cases (c : Char) :
    (c.toNat < 0x80 ∧ String.utf8EncodeChar c = [UInt8.ofNat c.toNat]) ∨
    ∃ b tail, String.utf8EncodeChar c = b :: tail ∧ (∀ b' ∈ b :: tail, 0x80 ≤ b'.toNat) ∧
      ∀ rest, utf8Head b (tail ++ rest) = .char c (tail.length + 1) := by
  have hvalid : c.toNat < 0xD800 ∨ 0xDFFF < c.toNat ∧ c.toNat < 0x110000 := c.valid
  have hchar := Char.ofNat_toNat c
  have hbytes : ∀ n, 0x80 ≤ (tailByte n).toNat := fun n => by
    have hn := toNat_tailByte n
    omega
  unfold String.utf8EncodeChar
  unfold Char.toNat at *
  generalize c.val.toNat = v at *
  by_cases hone : v ≤ 0x7F
  · rw [if_pos hone]
    exact .inl ⟨by omega, rfl⟩
  refine .inr ?_
  rw [if_neg hone]
  by_cases htwo : v ≤ 0x7FF
  · rw [if_pos htwo]
    have hlead := toNat_byte (n := v / 64 % 32 + 0xC0) (by omega)
    refine ⟨_, [tailByte v], rfl, ?_, fun rest => hchar ▸ utf8Head_two (by omega) htwo rest⟩
    exact List.forall_mem_cons.mpr ⟨by omega, List.forall_mem_singleton.mpr (hbytes _)⟩
  rw [if_neg htwo]
  by_cases hthree : v ≤ 0xFFFF
  · rw [if_pos hthree]
    have hlead := toNat_byte (n := v / 4096 % 16 + 0xE0) (by omega)
    refine ⟨_, [tailByte (v / 64), tailByte v], rfl, ?_,
      fun rest => hchar ▸ utf8Head_three (by omega) hthree (by omega) rest⟩
    simp [hbytes]
    omega
  · rw [if_neg hthree]
    have hlead := toNat_byte (n := v / 262144 % 8 + 0xF0) (by omega)
    refine ⟨_, [tailByte (v / 4096), tailByte (v / 64), tailByte v], rfl, ?_,
      fun rest => hchar ▸ utf8Head_four (by omega) (by omega) rest⟩
    simp [hbytes]
    omega

/-! ## Whole texts -/

theorem decodeLossy_encodeChar (c : Char) (rest : List UInt8) :
    decodeLossy (String.utf8EncodeChar c ++ rest) = c :: decodeLossy rest := by
  rcases utf8EncodeChar_cases c with ⟨hascii, hbytes⟩ | ⟨b, tail, hbytes, -, hhead⟩
  · rw [hbytes, List.singleton_append, decodeLossy, utf8Head_one hascii, Char.ofNat_toNat]
    rfl
  · rw [hbytes, List.cons_append, decodeLossy, hhead]
    dsimp only
    rw [Nat.add_sub_cancel, List.drop_left]

theorem decodeLossy_encode (text : List Char) : decodeLossy (encode text) = text := by
  induction text with
  | nil => rw [encode, List.flatMap_nil, decodeLossy]
  | cons c text ih => rw [encode_cons, decodeLossy_encodeChar, ih]

/-- A byte below `0x80` stands for itself. -/
theorem mem_of_mem_encode {text : List Char} {b : UInt8} (h : b ∈ encode text)
    (ascii : b.toNat < 0x80) : Char.ofNat b.toNat ∈ text := by
  obtain ⟨c, hc, hb⟩ := List.mem_flatMap.mp h
  rcases utf8EncodeChar_cases c with ⟨hascii, hbytes⟩ | ⟨b', tail, hbytes, hhigh, -⟩
  · rw [hbytes, List.mem_singleton] at hb
    rw [hb, toNat_byte (by omega), Char.ofNat_toNat]
    exact hc
  · have hbyte := hhigh b (hbytes ▸ hb)
    omega

/-! ## Where characters come from -/

/-- A number that is no surrogate and not past the last code point. -/
theorem toNat_charOfNat {n : Nat} (valid : n < 0xD800 ∨ 0xDFFF < n ∧ n < 0x110000) :
    (Char.ofNat n).toNat = n := by
  rw [Char.ofNat, dif_pos valid]
  rfl

/-- What is read from continuation bytes lies between what the least and the greatest first of them
give. -/
theorem utf8Tail_bounds {owed value low high size size' : Nat} {rest : List UInt8} {c : Char}
    (lower : 0x80 ≤ low) (read : utf8Tail (owed + 1) value low high size rest = .char c size') :
    ∃ n, c = Char.ofNat n ∧ (value * 64 + (low - 0x80)) * 64 ^ owed ≤ n ∧
      n < (value * 64 + (high - 0x80) + 1) * 64 ^ owed := by
  induction owed generalizing value low high size rest with
  | zero =>
    cases rest with
    | nil => cases read
    | cons b rest =>
      rw [utf8Tail] at read
      split at read
      · obtain ⟨rfl, -⟩ := Utf8Head.char.inj read
        exact ⟨_, rfl, by omega, by omega⟩
      · cases read
  | succ owed ih =>
    cases rest with
    | nil => cases read
    | cons b rest =>
      rw [utf8Tail] at read
      split at read
      · obtain ⟨n, rfl, hlow, hhigh⟩ := ih (Nat.le_refl _) read
        refine ⟨n, rfl, Nat.le_trans ?_ hlow, Nat.lt_of_lt_of_le hhigh ?_⟩
        · rw [Nat.pow_succ', ← Nat.mul_assoc]
          exact Nat.mul_le_mul_right _ (by omega)
        · rw [Nat.pow_succ', ← Nat.mul_assoc]
          exact Nat.mul_le_mul_right _ (by omega)
      · cases read

/-- The bytes behind a lead byte give only numbers of characters from `0x80` on. -/
theorem utf8Lead?_range {b : UInt8} {owed value low high : Nat}
    (lead : utf8Lead? b = some (owed, value, low, high)) :
    ∃ more, owed = more + 1 ∧ 0x80 ≤ low ∧
      0x80 ≤ (value * 64 + (low - 0x80)) * 64 ^ more ∧
      ((value * 64 + (high - 0x80) + 1) * 64 ^ more ≤ 0xD800 ∨
        0xE000 ≤ (value * 64 + (low - 0x80)) * 64 ^ more ∧
          (value * 64 + (high - 0x80) + 1) * 64 ^ more ≤ 0x110000) := by
  unfold utf8Lead? at lead
  dsimp only at lead
  repeat' split at lead
  all_goals simp only [Option.some.injEq, Prod.mk.injEq, reduceCtorEq] at lead
  all_goals
    obtain ⟨rfl, rfl, rfl, rfl⟩ := lead
    exact ⟨_, rfl, by omega, by omega, by omega⟩

/-- A byte below `0x80` is read as the character of its number, and no other byte as one below. -/
theorem utf8Head_char {b : UInt8} {rest : List UInt8} {c : Char} {size : Nat}
    (read : utf8Head b rest = .char c size) : c.toNat = b.toNat ∨ 0x80 ≤ c.toNat := by
  unfold utf8Head at read
  split at read
  · obtain ⟨rfl, -⟩ := Utf8Head.char.inj read
    exact .inl (toNat_charOfNat (by omega))
  · split at read
    · next owed value low high hlead =>
      obtain ⟨more, rfl, hlow, hfirst, hvalid⟩ := utf8Lead?_range hlead
      obtain ⟨n, rfl, hn, hn'⟩ := utf8Tail_bounds hlow read
      rw [toNat_charOfNat (by omega)]
      exact .inr (Nat.le_trans hfirst hn)
    · cases read

/-- A character below `0x80` was a byte of its own. -/
theorem exists_byte_of_mem_decodeLossy {bytes : List UInt8} {c : Char} (h : c ∈ decodeLossy bytes)
    (ascii : c.toNat < 0x80) : ∃ b ∈ bytes, b.toNat = c.toNat := by
  fun_induction decodeLossy bytes with
  | case1 => cases h
  | case2 b rest c' size hread ih =>
    rcases List.mem_cons.mp h with rfl | hrest
    · rcases utf8Head_char hread with hb | hlong
      · exact ⟨b, List.mem_cons_self, hb.symm⟩
      · omega
    · obtain ⟨b', hb', hc⟩ := ih hrest
      exact ⟨b', List.mem_cons_of_mem b (List.mem_of_mem_drop hb'), hc⟩
  | case3 b rest size hread ih =>
    rcases List.mem_cons.mp h with rfl | hrest
    · exact absurd ascii (by decide)
    · obtain ⟨b', hb', hc⟩ := ih hrest
      exact ⟨b', List.mem_cons_of_mem b (List.mem_of_mem_drop hb'), hc⟩

end CellModem.Text
