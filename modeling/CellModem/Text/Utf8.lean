/-!
# Reading UTF-8

A byte sequence is read as characters from the left. Where no character can be read, the longest
run of bytes that could still have begun one is replaced as a whole by U+FFFD, and reading goes on
behind it. `decode?` refuses such a sequence instead.
-/

namespace CellModem.Text

/-- What stands at the front of a non-empty byte sequence: a character or a fault, and how many
bytes it takes. -/
inductive Utf8Head where
  | char (c : Char) (size : Nat)
  | fault (size : Nat)

/-- How many continuation bytes a lead byte asks for, its own bits, and the range of the first of
them. Overlong forms, surrogates and numbers past the last code point are kept out by that range. -/
def utf8Lead? (b : UInt8) : Option (Nat × Nat × Nat × Nat) :=
  let n := b.toNat
  if 0xC2 ≤ n ∧ n ≤ 0xDF then some (1, n - 0xC0, 0x80, 0xBF)
  else if n = 0xE0 then some (2, 0, 0xA0, 0xBF)
  else if 0xE1 ≤ n ∧ n ≤ 0xEC then some (2, n - 0xE0, 0x80, 0xBF)
  else if n = 0xED then some (2, 0xD, 0x80, 0x9F)
  else if 0xEE ≤ n ∧ n ≤ 0xEF then some (2, n - 0xE0, 0x80, 0xBF)
  else if n = 0xF0 then some (3, 0, 0x90, 0xBF)
  else if 0xF1 ≤ n ∧ n ≤ 0xF3 then some (3, n - 0xF0, 0x80, 0xBF)
  else if n = 0xF4 then some (3, 4, 0x80, 0x8F)
  else none

/-- Reads `owed` continuation bytes; `low` and `high` bound the first of them, `size` counts the
bytes read so far. -/
def utf8Tail : (owed : Nat) → (value low high size : Nat) → List UInt8 → Utf8Head
  | 0, value, _, _, size, _ => .char (Char.ofNat value) size
  | _ + 1, _, _, _, size, [] => .fault size
  | owed + 1, value, low, high, size, b :: rest =>
    if low ≤ b.toNat ∧ b.toNat ≤ high then
      utf8Tail owed (value * 64 + (b.toNat - 0x80)) 0x80 0xBF (size + 1) rest
    else .fault size

def utf8Head (b : UInt8) (rest : List UInt8) : Utf8Head :=
  if b.toNat < 0x80 then .char (Char.ofNat b.toNat) 1
  else match utf8Lead? b with
    | some (owed, value, low, high) => utf8Tail owed value low high 1 rest
    | none => .fault 1

/-- Reads every byte; a fault becomes U+FFFD. -/
def decodeLossy : List UInt8 → List Char
  | [] => []
  | b :: rest =>
    match utf8Head b rest with
    | .char c size => c :: decodeLossy (rest.drop (size - 1))
    | .fault size => '\uFFFD' :: decodeLossy (rest.drop (size - 1))
termination_by bytes => bytes.length
decreasing_by all_goals (simp only [List.length_drop, List.length_cons]; omega)

/-- Reads every byte, or refuses a sequence with a fault. -/
def decode? : List UInt8 → Option (List Char)
  | [] => some []
  | b :: rest =>
    match utf8Head b rest with
    | .char c size => (decode? (rest.drop (size - 1))).map (c :: ·)
    | .fault _ => none
termination_by bytes => bytes.length
decreasing_by simp only [List.length_drop, List.length_cons]; omega

end CellModem.Text
