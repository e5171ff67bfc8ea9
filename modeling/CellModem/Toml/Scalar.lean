import CellModem.Number.Integer
import CellModem.Text.Hex
import CellModem.Toml.Value

/-!
# Numbers, flags and moments in TOML

Everything that stands together without quotes or brackets is one word, blanks between its parts
included; a date and a time are such parts. Digits may be grouped by single underscores. A whole
number has no leading zero; without sign it may also be written to base 16, 8 or 2. Some words are
like numbers and have no value: those with a base and no digits, and those with other characters in
the groups behind the first one. They harm a document only if the value is asked for.
-/

namespace CellModem.Toml

/-- Takes the underscores out of grouped digits. -/
def ungroup? (digit : Char → Bool) : List Char → Option (List Char)
  | [] => none
  | [c] => if digit c then some [c] else none
  | c :: '_' :: rest => if digit c then (ungroup? digit rest).map (c :: ·) else none
  | c :: rest => if digit c then (ungroup? digit rest).map (c :: ·) else none

def isDigitTo (base : Nat) (c : Char) : Bool :=
  match Text.hexValue? c with
  | some d => d < base
  | none => false

/-- Grouped digits as a number. -/
def grouped? (base : Nat) (chars : List Char) : Option Nat :=
  (ungroup? (isDigitTo base) chars).map fun digits =>
    digits.foldl (fun n c => n * base + (Text.hexValue? c).getD 0) 0

/-- Grouped decimal digits without a leading zero. -/
def plainDigits? : List Char → Option Nat
  | '0' :: _ :: _ => none
  | chars => grouped? 10 chars

/-- Whether every underscore stands between two digits to base 16. -/
def isGrouped : List Char → Bool
  | '_' :: _ => false
  | c :: '_' :: d :: rest => isDigitTo 16 c && isDigitTo 16 d && isGrouped (d :: rest)
  | [_, '_'] => false
  | _ :: rest => isGrouped rest
  | [] => true

/-- Whether a text is like grouped decimal digits, with an underscore behind the first group. No
group may hold what a number of another kind has, or a space; it may hold a tab. -/
def isLikeGroups (chars : List Char) : Bool :=
  let (digits, rest) := chars.span (isDigitTo 10)
  !digits.isEmpty && digits.head? ≠ some '0' && rest.head? = some '_' && isGrouped chars
    && rest.all fun c => c ≠ '.' && c ≠ 'e' && c ≠ 'E' && c ≠ ' '

/-- A text without its sign, and whether that is a minus. -/
def cutSign : List Char → Bool × List Char
  | '-' :: rest => (true, rest)
  | '+' :: rest => (false, rest)
  | chars => (false, chars)

def toBase? (base : Nat) : List Char → Option (Option Int)
  | [] => some none
  | digits => (grouped? base digits).map fun n => some (Int.ofNat n)

/-- A whole number. `none` inside stands for what is only like one. -/
def integer? : List Char → Option (Option Int)
  | '0' :: 'x' :: digits => toBase? 16 digits
  | '0' :: 'o' :: digits => toBase? 8 digits
  | '0' :: 'b' :: digits => toBase? 2 digits
  | chars =>
    let (negative, digits) := cutSign chars
    match plainDigits? digits with
    | some n => some (some (if negative then -(n : Int) else n))
    | none => if isLikeGroups digits then some none else none

def exponent? (chars : List Char) : Option Int :=
  let (negative, digits) := cutSign chars
  (grouped? 10 digits).map fun n => if negative then -(n : Int) else n

/-- A number with a point, an exponent or both. `none` inside stands for the special ones. -/
def float? (chars : List Char) : Option (Option Number.Decimal) :=
  let (negative, body) := cutSign chars
  if body = ['i', 'n', 'f'] ∨ body = ['n', 'a', 'n'] then some none
  else do
    let (mantissa, tail) := body.span fun c => c ≠ 'e' && c ≠ 'E'
    let exponent ← match tail with
      | [] => some 0
      | _ :: tail => exponent? tail
    let (whole, fraction) := mantissa.span (· ≠ '.')
    let _ ← plainDigits? whole
    let whole ← ungroup? (isDigitTo 10) whole
    let fraction ← match fraction with
      | [] => if tail = [] then none else some []
      | _ :: fraction => ungroup? (isDigitTo 10) fraction
    let digits ← Number.readDigits? (whole ++ fraction)
    return some ⟨negative, digits, exponent - fraction.length⟩

/-! ## Moments -/

def pair? (a b : Char) : Option Nat := do
  return (← Number.digitValue? a) * 10 + (← Number.digitValue? b)

def daysOf (year month : Nat) : Nat :=
  if month = 2 then
    if year % 4 = 0 ∧ (year % 100 ≠ 0 ∨ year % 400 = 0) then 29 else 28
  else if month = 4 ∨ month = 6 ∨ month = 9 ∨ month = 11 then 30
  else 31

/-- What follows a date. -/
def date? : List Char → Option (List Char)
  | y₁ :: y₂ :: y₃ :: y₄ :: '-' :: m₁ :: m₂ :: '-' :: d₁ :: d₂ :: rest => do
    let year := (← pair? y₁ y₂) * 100 + (← pair? y₃ y₄)
    let month ← pair? m₁ m₂
    let day ← pair? d₁ d₂
    if 1 ≤ month ∧ month ≤ 12 ∧ 1 ≤ day ∧ day ≤ daysOf year month then some rest else none
  | _ => none

/-- What follows the fraction of a second; there may be none. -/
def secondFraction? : List Char → Option (List Char)
  | '.' :: rest =>
    let (digits, rest) := rest.span (isDigitTo 10)
    if digits = [] then none else some rest
  | rest => some rest

/-- What follows the seconds; there may be none. A minute may have a leap second. -/
def seconds? : List Char → Option (List Char)
  | ':' :: s₁ :: s₂ :: rest => do
    if (← pair? s₁ s₂) ≤ 60 then secondFraction? rest else none
  | ':' :: _ => none
  | rest => some rest

def time? : List Char → Option (List Char)
  | h₁ :: h₂ :: ':' :: m₁ :: m₂ :: rest => do
    let hour ← pair? h₁ h₂
    let minute ← pair? m₁ m₂
    if hour < 24 ∧ minute < 60 then seconds? rest else none
  | _ => none

def isOffset : List Char → Bool
  | ['Z'] | ['z'] => true
  | [sign, h₁, h₂, ':', m₁, m₂] =>
    (sign = '+' || sign = '-') &&
      match pair? h₁ h₂, pair? m₁ m₂ with
      | some hour, some minute => hour < 24 && minute < 60
      | _, _ => false
  | _ => false

/-- Whether a text is a moment. A difference needs both a date and a time. -/
def isMoment (chars : List Char) : Bool :=
  match date? chars with
  | some [] => true
  | some (mark :: clock) =>
    (mark = 'T' || mark = 't' || mark = ' ') &&
      match time? clock with
      | some offset => offset = [] || isOffset offset
      | none => false
  | none => time? chars = some []

/-! ## Words -/

/-- The characters of a word: all but those that have a meaning of their own. -/
def isWordChar (c : Char) : Bool :=
  !(['=', ',', '[', ']', '{', '}', '#', ' ', '\t', '\r', '\n'].contains c)

/-- Whether a further part of a word follows blanks. -/
def resumes (chars : List Char) : Bool :=
  match chars.dropWhile fun c => c = ' ' || c = '\t' with
  | [] => false
  | c :: _ => isWordChar c && !(['.', '"', '\''].contains c)

/-- The word in front of a text, and what follows. Blanks belong to it where it goes on. -/
def word : List Char → List Char × List Char
  | [] => ([], [])
  | c :: chars =>
    if isWordChar c || ((c = ' ' || c = '\t') && resumes chars) then
      let (rest, behind) := word chars
      (c :: rest, behind)
    else ([], c :: chars)

def ofWord? (word : List Char) : Option Toml :=
  if word = ['t', 'r', 'u', 'e'] then some (.boolean true)
  else if word = ['f', 'a', 'l', 's', 'e'] then some (.boolean false)
  else if isMoment word then some .moment
  else match integer? word with
    | some n => some (.integer n)
    | none => (float? word).map .float

end CellModem.Toml
