import CellModem.Toml.Quotation
import CellModem.Toml.Scalar

/-!
# TOML documents

The grammar of a document. Brackets and braces nest at most eighty deep, and at most eighty keys
stand between dots. Inside brackets and braces a line may end wherever a blank may stand, except
between keys and their dots.
-/

namespace CellModem.Toml

/-- Reads from the front of a text. -/
abbrev Reader := StateT (List Char) Option

namespace Reader

def fail {α : Type} : Reader α := fun _ => none

def expect (c : Char) : Reader Unit := fun chars =>
  match chars with
  | [] => none
  | d :: rest => if c = d then some ((), rest) else none

def accept (c : Char) : Reader Bool := fun chars =>
  match chars with
  | [] => some (false, [])
  | d :: rest => if c = d then some (true, rest) else some (false, d :: rest)

def takeWhile (p : Char → Bool) : Reader (List Char) := fun chars => some (chars.span p)

def remaining : Reader Nat := fun chars => some (chars.length, chars)

def blanks : Reader Unit := do
  let _ ← takeWhile fun c => c = ' ' || c = '\t'

def comment : Reader Unit := do
  if ← accept '#' then
    let _ ← takeWhile isShown

def lineEnd : Reader Bool := fun chars =>
  match chars with
  | '\n' :: rest => some (true, rest)
  | '\r' :: '\n' :: rest => some (true, rest)
  | _ => some (false, chars)

/-- Blanks, comments and line ends, on as many lines as there are characters at most. -/
def trivia : (lines : Nat) → Reader Unit
  | 0 => pure ()
  | lines + 1 => do
    blanks
    comment
    if ← lineEnd then trivia lines

def skipTrivia : Reader Unit := do trivia (← remaining)

/-- How deep brackets and braces may nest, and how many keys may stand between dots. -/
def maxDepth : Nat := 80

/-! ## Keys -/

def isBareChar (c : Char) : Bool := c.isAlphanum || c = '-' || c = '_'

def key : Reader String := fun chars =>
  match chars.span isBareChar with
  | ([], _) => (quotation? chars).map fun (k, rest) => (String.ofList k, rest)
  | (k, rest) => some (String.ofList k, rest)

/-- Further keys behind dots. -/
def moreKeys : (count : Nat) → Reader (List String)
  | 0 => pure []
  | count + 1 => do
    blanks
    if ← accept '.' then
      blanks
      let k ← key
      return k :: (← moreKeys count)
    else return []

/-- Keys between dots: the path and the last key. -/
def keyPath : Reader (List String × String) := do
  let first ← key
  let more ← moreKeys (← remaining)
  if maxDepth ≤ more.length then fail
  match more.getLast? with
  | none => return ([], first)
  | some last => return (first :: more.dropLast, last)

/-! ## Values -/

/-- The items of an array behind its bracket, with a comma behind each; the last one is optional. -/
def items (item : Reader Toml) : (count : Nat) → Reader (List Toml)
  | 0 => fail
  | count + 1 => do
    skipTrivia
    if ← accept ']' then return []
    let first ← item
    skipTrivia
    if ← accept ',' then return first :: (← items item count)
    expect ']'
    return [first]

/-- An assignment; `gap` is what may stand around the equals sign. -/
def assignment (gap : Reader Unit) (item : Reader Toml) :
    Reader (List String × String × Toml) := do
  let (path, last) ← keyPath
  gap
  expect '='
  gap
  return (path, last, ← item)

/-- The members of a table behind its brace, with a comma behind each; the last one is optional.
`members` are those that have been read. -/
def braced (item : Reader Toml) : (count : Nat) → (members : Members) → Reader Members
  | 0, _ => fail
  | count + 1, members => do
    skipTrivia
    if ← accept '}' then return members
    let (path, last, value) ← assignment skipTrivia item
    match assignUnder path last value .header members with
    | none => fail
    | some (_, members) =>
      skipTrivia
      if ← accept ',' then braced item count members
      else
        expect '}'
        return members

def scalar : Reader Toml := fun chars =>
  match chars with
  | '"' :: _ | '\'' :: _ =>
    (string? chars).map fun (s, rest) => (.text (String.ofList s), rest)
  | _ =>
    let (front, rest) := word chars
    (ofWord? front).map fun value => (value, rest)

/-- A value with brackets and braces at most `depth` deep. -/
def value : (depth : Nat) → Reader Toml
  | 0 => scalar
  | depth + 1 => do
    if ← accept '[' then
      return .array (← items (value depth) (← remaining))
    else if ← accept '{' then
      return .table .braces (← braced (value depth) (← remaining) [])
    else scalar

/-! ## Lines -/

/-- A header behind its first bracket. -/
def header : Reader Statement := do
  let array ← accept '['
  blanks
  let (path, last) ← keyPath
  blanks
  expect ']'
  if array then
    expect ']'
    return .addTable path last
  else return .openTable path last

def statement : Reader Statement := do
  if ← accept '[' then header
  else
    let (path, last, value) ← assignment blanks (value maxDepth)
    return .assign path last value

/-- The end of a statement: a line end, or the end of the text. -/
def finish : Reader Unit := do
  blanks
  comment
  unless ← lineEnd do
    if (← remaining) ≠ 0 then fail

/-- All statements, `count` at most. -/
def statements : (count : Nat) → Reader (List Statement)
  | 0 => pure []
  | count + 1 => do
    skipTrivia
    if (← remaining) = 0 then return []
    let first ← statement
    finish
    return first :: (← statements count)

end Reader

def document? (chars : List Char) : Option Members := do
  let chars := match chars with
    | '\uFEFF' :: rest => rest
    | chars => chars
  let (statements, rest) ← (Reader.statements chars.length).run chars
  if rest ≠ [] then none else build [] statements []

end CellModem.Toml
