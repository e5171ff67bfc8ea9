import CellModem.Text.Hex

/-!
# Strings in TOML

A string stands between double quotes, where a backslash escapes, or between apostrophes, where
nothing does. Tripled quotes let it go over several lines; a line end right behind the opening ones
is dropped, and up to two quotes may stand right in front of the closing ones. A line end is a line
feed, with a carriage return in front of it or not, and belongs to the string as it is written.
-/

namespace CellModem.Toml

/-- The characters that may stand in a string or a comment as they are. -/
def isShown (c : Char) : Bool := c = '\t' || (0x20 ≤ c.toNat && c.toNat ≠ 0x7F)

def ofCodePoint? (digits : List Char) : Option Char := do
  let n ← digits.foldlM (fun n c => (Text.hexValue? c).map (n * 16 + ·)) 0
  if n.isValidChar then some (Char.ofNat n) else none

/-- What a letter behind a backslash stands for. -/
def escape? : Char → Option Char
  | 'b' => some '\x08'
  | 'e' => some '\x1B'
  | 't' => some '\t'
  | 'n' => some '\n'
  | 'f' => some '\x0C'
  | 'r' => some '\r'
  | '"' => some '"'
  | '\\' => some '\\'
  | _ => none

/-- Puts a character in front of the rest of a string, if both can be read. -/
def follow? (c? : Option Char) (rest? : Option (List Char × List Char)) :
    Option (List Char × List Char) := do
  let c ← c?
  let (string, rest) ← rest?
  return (c :: string, rest)

/-- A string on one line, behind its opening quote; returns what follows it too. -/
def basic? : List Char → Option (List Char × List Char)
  | [] => none
  | '"' :: rest => some ([], rest)
  | '\\' :: 'x' :: a :: b :: rest => follow? (ofCodePoint? [a, b]) (basic? rest)
  | '\\' :: 'u' :: a :: b :: c :: d :: rest => follow? (ofCodePoint? [a, b, c, d]) (basic? rest)
  | '\\' :: 'U' :: a :: b :: c :: d :: e :: f :: g :: h :: rest =>
    follow? (ofCodePoint? [a, b, c, d, e, f, g, h]) (basic? rest)
  | '\\' :: c :: rest => follow? (escape? c) (basic? rest)
  | c :: rest => if isShown c then follow? (some c) (basic? rest) else none

def literal? : List Char → Option (List Char × List Char)
  | [] => none
  | '\'' :: rest => some ([], rest)
  | c :: rest => if isShown c then follow? (some c) (literal? rest) else none

/-- Whether nothing but blanks stands in front of the next line end. -/
def endsLine (chars : List Char) : Bool :=
  match chars.dropWhile fun c => c = ' ' || c = '\t' with
  | '\n' :: _ => true
  | '\r' :: '\n' :: _ => true
  | _ => false

/-- A string over several lines, behind its opening quotes. A backslash at the end of a line drops
everything up to the next character that is neither blank nor line end; `dropping` tells that such
a drop is going on. -/
def basicLines? : (dropping : Bool) → List Char → Option (List Char × List Char)
  | _, [] => none
  | _, '"' :: '"' :: '"' :: '"' :: '"' :: rest => some (['"', '"'], rest)
  | _, '"' :: '"' :: '"' :: '"' :: rest => some (['"'], rest)
  | _, '"' :: '"' :: '"' :: rest => some ([], rest)
  | dropping, '\r' :: '\n' :: rest =>
    if dropping then basicLines? true rest
    else follow? (some '\r') (follow? (some '\n') (basicLines? false rest))
  | dropping, '\n' :: rest =>
    if dropping then basicLines? true rest else follow? (some '\n') (basicLines? false rest)
  | _, '\\' :: 'x' :: a :: b :: rest => follow? (ofCodePoint? [a, b]) (basicLines? false rest)
  | _, '\\' :: 'u' :: a :: b :: c :: d :: rest =>
    follow? (ofCodePoint? [a, b, c, d]) (basicLines? false rest)
  | _, '\\' :: 'U' :: a :: b :: c :: d :: e :: f :: g :: h :: rest =>
    follow? (ofCodePoint? [a, b, c, d, e, f, g, h]) (basicLines? false rest)
  | _, '\\' :: c :: rest =>
    if endsLine (c :: rest) then basicLines? true (c :: rest)
    else follow? (escape? c) (basicLines? false rest)
  | dropping, c :: rest =>
    if dropping && (c = ' ' || c = '\t') then basicLines? true rest
    else if isShown c then follow? (some c) (basicLines? false rest)
    else none

/-- A string over several lines, behind its opening apostrophes. -/
def literalLines? : List Char → Option (List Char × List Char)
  | [] => none
  | '\'' :: '\'' :: '\'' :: '\'' :: '\'' :: rest => some (['\'', '\''], rest)
  | '\'' :: '\'' :: '\'' :: '\'' :: rest => some (['\''], rest)
  | '\'' :: '\'' :: '\'' :: rest => some ([], rest)
  | '\r' :: '\n' :: rest => follow? (some '\r') (follow? (some '\n') (literalLines? rest))
  | '\n' :: rest => follow? (some '\n') (literalLines? rest)
  | c :: rest => if isShown c then follow? (some c) (literalLines? rest) else none

def dropLineEnd : List Char → List Char
  | '\n' :: rest => rest
  | '\r' :: '\n' :: rest => rest
  | chars => chars

/-- A string on one line, quotes included. -/
def quotation? : List Char → Option (List Char × List Char)
  | '"' :: rest => basic? rest
  | '\'' :: rest => literal? rest
  | _ => none

/-- Any string, quotes included. -/
def string? : List Char → Option (List Char × List Char)
  | '"' :: '"' :: '"' :: rest => basicLines? false (dropLineEnd rest)
  | '\'' :: '\'' :: '\'' :: rest => literalLines? (dropLineEnd rest)
  | chars => quotation? chars

end CellModem.Toml
