import CellModem.Text.Blank
import CellModem.Text.Utf8

/-!
# Lines out of bytes

The modem's bytes are cut into lines at every carriage return and line feed. A line is decoded as
UTF-8 as a whole and trimmed; blank ones are dropped. Bytes behind the last end wait for more, so
how the bytes arrive in pieces does not matter.
-/

namespace CellModem

structure LineFramer where
  pending : List UInt8
  deriving DecidableEq, Repr

namespace LineFramer

def empty : LineFramer := ⟨[]⟩

def isLineEnd (b : UInt8) : Bool := b = 13 || b = 10

/-- The line in a run of bytes, unless it is blank. -/
def lineOf? (bytes : List UInt8) : Option String :=
  match Text.trim (Text.decodeLossy bytes) with
  | [] => none
  | text => some (String.ofList text)

/-- The lines that end in `input`, which comes behind the unfinished bytes `line`. -/
def feed (line : List UInt8) : List UInt8 → List String × LineFramer
  | [] => ([], ⟨line⟩)
  | b :: input =>
    if isLineEnd b then
      let (lines, rest) := feed [] input
      ((lineOf? line).toList ++ lines, rest)
    else feed (line ++ [b]) input

/-- Takes in a piece of input; returns the lines that are complete now. -/
def push (framer : LineFramer) (input : List UInt8) : List String × LineFramer :=
  feed framer.pending input

def pushAll (framer : LineFramer) : List (List UInt8) → List (List String) × LineFramer
  | [] => ([], framer)
  | input :: inputs =>
    let (lines, framer) := framer.push input
    let (more, framer) := framer.pushAll inputs
    (lines :: more, framer)

end LineFramer

end CellModem
