import CellModem.Decoding

/-!
# Network surveys

A survey lists the cells of one band, or of all bands. A band is a range of channels; the full
survey has none.
-/

namespace CellModem

/-- The bands that can be surveyed, with their channels, both ends included. -/
def surveyBands : List (String × Option (UInt32 × UInt32)) :=
  [("FULL", none),
    ("P-GSM-900", some (0, 124)),
    ("E-GSM-900", some (975, 1023)),
    ("DCS-1800", some (512, 885)),
    ("GSM-850", some (128, 251)),
    ("PCS-1900", some (512, 810)),
    ("GSM-ALL", some (0, 1023)),
    ("UMTS-1", some (10562, 10838)),
    ("UMTS-2", some (9662, 9938)),
    ("UMTS-4", some (1537, 1738)),
    ("UMTS-5", some (4357, 4458)),
    ("UMTS-6", some (4387, 4413)),
    ("UMTS-8", some (2937, 3088)),
    ("UMTS-9", some (712, 763)),
    ("UMTS-ALL", some (0, 65535)),
    ("LTE-1", some (0, 599)),
    ("LTE-2", some (600, 1199)),
    ("LTE-3", some (1200, 1949)),
    ("LTE-4", some (1950, 2399)),
    ("LTE-5", some (2400, 2649)),
    ("LTE-7", some (2750, 3449)),
    ("LTE-8", some (3450, 3799)),
    ("LTE-11", some (4750, 4949)),
    ("LTE-12", some (5010, 5179)),
    ("LTE-13", some (5180, 5279)),
    ("LTE-17", some (5730, 5849)),
    ("LTE-19", some (6000, 6149)),
    ("LTE-20", some (6150, 6449)),
    ("LTE-21", some (6450, 6559)),
    ("LTE-26", some (8690, 9039)),
    ("LTE-ALL", some (0, 65534))]

def surveyRange (band : String) : Except Error (Option (UInt32 × UInt32)) :=
  match surveyBands.lookup band with
  | some range => .ok range
  | none => .error (.invalidArgument ("unknown survey band " ++ Text.quoted band))

def surveyCommand : Option (UInt32 × UInt32) → String
  | some (start, stop) =>
    if 0 < start ∨ 0 < stop then s!"AT#CSURV={start},{stop}" else "AT#CSURV"
  | none => "AT#CSURV"

/-- How the modem registers with networks around a survey. -/
inductive Registration where
  | automatic
  | deregistered
  deriving DecidableEq, Repr

def Registration.code : Registration → Nat
  | .automatic => 0
  | .deregistered => 2

/-! ## The cells found -/

def maxSurveyLines : Nat := 100

/-- How much of a line is kept. -/
def maxCellLength : Nat := 200

def surveyLeads : List String := ["arfcn:", "uarfcn:", "earfcn:", "Network survey"]

/-- The lines up to the banner that ends the survey, without those with the banner that starts
it. -/
def cellLines (lines : List String) : List String :=
  match lines with
  | [] => []
  | line :: rest =>
    if Text.mentions line "Network survey started" then cellLines rest
    else if Text.mentions line "Network survey ended" then []
    else line :: cellLines rest

def decodeSurvey (r : Response) : Except DecodeError (List String) :=
  if maxSurveyLines < r.lines.length then .error (.tooManyRows maxSurveyLines)
  else .ok ((cellLines r.lines).map fun line => String.ofList (line.toList.take maxCellLength))

end CellModem
