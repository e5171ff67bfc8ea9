import CellModem.Text.Blank

/-!
# Answers of the modem

A command is answered by intermediate lines and one final line. A line that comes on its own is
wrapped in the same form.
-/

namespace CellModem

structure Response where
  ok : Bool
  status : String
  /-- The intermediate lines the command asked for. -/
  lines : List String
  deriving DecidableEq, Repr

namespace Response

def success (lines : List String) : Response := ⟨true, "OK", lines⟩

def failure (status : String) : Response := ⟨false, status, []⟩

/-- A line the modem sent on its own. -/
def unsolicited (line : String) : Response := ⟨true, "", [line]⟩

def wanted (leads : List String) (line : String) : Bool :=
  leads.any (Text.startsWith line)

/-- Keeps the lines that start with one of `leads`; with no leads, none. -/
def filtered (r : Response) (leads : List String) : Response :=
  { r with lines := r.lines.filter (wanted leads) }

/-- The lines and then the final line. -/
def text (r : Response) : String :=
  r.lines.foldr (fun line rest => line ++ "\n" ++ rest) r.status

theorem filtered_nil (r : Response) : (r.filtered []).lines = [] := by
  simp [filtered, wanted]

theorem filtered_filtered (r : Response) (leads : List String) :
    (r.filtered leads).filtered leads = r.filtered leads := by
  simp [filtered]

end Response

end CellModem
