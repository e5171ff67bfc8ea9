/-!
# Paths
-/

namespace CellModem.Text

/-- A path below another one. A path from the root stands for itself. -/
def joinPath (base path : String) : String :=
  match path.toList with
  | '/' :: _ => path
  | _ =>
    match base.toList.getLast? with
    | none => path
    | some '/' => base ++ path
    | some _ => base ++ "/" ++ path

def isRoot (path : String) : Bool := path = "/"

end CellModem.Text
