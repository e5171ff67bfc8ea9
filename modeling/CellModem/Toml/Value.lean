import CellModem.Number.Decimal

/-!
# TOML values and tables

A document is built from statements: headers that open a table or add one to an array of tables,
and assignments under a path of keys. A table remembers where it came from, since that decides what
may still be added to it: one that was written in braces is closed, one that a header opened is not
opened again, and one that keys with dots made takes further such keys, but no header.
-/

namespace CellModem

namespace Toml

/-- Where a table came from. -/
inductive Origin where
  /-- A header, or the document itself. -/
  | header
  /-- A header of a table inside it. -/
  | implied
  /-- A key with dots. -/
  | dotted
  /-- Braces. -/
  | braces
  deriving DecidableEq, Repr

end Toml

inductive Toml where
  | text (value : String)
  /-- `none` stands for what is written like a number and is none. -/
  | integer (value : Option Int)
  /-- `none` stands for the infinities and for what is not a number. -/
  | float (value : Option Number.Decimal)
  | boolean (value : Bool)
  /-- A date, a time, or both. -/
  | moment
  | array (items : List Toml)
  /-- An array whose tables have headers of their own. -/
  | tables (items : List Toml)
  | table (origin : Toml.Origin) (members : List (String × Toml))

namespace Toml

abbrev Members := List (String × Toml)

/-- One line of a document. -/
inductive Statement where
  | openTable (path : List String) (key : String)
  | addTable (path : List String) (key : String)
  | assign (path : List String) (key : String) (value : Toml)

def replace (key : String) (value : Toml) : Members → Members
  | [] => []
  | (k, v) :: rest => if k = key then (k, value) :: rest else (k, v) :: replace key value rest

/-- A change of a table, which may be refused. -/
abbrev Change := Origin → Members → Option (Origin × Members)

def changeLast (change : Change) : List Toml → Option (List Toml)
  | [] => none
  | [.table origin members] => (change origin members).map fun (o, m) => [.table o m]
  | [_] => none
  | item :: rest => (changeLast change rest).map (item :: ·)

/-- Changes the table under a path. Tables that are missing are made; `dotted` tells that the path
is one of keys with dots, and not one of a header. -/
def within (dotted : Bool) (change : Change) : List String → Change
  | [], origin, members => change origin members
  | key :: path, origin, members =>
    match members.lookup key with
    | none => do
      let (o, m) ← within dotted change path (if dotted then .dotted else .implied) []
      return (origin, members ++ [(key, .table o m)])
    | some (.table .braces _) => none
    | some (.table o m) =>
      if dotted ∧ o = .header then none
      else do
        let (o, m) ← within dotted change path o m
        return (origin, replace key (.table o m) members)
    | some (.tables items) => do
      let items ← changeLast (within dotted change path) items
      return (origin, replace key (.tables items) members)
    | some _ => none

/-- Adds a member. The path has been walked; `atPath` tells that it was not empty. -/
def assignHere (atPath : Bool) (key : String) (value : Toml) : Change := fun origin members =>
  if atPath ≠ (origin = .dotted) then none
  else match members.lookup key with
    | none => some (origin, members ++ [(key, value)])
    | some _ => none

def assignUnder (path : List String) (key : String) (value : Toml) : Change :=
  within true (assignHere (!path.isEmpty) key value) path

/-- Opens a table. One that was only implied so far may be opened. -/
def openHere (key : String) : Change := fun origin members =>
  match members.lookup key with
  | none => some (origin, members ++ [(key, .table .header [])])
  | some (.table .implied m) => some (origin, replace key (.table .header m) members)
  | some _ => none

/-- Adds a table to an array of tables. -/
def addHere (key : String) : Change := fun origin members =>
  match members.lookup key with
  | none => some (origin, members ++ [(key, .tables [.table .header []])])
  | some (.tables items) =>
    some (origin, replace key (.tables (items ++ [.table .header []])) members)
  | some _ => none

/-- Carries out statements on a document; `section_` is the path of the table that is open. -/
def build : (section_ : List String) → List Statement → Members → Option Members
  | _, [], root => some root
  | section_, .assign path key value :: rest, root => do
    let (_, root) ← within false (assignUnder path key value) section_ .header root
    build section_ rest root
  | _, .openTable path key :: rest, root => do
    let (_, root) ← within false (openHere key) path .header root
    build (path ++ [key]) rest root
  | _, .addTable path key :: rest, root => do
    let (_, root) ← within false (addHere key) path .header root
    build (path ++ [key]) rest root

end Toml

end CellModem
