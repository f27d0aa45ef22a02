import CodeReview.Number.Floating

/-!
# TOML values

A table knows how it was defined, for that decides whether more may be added to it. Its entries keep
their order, and no name stands twice.
-/

set_option autoImplicit false

namespace CodeReview

open Number

namespace Toml

/-- How a table was defined. -/
inductive Origin
  /-- By a header of its own, or as the whole document. -/
  | header
  /-- By the header of a table within it. -/
  | implied
  /-- By a dotted key. -/
  | dotted
  /-- Between braces. -/
  | inline
deriving DecidableEq, Repr

/-- Whether entries may be added to the table by a dotted key. -/
def Origin.isImplicit : Origin → Bool
  | .implied | .dotted => true
  | .header | .inline => false

end Toml

/-- A TOML value. A date or a time is kept as it is written. -/
inductive Toml
  | string (text : String)
  | integer (value : Int)
  | float (value : Floating)
  | bool (value : Bool)
  | moment (text : String)
  | array (items : List Toml)
  | table (origin : Toml.Origin) (entries : List (String × Toml))
  /-- Tables under repeated headers of one name. -/
  | tables (items : List (List (String × Toml)))
deriving Repr, Inhabited

namespace Toml

/-- The entries of a table. -/
abbrev Entries := List (String × Toml)

/-- The value with a name. -/
def Entries.get? (entries : Entries) (name : String) : Option Toml :=
  (entries.find? fun e => e.1 == name).map (·.2)

/-- Gives a name a value; a new name comes last. -/
def Entries.set (entries : Entries) (name : String) (value : Toml) : Entries :=
  if entries.any fun e => e.1 == name then
    entries.map fun e => if e.1 == name then (name, value) else e
  else entries ++ [(name, value)]

/-- A table being filled. -/
structure Table where
  origin : Origin
  entries : Entries

/-- The table as a value. -/
def Table.toValue (t : Table) : Toml := .table t.origin t.entries

/-- Changes the table that a path leads to. Tables on the path that are missing are made, as dotted
ones if the path is that of a dotted key; such a key does not lead into a table with a header. A
path leads into the last of several tables with one header, and never into a table between
braces. -/
def Table.alter (byKey : Bool) (change : Table → Option Table) :
    List String → Table → Option Table
  | [], t => change t
  | name :: path, t =>
    let put (value : Toml) : Table := { t with entries := t.entries.set name value }
    match t.entries.get? name with
    | none =>
      (alter byKey change path ⟨if byKey then .dotted else .implied, []⟩).map fun u =>
        put u.toValue
    | some (.table origin entries) =>
      if origin = .inline ∨ (byKey ∧ !origin.isImplicit) then none
      else (alter byKey change path ⟨origin, entries⟩).map fun u => put u.toValue
    | some (.tables items) =>
      match items.getLast? with
      | none => none
      | some last =>
        (alter byKey change path ⟨.header, last⟩).map fun u =>
          put (.tables (items.dropLast ++ [u.entries]))
    | some _ => none

/-- Adds an entry to a table, which must be a dotted one just if the key is dotted. -/
def Table.add (isDotted : Bool) (name : String) (value : Toml) (t : Table) : Option Table :=
  if decide (t.origin = .dotted) != isDotted then none
  else if (t.entries.get? name).isSome then none
  else some { t with entries := t.entries ++ [(name, value)] }

/-- Adds the value of a key, given as the path before its last part and that part. -/
def Table.addKey (path : List String) (name : String) (value : Toml) (t : Table) : Option Table :=
  t.alter true (Table.add (!path.isEmpty) name value) path

/-- Opens the table of a header. -/
def Table.openTable (name : String) (t : Table) : Option Table :=
  match t.entries.get? name with
  | none => some { t with entries := t.entries.set name (.table .header []) }
  | some (.table .implied entries) =>
    some { t with entries := t.entries.set name (.table .header entries) }
  | some _ => none

/-- Opens one more table of a repeated header. -/
def Table.openItem (name : String) (t : Table) : Option Table :=
  match t.entries.get? name with
  | none => some { t with entries := t.entries.set name (.tables [[]]) }
  | some (.tables items) => some { t with entries := t.entries.set name (.tables (items ++ [[]])) }
  | some _ => none

end Toml

end CodeReview
