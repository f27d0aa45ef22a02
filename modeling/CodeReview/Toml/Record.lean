import CodeReview.Toml.Value

/-!
# Records in TOML

A record is a table with an entry for each field. It may also be given as an array that holds its
first fields in their order; whatever follows them there does not matter. A date or a time counts as
a record without any field.
-/

set_option autoImplicit false

namespace CodeReview.Toml

open Number

/-- The fields of a record with the given names; a field that is not given has no value. -/
def fields? (names : List String) : Toml → Option (List (Option Toml))
  | .table _ entries => some (names.map (Entries.get? entries))
  | .array items => some (names.zipIdx.map fun (_, i) => items[i]?)
  | .tables items => some (names.zipIdx.map fun (_, i) => items[i]?.map fun e => .table .header e)
  | .moment _ => some (names.map fun _ => none)
  | _ => none

/-- The text of a string. -/
def text? : Toml → Option String
  | .string text => some text
  | _ => none

/-- A truth value. -/
def bool? : Toml → Option Bool
  | .bool b => some b
  | _ => none

/-- A natural number below a bound. -/
def natBelow? (bound : Nat) : Toml → Option Nat
  | .integer n => if 0 ≤ n ∧ n < (bound : Int) then some n.toNat else none
  | _ => none

/-- A number in a binary format, which may be written as an integer. -/
def floating? (f : Format) : Toml → Option Floating
  | .integer n => some ((Floating.ofInt n).round f)
  | .float x => some (x.round f)
  | _ => none

/-- The value of a field, or `default` if it is not given. -/
def fieldOr? {α : Type} (read : Toml → Option α) (default : α) : Option Toml → Option α
  | some v => read v
  | none => some default

/-- The value of a field that may be left out. -/
def optional? {α : Type} (read : Toml → Option α) : Option Toml → Option (Option α)
  | some v => (read v).map some
  | none => some none

end CodeReview.Toml
