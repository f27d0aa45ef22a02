import CodeReview.Json.Value

/-!
# Records in JSON

A record is written as an object with a member for each field. It may also be given as an array that
holds its fields in their order, without some of the last ones. Members with other names do not
matter, but no field may be given twice.
-/

set_option autoImplicit false

namespace CodeReview.Json

/-- The value of the member with a name. -/
def member? (members : List (String × Json)) (name : String) : Option Json :=
  (members.find? fun m => m.1 == name).map (·.2)

/-- Whether a name is given twice. -/
def isRepeated (members : List (String × Json)) (name : String) : Bool :=
  1 < (members.filter fun m => m.1 == name).length

/-- The fields of an object, for names none of which is given twice. -/
def objectFields? (names : List String) (members : List (String × Json)) :
    Option (List (Option Json)) :=
  if names.any (isRepeated members) then none else some (names.map (member? members))

/-- The fields of a record with the given names; a field that is not given has no value. -/
def fields? (names : List String) : Json → Option (List (Option Json))
  | object members => objectFields? names members
  | array items =>
    if names.length < items.length then none
    else some (items.map some ++ List.replicate (names.length - items.length) none)
  | _ => none

/-- The text of a string. -/
def text? : Json → Option String
  | string text => some text
  | _ => none

/-- The items of an array. -/
def items? : Json → Option (List Json)
  | array items => some items
  | _ => none

/-- The natural number below a bound that a number is written as. -/
def natBelow? (bound : Nat) : Json → Option Nat
  | number numeral =>
    if numeral.toList.all Char.isDigit then
      match numeral.toNat? with
      | some n => if n < bound then some n else none
      | none => none
    else none
  | _ => none

/-- A count of 32 binary digits. -/
def word? (v : Json) : Option Nat := natBelow? UInt32.size v

/-- A count of 64 binary digits. -/
def long? (v : Json) : Option Nat := natBelow? UInt64.size v

/-- Null, or a value that can be read. -/
def orNull? {α : Type} (read : Json → Option α) : Json → Option (Option α)
  | null => some none
  | v => (read v).map some

/-- The list of values that an array holds. -/
def list? {α : Type} (read : Json → Option α) (v : Json) : Option (List α) :=
  v.items?.bind fun items => items.mapM read

end CodeReview.Json
