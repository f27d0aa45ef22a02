/-!
# JSON values

Members of an object keep their order and may repeat a name. A number is kept as it is written, so
that no digit is lost. A string may be written with an escape for half of a surrogate pair, which
stands for no text: such a string, and an object with such a name, is `unreadable`.
-/

set_option autoImplicit false

namespace CodeReview

/-- A JSON value. -/
inductive Json
  | null
  | bool (value : Bool)
  | number (numeral : String)
  | string (text : String)
  | array (items : List Json)
  | object (members : List (String × Json))
  | unreadable
deriving Repr, Inhabited

namespace Json

/-- The number for a natural number. -/
def nat (n : Nat) : Json := number (toString n)

/-- The array of some strings. -/
def strings (texts : List String) : Json := array (texts.map string)

/-- The string for a text, or null for none. -/
def stringOrNull : Option String → Json
  | some text => string text
  | none => null

/-- The number for a natural number, or null for none. -/
def natOrNull : Option Nat → Json
  | some n => nat n
  | none => null

end Json

end CodeReview
