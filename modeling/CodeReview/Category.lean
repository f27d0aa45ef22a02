import CodeReview.Text.Line

/-!
# Categories

Every remark of a review belongs to one of five categories, which have a fixed order.
-/

set_option autoImplicit false

namespace CodeReview

/-- The categories, in their order. -/
inductive Category
  | security
  | style
  | bug
  | documentation
  | modularity
deriving DecidableEq, Repr

namespace Category

/-- All categories, in their order. -/
def all : List Category := [security, style, bug, documentation, modularity]

/-- The name of a category. -/
def name : Category → String
  | security => "Security"
  | style => "Style"
  | bug => "Bug"
  | documentation => "Documentation"
  | modularity => "Modularity"

/-- The color that stands for a category in the legend of a report. -/
def legendColor : Category → String
  | security => "red"
  | documentation => "blue"
  | style => "green"
  | bug => "orange"
  | modularity => "gray"

/-- The category with exactly the given name. -/
def ofName? (s : String) : Option Category := all.find? fun c => c.name == s

/-- The ASCII letters of a text in lower case. -/
def asciiLower (s : String) : String := String.ofList (s.toList.map Char.toLower)

/-- The category that a text names, apart from the case of ASCII letters and blanks around it. -/
def parse (s : String) : Except String Category :=
  match all.find? fun c => asciiLower c.name == asciiLower (Text.trim s) with
  | some c => .ok c
  | none =>
    .error (s!"Unknown category '{s}'. Valid categories: " ++ Text.join ", " (all.map name))

end Category

end CodeReview
