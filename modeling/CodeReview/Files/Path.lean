import CodeReview.Text.Line

/-!
# Paths

A path is a text; what it names is given by its components, in which repeated slashes and most
single dots do not show. Paths are ordered by their components.
-/

set_option autoImplicit false

namespace CodeReview.Files

/-- A component of a path. -/
inductive Component
  | root
  /-- A single dot at the start. -/
  | current
  | parent
  | name (text : String)
deriving DecidableEq, Repr

namespace Component

/-- The place of the kind of a component in their order. -/
def rank : Component → Nat
  | root => 0
  | current => 1
  | parent => 2
  | name _ => 3

/-- Whether a component comes before another. -/
def before : Component → Component → Bool
  | name a, name b => decide (a < b)
  | a, b => decide (a.rank < b.rank)

end Component

/-- The texts between the slashes of a path. -/
def segments (path : String) : List String :=
  (Text.splitChars '/' path.toList).map String.ofList

/-- The component for a segment after the first, if there is one. -/
def component? (segment : String) : Option Component :=
  if segment = "" ∨ segment = "." then none
  else if segment = ".." then some .parent
  else some (.name segment)

/-- The components of a path. -/
def components (path : String) : List Component :=
  match segments path with
  | [] => []
  | first :: rest =>
    let start :=
      if first = "" then (if rest.isEmpty then [] else [Component.root])
      else if first = "." then [.current]
      else (component? first).toList
    start ++ rest.filterMap component?

/-- Whether components come before others or are equal to them. -/
def componentsLe : List Component → List Component → Bool
  | [], _ => true
  | _ :: _, [] => false
  | a :: as, b :: bs =>
    if a.before b then true else if b.before a then false else componentsLe as bs

/-- The order of paths. -/
def pathLe (a b : String) : Bool := componentsLe (components a) (components b)

/-- The path of a name in the directory of a path. -/
def joinPath (path name : String) : String :=
  if path.endsWith "/" then path ++ name else path ++ "/" ++ name

/-- The extension of a name: what stands after its last dot, unless that is its first character. -/
def extension? (name : String) : Option String :=
  match (Text.splitChars '.' name.toList).reverse with
  | last :: before :: rest =>
    if rest.isEmpty ∧ before.isEmpty then none else some (String.ofList last)
  | _ => none

/-- Whether a name is hidden: it starts with a dot. -/
def isHidden (name : String) : Bool := name.startsWith "."

end CodeReview.Files
