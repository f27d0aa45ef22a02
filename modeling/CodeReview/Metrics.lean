import CodeReview.Source

/-!
# Metrics

The length and the complexity of the functions of a source unit. A function within another is
measured on its own and also counts in every function around it.
-/

set_option autoImplicit false

namespace CodeReview

open Syntax

/-- A number for each name, in ascending order of the names. -/
abbrev Metric := List (String × Nat)

namespace Metric

/-- Changes the number of a name; a name without a number comes to its place in the order. -/
def alter (f : Option Nat → Nat) (name : String) : Metric → Metric
  | [] => [(name, f none)]
  | (k, v) :: rest =>
    if name < k then (name, f none) :: (k, v) :: rest
    else if k = name then (k, f (some v)) :: rest
    else (k, v) :: alter f name rest

/-- Gives a name a number, in place of the one it had. -/
def insert (m : Metric) (name : String) (n : Nat) : Metric := m.alter (fun _ => n) name

/-- Adds to the number of a name. -/
def add (m : Metric) (name : String) (n : Nat) : Metric := m.alter (fun v => v.getD 0 + n) name

/-- The number of a name. -/
def get? (m : Metric) (name : String) : Option Nat := (m.find? fun e => e.1 == name).map (·.2)

end Metric

/-- The lines of a function, from the one it starts on to the last that a node in it starts on. -/
structure FunctionSpan where
  name : String
  first : Nat
  last : Nat
deriving DecidableEq, Repr

/-- The number of lines of a span. -/
def FunctionSpan.lineCount (s : FunctionSpan) : Nat := s.last - s.first + 1

/-- The name of a function. -/
def functionName (n : Node) : String := n.name.getD "<anonymous>"

namespace SourceUnit

/-- The functions of a unit, breadth first. -/
def functions (u : SourceUnit) : List Node := u.tree.walk.filter fun n => n.kind == .function

/-- The spans of the functions of a unit, breadth first. -/
def functionSpans (u : SourceUnit) : List FunctionSpan :=
  u.functions.map fun n => ⟨functionName n, n.line, max n.lastLine n.line⟩

/-- The length of the functions of each name; of several, the last one counts. -/
def functionLengths (u : SourceUnit) : Metric :=
  u.functionSpans.foldl (fun m s => m.insert s.name s.lineCount) []

end SourceUnit

/-- The complexity of a function: one, and one more for each branch in it. -/
def complexityOf (n : Node) : Nat := 1 + (n.walk.tail.filter fun m => m.kind.isBranch).length

namespace SourceUnit

/-- The complexity of the functions of each name together. -/
def cyclomaticComplexity (u : SourceUnit) : Metric :=
  u.functions.foldl (fun m n => m.add (functionName n) (complexityOf n)) []

end SourceUnit

end CodeReview
