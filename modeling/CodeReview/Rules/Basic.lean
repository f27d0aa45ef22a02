import CodeReview.Categorized
import CodeReview.Source

/-!
# Rules

A rule looks at a source unit and makes findings of one category. Rules do not depend on each other:
a battery of them gives the findings of each in turn.
-/

set_option autoImplicit false

namespace CodeReview

/-- A static check. -/
structure Rule where
  name : String
  description : String
  category : Category
  check : SourceUnit → List Finding

namespace Rule

/-- The message for a line of code. -/
def lineMessage (line : Nat) (what code : String) : String :=
  s!"Line {line}: {what} → \x60" ++ Text.trim code ++ "\x60"

/-- The finding of a rule on a line of code. -/
def lineFinding (rule : String) (c : Category) (what : String) (line : Nat × String) : Finding :=
  .new rule c (lineMessage line.1 what line.2) (some line.1)

/-- A rule that makes a finding on each line that it flags. -/
def ofLines (name description : String) (c : Category) (what : String)
    (flags : List Char → Bool) : Rule where
  name
  description
  category := c
  check u := (u.numberedLines.filter fun l => flags l.2.toList).map (lineFinding name c what)

/-- The findings of a battery of rules. -/
def run (rules : List Rule) (u : SourceUnit) : List Finding := rules.flatMap fun r => r.check u

/-- The findings of a battery of rules by category. -/
def runCategorized (rules : List Rule) (u : SourceUnit) : Categorized := .ofFindings (run rules u)

end Rule

end CodeReview
