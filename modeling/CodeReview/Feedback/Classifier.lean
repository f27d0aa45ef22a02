import CodeReview.Categorized
import CodeReview.Text.Pattern

/-!
# Classifying feedback

Free text is classified line by line. A classifier is a table of categories with triggers; the first
row with a trigger that stands in the line gives its category, and a line without any is dropped.
How a row tells that one of its triggers stands in a line is left open; `ofTable?` takes patterns.
-/

set_option autoImplicit false

namespace CodeReview.Feedback

open Text

/-- Rows of categories with a test of lines for their triggers, in order of precedence. -/
structure Classifier where
  rows : List (Category × (List Char → Bool))

namespace Classifier

/-- Whether one of some patterns stands in a line. -/
def isTriggered (patterns : List Pattern) (line : List Char) : Bool :=
  patterns.any fun p => p.found line

/-- The row of a classifier for a category with written patterns, if all of them can be read. -/
def readRow? (row : Category × List String) : Option (Category × (List Char → Bool)) :=
  (row.2.mapM Pattern.read).map fun ps => (row.1, isTriggered ps)

/-- The classifier for a table of written patterns, if all of them can be read. -/
def ofTable? (table : List (Category × List String)) : Option Classifier :=
  (table.mapM readRow?).map Classifier.mk

/-- The categories in order of precedence. -/
def order (k : Classifier) : List Category := k.rows.map (·.1)

/-- The category of a line. -/
def classifyLine (k : Classifier) (line : List Char) : Option Category :=
  (k.rows.find? fun row => row.2 line).map (·.1)

/-- The lines of a text that count, without the blanks around them. -/
def contentLines (text : List Char) : List (List Char) :=
  ((lineChars (trimChars text)).map trimChars).filter fun l => !l.isEmpty

/-- The lines of a text that have a category, with it. -/
def classified (k : Classifier) (text : String) : List (Category × String) :=
  (contentLines text.toList).filterMap fun l =>
    (k.classifyLine l).map fun c => (c, String.ofList l)

/-- The lines of a text under their categories. -/
def classify (k : Classifier) (text : String) : Categorized := .ofPairs (k.classified text)

end Classifier

/-- The table of triggers for reviews in English. -/
def triggers : List (Category × List String) :=
  [(.style,
      ["\\bPEP8\\b", "indentation", "naming", "formatting", "line length", "readability"]),
    (.bug,
      ["\\bbug\\b", "\\berror\\b", "off[- ]by[- ]one", "\\bcrash\\b", "\\bunexpected\\b",
        "\\bincorrect\\b", "unused variable", "edge case"]),
    (.security,
      ["SQL injection", "\\bXSS\\b", "hardcoded (secret|password|token)", "vulnerability",
        "input validation", "data sanitization"]),
    (.documentation,
      ["docstring", "\\bcomment\\b", "documentation", "missing explanation", "clarity",
        "explain the function", "not well documented", "function description"]),
    (.modularity,
      ["\\breusable\\b", "split.*function", "too long", "separation of concerns",
        "single responsibility", "refactor into smaller functions"])]

/-- The classifier for reviews in English. -/
def standard : Classifier := (Classifier.ofTable? triggers).getD ⟨[]⟩

end CodeReview.Feedback
