import CodeReview.Feedback.Classifier
import CodeReview.Review.Outcome
import CodeReview.Rules.Basic
import CodeReview.Rules.Line
import CodeReview.Rules.UnusedImport

/-!
# Reviewing a source

A source is read, measured and checked by the rules; then the outside reviewer is asked, and its
feedback is classified. A reviewer that fails takes nothing away from the rest.
-/

set_option autoImplicit false

namespace CodeReview

open Reviewer

/-- Where feedback from outside comes from. -/
inductive ExternalSource (m : Type → Type)
  | disabled
  | reviewer (r : Reviewer m)
  /-- There should be a reviewer, but there is none. -/
  | unavailable (reason : String)

/-- How sources are reviewed: the lines in a window for duplicates, the rules, and the source of
feedback. -/
structure Pipeline (m : Type → Type) where
  window : Nat := defaultMinLines
  rules : List Rule := Rules.standard
  external : ExternalSource m := .disabled

/-- The metrics of a unit. -/
def SourceUnit.measure (u : SourceUnit) (window : Nat) : Except ReviewError MetricsReport :=
  (u.duplicates window).map fun blocks =>
    ⟨u.functionSpans, u.functionLengths, u.cyclomaticComplexity, blocks⟩

theorem SourceUnit.measure_of_pos (u : SourceUnit) {window : Nat} (h : 1 ≤ window) :
    u.measure window = .ok ⟨u.functionSpans, u.functionLengths, u.cyclomaticComplexity,
      repeatedBlocks window u.lines⟩ := by
  rw [measure, u.duplicates_of_pos h]
  rfl

/-- Reads a source in the language that reviews are for. -/
def readSource (text : String) : Except ReviewError SourceUnit :=
  (SourceUnit.ofText .python text).mapError .syntaxFault

/-- The messages of findings and feedback together. -/
def categorize (findings : List Finding) (feedback : Option String) : Categorized :=
  Categorized.merge (.ofFindings findings)
    (match feedback with
      | some text => Feedback.standard.classify text
      | none => .empty)

/-- What became of a call of a reviewer, and its feedback. -/
def statusOfFeedback (name : String) :
    Except Failure Feedback → ExternalStatus × Option String
  | .ok feedback => (.completed name feedback.usage, some feedback.text)
  | .error failure => (.failed failure.message, none)

namespace Pipeline

variable {m : Type → Type} [Monad m]

/-- Measures a source. -/
def measure (p : Pipeline m) (source text : String) : Except ReviewError MeasuredSource := do
  let u ← readSource text
  return ⟨source, u.language, ← u.measure p.window⟩

/-- The outcome of measuring a source. -/
def measureOutcome (p : Pipeline m) (source text : String) : MetricsOutcome :=
  .ofExcept source (p.measure source text)

/-- Asks the outside reviewer about code. -/
def askExternal (p : Pipeline m) (language code : String) : m (ExternalStatus × Option String) :=
  match p.external with
  | .disabled => pure (.skipped, none)
  | .unavailable reason => pure (.failed reason, none)
  | .reviewer r => statusOfFeedback r.name <$> r.review language code

/-- The report on a unit with its metrics and the result of the outside review. -/
def report (p : Pipeline m) (source : String) (u : SourceUnit) (metrics : MetricsReport)
    (external : ExternalStatus × Option String) : ReviewReport :=
  let findings := Rule.run p.rules u
  { source
    language := u.language
    metrics
    findings
    external := external.1
    feedback := external.2
    categorized := categorize findings external.2 }

/-- Reviews a source. -/
def review (p : Pipeline m) (source text : String) : m (Except ReviewError ReviewReport) :=
  match (do let u ← readSource text; return (u, ← u.measure p.window)) with
  | .error e => pure (.error e)
  | .ok (u, metrics) => (fun external => .ok (p.report source u metrics external)) <$>
      p.askExternal u.language text

/-- The outcome of a review. -/
def reviewOutcome (p : Pipeline m) (source text : String) : m ReviewOutcome :=
  Outcome.ofExcept source <$> p.review source text

end Pipeline

end CodeReview
