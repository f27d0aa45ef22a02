import CodeReview.Categorized
import CodeReview.Duplicates
import CodeReview.Metrics
import CodeReview.Reviewer.Basic

/-!
# Outcomes of a review

What a review of a source gives: its metrics, the findings of the rules, the feedback of an outside
reviewer, and the messages of both by category. A source that cannot be reviewed gives the text of
the error instead.
-/

set_option autoImplicit false

namespace CodeReview

open Reviewer

/-- The metrics of a source. -/
structure MetricsReport where
  functions : List FunctionSpan
  lengths : Metric
  complexity : Metric
  duplicates : List DuplicateBlock
deriving DecidableEq, Repr

/-- The metrics of a source with its name and language. -/
structure MeasuredSource where
  source : String
  language : String
  metrics : MetricsReport
deriving DecidableEq, Repr

/-- What became of the outside review. -/
inductive ExternalStatus
  | skipped
  | completed (reviewer : String) (usage : TokenUsage)
  | failed (reason : String)
deriving DecidableEq, Repr

/-- The tokens that an outside review took, if it was completed. -/
def ExternalStatus.usage? : ExternalStatus → Option TokenUsage
  | completed _ usage => some usage
  | _ => none

/-- The review of a source. -/
structure ReviewReport where
  source : String
  language : String
  metrics : MetricsReport
  findings : List Finding
  external : ExternalStatus
  feedback : Option String
  categorized : Categorized
deriving DecidableEq, Repr

/-- A result, or the name of a source with the text of the error that it gave. -/
inductive Outcome (α : Type)
  | done (value : α)
  | failed (source error : String)
deriving DecidableEq, Repr

/-- Whether a source gave an error. -/
def Outcome.isFailure {α : Type} : Outcome α → Bool
  | done _ => false
  | failed _ _ => true

/-- The outcome of a review. -/
abbrev ReviewOutcome := Outcome ReviewReport

/-- The outcome of measuring. -/
abbrev MetricsOutcome := Outcome MeasuredSource

/-- The name of the source of a review. -/
def Outcome.source : ReviewOutcome → String
  | .done report => report.source
  | .failed source _ => source

/-- The outcome of a result with an error. -/
def Outcome.ofExcept {α : Type} (source : String) : Except ReviewError α → Outcome α
  | .ok value => .done value
  | .error e => .failed source e.message

end CodeReview
