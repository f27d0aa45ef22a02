import CodeReview.Number.Floating
import CodeReview.Reviewer.Failure
import CodeReview.Syntax.Fault

/-!
# Errors of a review

What can keep a review from being made.
-/

set_option autoImplicit false

namespace CodeReview

open Number

/-- The reasons for which settings are refused. -/
inductive SettingFault
  /-- The windows for duplicate blocks would have no lines. -/
  | emptyWindow
  | backend (failure : Reviewer.Failure)
  | noTime
  | noTokens
  | temperature (value : Floating)
  /-- A file of settings could not be read. -/
  | unreadable (path reason : String)
  | other (reason : String)
deriving DecidableEq, Repr

/-- The text for a reason. -/
def SettingFault.message : SettingFault → String
  | emptyWindow => "minimum duplicate block length must be at least 1"
  | backend failure => failure.message
  | noTime => "ai.timeout_secs must be at least 1"
  | noTokens => "ai.max_tokens must be at least 1"
  | temperature value => "ai.temperature must be between 0 and 2, got " ++ value.text single
  | unreadable path reason => s!"Failed to parse {path}: {reason}"
  | other reason => reason

/-- What can keep a review from being made. -/
inductive ReviewError
  | syntaxFault (fault : Syntax.Fault)
  | setting (fault : SettingFault)
  | external (failure : Reviewer.Failure)
  | file (reason : String)
deriving DecidableEq, Repr

/-- The text for an error. -/
def ReviewError.message : ReviewError → String
  | syntaxFault fault => fault.message
  | setting fault => "Invalid configuration: " ++ fault.message
  | external failure => "External review failed: " ++ failure.message
  | file reason => "IO error: " ++ reason

end CodeReview
