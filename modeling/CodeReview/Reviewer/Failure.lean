/-!
# Failures of a reviewer

Why an outside reviewer gives no feedback.
-/

set_option autoImplicit false

namespace CodeReview.Reviewer

/-- The reasons for which a reviewer gives no feedback. -/
inductive Failure
  /-- A key is needed, and the environment variable for it is not set. -/
  | missingKey (envName signup : String)
  /-- The provider was not reached. -/
  | transport (reason : String)
  /-- The provider did not answer in time. -/
  | timeout (seconds : Nat)
  /-- The provider refused, with the text of its answer. -/
  | status (code : Nat) (body : String)
  /-- The answer could not be used. -/
  | badAnswer (reason : String)
  /-- The reviewer was set up wrongly. -/
  | setting (reason : String)
deriving DecidableEq, Repr

/-- The text for a failure. -/
def Failure.message : Failure → String
  | missingKey envName signup =>
    s!"Missing API key: {envName} not set. Get your key at {signup}"
  | transport reason => s!"API request failed: {reason}"
  | timeout seconds => s!"API request timed out after {seconds}s"
  | status code body => s!"API error: {code} - {body}"
  | badAnswer reason => s!"Failed to parse API response: {reason}"
  | setting reason => s!"Invalid configuration: {reason}"

end CodeReview.Reviewer
