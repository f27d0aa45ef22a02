import CodeReview.Text.Line

/-!
# Prompts

What a language model is told to do: its role, and one message that asks for a review and ends with
the code.
-/

set_option autoImplicit false

namespace CodeReview.Reviewer

/-- Who speaks in a message. -/
inductive Role
  | system
  | user
deriving DecidableEq, Repr

/-- The name of a role. -/
def Role.name : Role → String
  | system => "system"
  | user => "user"

/-- A message to a language model. -/
structure Message where
  role : Role
  content : String
deriving DecidableEq, Repr

/-- The role that a model takes in a review. -/
def systemPrompt : String := "You are a senior software engineer performing a code review."

/-- What a review has to look at. -/
def aspects : List String :=
  ["correctness", "readability", "style", "modularity", "documentation", "security risks"]

/-- Some phrases as one, with a comma after each but the last. -/
def enumeration (phrases : List String) : String :=
  match phrases.getLast? with
  | some last => Text.join ", " phrases.dropLast ++ ", and " ++ last
  | none => ""

/-- The request for a review of some code. -/
def userPrompt (language code : String) : String :=
  "You are a professional software engineer. Please review the following " ++ language ++
    " code and provide detailed, constructive feedback, covering " ++ enumeration aspects ++
    ".\n\n" ++ Text.trim code

/-- The messages that ask for a review. -/
def reviewMessages (language code : String) : List Message := [⟨.user, userPrompt language code⟩]

end CodeReview.Reviewer
