import CodeReview.Reviewer.Answer
import CodeReview.Reviewer.Request

/-!
# Clients of providers

A client asks its provider over a connection, which is a function from requests to answers.
-/

set_option autoImplicit false

namespace CodeReview.Reviewer

/-- The way to the providers. -/
abbrev Connection (m : Type → Type) := Request → m Answer

/-- Asks a provider for a completion. Nothing is sent with a key that cannot be, or without any
time. -/
def Client.complete {m : Type → Type} [Monad m] (c : Client) (connection : Connection m)
    (system : Option String) (messages : List Message) : m (Except Failure Completion) :=
  if !c.hasSendableKey then pure (.error (.transport "http: failed to parse header value"))
  else if c.settings.timeoutSeconds = 0 then pure (.error (.timeout 0))
  else do
    let answer ← connection (c.request system messages)
    return answer.completion c.settings.backend

/-- The name of the reviewer that a client makes. -/
def Client.reviewerName (c : Client) : String :=
  c.settings.backend.name ++ "/" ++ c.settings.modelName

/-- The feedback in a completion. -/
def Completion.feedback (c : Completion) : Feedback := ⟨Text.trim c.text, c.usage⟩

/-- The reviewer that asks a provider. -/
def Client.reviewer {m : Type → Type} [Monad m] (c : Client) (connection : Connection m) :
    Reviewer m where
  name := c.reviewerName
  review language code := do
    let completion ← c.complete connection (some systemPrompt) (reviewMessages language code)
    return completion.map Completion.feedback

end CodeReview.Reviewer
