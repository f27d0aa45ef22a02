import CodeReview.Reviewer.Failure
import CodeReview.Text.Case
import CodeReview.Text.Line

/-!
# Backends

The providers of language models that can review code. All but one answer in the same format, and
all but the one that runs on the user's own machine need a key.
-/

set_option autoImplicit false

namespace CodeReview.Reviewer

/-- Where a provider is reached. -/
structure Endpoint where
  isSecure : Bool
  host : String
  /-- The number of the socket at the host, if it is not the usual one. -/
  socket : Option Nat
  path : String
deriving DecidableEq, Repr

namespace Endpoint

/-- The address of an endpoint. -/
def url (e : Endpoint) : String :=
  (if e.isSecure then "https://" else "http://") ++ e.host ++
    (match e.socket with
      | some n => ":" ++ toString n
      | none => "") ++ e.path

/-- The host of an endpoint and the socket there. -/
def target (e : Endpoint) : String :=
  e.host ++ ":" ++ toString (e.socket.getD (if e.isSecure then 443 else 80))

end Endpoint

/-- The providers. -/
inductive Backend
  | openAi
  | anthropic
  | deepinfra
  | openRouter
  | ollama
deriving DecidableEq, Repr

namespace Backend

/-- All providers, in the order in which they are named to the user. -/
def all : List Backend := [openAi, anthropic, deepinfra, openRouter, ollama]

/-- The name of a provider. -/
def name : Backend → String
  | openAi => "openai"
  | anthropic => "anthropic"
  | deepinfra => "deepinfra"
  | openRouter => "openrouter"
  | ollama => "ollama"

/-- The environment variable with the key for a provider; for the one that needs none, the variable
with the model. -/
def keyVariable : Backend → String
  | openAi => "OPENAI_API_KEY"
  | anthropic => "ANTHROPIC_API_KEY"
  | deepinfra => "DEEPINFRA_API_KEY"
  | openRouter => "OPENROUTER_API_KEY"
  | ollama => "OLLAMA_MODEL"

/-- Where the user gets a key. -/
def signup : Backend → String
  | openAi => "https://platform.openai.com/api-keys"
  | anthropic => "https://console.anthropic.com/settings/keys"
  | deepinfra => "https://deepinfra.com/dash/api_keys"
  | openRouter => "https://openrouter.ai/keys"
  | ollama => "https://ollama.ai (no key needed, just run locally)"

/-- The model that is used if no other is asked for. -/
def defaultModel : Backend → String
  | openAi => "gpt-3.5-turbo"
  | anthropic => "claude-sonnet-4-20250514"
  | deepinfra => "meta-llama/Llama-3.3-70B-Instruct"
  | openRouter => "anthropic/claude-sonnet-4"
  | ollama => "deepseek-coder:6.7b"

/-- Where a provider is reached. -/
def endpoint : Backend → Endpoint
  | openAi => ⟨true, "api.openai.com", none, "/v1/chat/completions"⟩
  | anthropic => ⟨true, "api.anthropic.com", none, "/v1/messages"⟩
  | deepinfra => ⟨true, "api.deepinfra.com", none, "/v1/openai/chat/completions"⟩
  | openRouter => ⟨true, "openrouter.ai", none, "/api/v1/chat/completions"⟩
  | ollama => ⟨false, "localhost", some 11434, "/v1/chat/completions"⟩

/-- Whether a provider answers in the format of most of them. -/
def isCompatible (b : Backend) : Bool := b != anthropic

/-- Whether a provider needs a key. -/
def needsKey (b : Backend) : Bool := b != ollama

/-- The provider of a name in lower case; one of them has two names. -/
def ofName? (name : String) : Option Backend :=
  if name = "claude" then some anthropic else all.find? fun b => b.name == name

/-- The provider that a text names in any case. -/
def parse (text : String) : Except Failure Backend :=
  let name := Text.toLower text
  match ofName? name with
  | some b => .ok b
  | none =>
    .error <| .setting <|
      s!"Unknown backend '{name}'. Valid backends: " ++ Text.join ", " (all.map Backend.name)

end Backend

end CodeReview.Reviewer
