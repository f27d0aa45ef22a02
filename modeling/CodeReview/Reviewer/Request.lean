import CodeReview.Json.Printer
import CodeReview.Number.Floating
import CodeReview.Reviewer.Backend
import CodeReview.Reviewer.Prompt

/-!
# Requests to providers

A client is settings with a key. It turns messages into a request whose body is JSON: most providers
read one format, and one of them has a format of its own.
-/

set_option autoImplicit false

namespace CodeReview.Reviewer

open Number

/-- How a provider is to be asked. -/
structure ClientSettings where
  backend : Backend := .openAi
  model : Option String := none
  maxTokens : Nat := 512
  temperature : Floating := (Floating.finite false (2 / 5)).round single
  timeoutSeconds : Nat := 120
deriving DecidableEq, Repr

/-- The model to be asked. -/
def ClientSettings.modelName (s : ClientSettings) : String := s.model.getD s.backend.defaultModel

/-- A client: settings and a key. -/
structure Client where
  settings : ClientSettings
  key : String
deriving DecidableEq, Repr

/-- A request to a provider. -/
structure Request where
  endpoint : Endpoint
  /-- The key, if it is sent. -/
  bearer : Option String
  body : String
deriving DecidableEq, Repr

/-! ## Bodies -/

/-- A message in JSON. -/
def Message.toJson (msg : Message) : Json :=
  .object [("role", .string msg.role.name), ("content", .string msg.content)]

/-- A temperature in JSON. -/
def temperatureJson (t : Floating) : Json :=
  match t.numeral? single with
  | some numeral => .number numeral
  | none => .null

/-- The messages with the system's before the others. -/
def withSystem (system : Option String) (messages : List Message) : List Message :=
  match system with
  | some text => ⟨.system, text⟩ :: messages
  | none => messages

/-- The body of a request in the format of most providers. -/
def requestJson (s : ClientSettings) (messages : List Message) : Json :=
  .object
    [("model", .string s.modelName), ("messages", .array (messages.map Message.toJson)),
      ("max_tokens", .nat s.maxTokens), ("temperature", temperatureJson s.temperature)]

/-- The body of a request to the provider with a format of its own: the system's message stands
apart. -/
def apartJson (s : ClientSettings) (system : Option String) (messages : List Message) : Json :=
  let others := messages.filter fun msg => msg.role != .system
  .object <|
    [("model", .string s.modelName), ("max_tokens", .nat s.maxTokens),
      ("messages", .array (others.map Message.toJson))] ++
    (match system with
      | some text => [("system", .string text)]
      | none => []) ++
    [("temperature", temperatureJson s.temperature)]

/-- The request for a completion. A key goes only to a provider that needs one. -/
def Client.request (c : Client) (system : Option String) (messages : List Message) : Request :=
  let s := c.settings
  { endpoint := s.backend.endpoint
    bearer := if s.backend.needsKey then some c.key else none
    body :=
      (if s.backend.isCompatible then requestJson s (withSystem system messages)
        else apartJson s system messages).print }

/-- Whether a text can stand in a line of the head of a request: it has no control characters but
tabs. -/
def fitsHead (text : String) : Bool :=
  text.toList.all fun c => c == '\t' || (32 ≤ c.toNat && c.toNat ≠ 127)

/-- Whether the key can be sent, if it has to be. -/
def Client.hasSendableKey (c : Client) : Bool := !c.settings.backend.needsKey || fitsHead c.key

end CodeReview.Reviewer
