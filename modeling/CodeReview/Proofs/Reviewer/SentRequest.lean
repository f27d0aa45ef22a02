import CodeReview.Proofs.Json.PrintedText
import CodeReview.Proofs.Number.WrittenNumeral
import CodeReview.Reviewer.Client
import Mathlib.Tactic.FinCases

/-!
# What is sent to a provider

`sends_messages`: the body of a request to a provider of the common format is read as an object with
the model, the messages, the number of tokens and the temperature, and its messages are read as the
ones that were given, after the system's, whatever characters are in them. For a review they are the
role of a reviewer and one message that ends with a blank line and the code. A client sends this
request once, or nothing if its key cannot be sent or it has no time. The key of a provider that
needs one is sent with the request, and to one that needs none nothing depends on the key.

A provider reads a message with `Message.ofJson?`, which takes back what `Message.toJson` wrote. The
body has a text of its own (`printable_requestJson`), as the temperature is written as a numeral.
-/

set_option autoImplicit false

namespace CodeReview.Reviewer

open Number

/-! ## Messages are read back -/

/-- The role of a name. -/
def Role.ofName? : String → Option Role
  | "system" => some system
  | "user" => some user
  | _ => none

/-- The message that an object with a role and a content stands for. -/
def Message.ofJson? : Json → Option Message
  | .object [("role", .string role), ("content", .string content)] =>
    (Role.ofName? role).map fun role => ⟨role, content⟩
  | _ => none

theorem Message.ofJson?_toJson (msg : Message) : ofJson? msg.toJson = some msg := by
  obtain ⟨role, content⟩ := msg
  cases role <;> rfl

/-! ## Bodies have a text -/

theorem printable_temperatureJson (t : Floating) : (temperatureJson t).Printable := by
  unfold temperatureJson
  split
  case h_1 numeral h => exact .number (isNumeral_numeral? (by decide) (by decide) h)
  case h_2 => exact .null

theorem Message.printable_toJson (msg : Message) : msg.toJson.Printable := by
  refine .object fun m hm => ?_
  fin_cases hm
  · exact .string _
  · exact .string _

theorem printable_requestJson (s : ClientSettings) (messages : List Message) :
    (requestJson s messages).Printable := by
  refine .object fun m hm => ?_
  fin_cases hm
  · exact .string _
  · exact .array (List.forall_mem_map.2 fun msg _ => msg.printable_toJson)
  · exact .number (Json.isNumeral_nat s.maxTokens)
  · exact printable_temperatureJson s.temperature

/-! ## Requests -/

/-- A request in which a client asks its provider to go on with some messages. -/
structure Client.Asks (c : Client) (messages : List Message) (r : Request) : Prop where
  endpoint : r.endpoint = c.settings.backend.endpoint
  key : c.settings.backend.needsKey = true → r.bearer = some c.key
  body : ∃ items, Json.parse r.body = some (.object
      [("model", .string (c.settings.model.getD c.settings.backend.defaultModel)),
        ("messages", .array items), ("max_tokens", .nat c.settings.maxTokens),
        ("temperature", temperatureJson c.settings.temperature)]) ∧
    items.mapM Message.ofJson? = some messages

theorem withSystem_eq (system : Option String) (messages : List Message) :
    withSystem system messages = system.toList.map (⟨.system, ·⟩) ++ messages := by
  cases system <;> rfl

theorem Client.asks_request {c : Client} (hc : c.settings.backend.isCompatible = true)
    (system : Option String) (messages : List Message) :
    c.Asks (system.toList.map (⟨.system, ·⟩) ++ messages) (c.request system messages) := by
  have hbody : (c.request system messages).body =
      (requestJson c.settings (withSystem system messages)).print := by
    rw [Client.request, if_pos hc]
  refine ⟨rfl, fun hkey => if_pos hkey, (withSystem system messages).map Message.toJson, ?_, ?_⟩
  · rw [hbody, Json.parse_print (printable_requestJson _ _)]
    rfl
  · rw [← withSystem_eq, Json.mapM_map_eq_some fun msg _ => msg.ofJson?_toJson]

/-- The code stands at the end of a prompt, after a blank line. -/
theorem exists_userPrompt (language : String) : ∃ introduction : String, ∀ code,
    userPrompt language code = introduction ++ "\n\n" ++ Text.trim code := by
  have hend (a : String) : a ++ ".\n\n" = a ++ "." ++ "\n\n" := by
    rw [String.append_assoc, show "." ++ "\n\n" = ".\n\n" by decide]
  exact ⟨_, fun code => congrArg (· ++ Text.trim code) (hend _)⟩

/-! ## Calls -/

/-- Whether a client sends anything. -/
def Client.CanSend (c : Client) : Prop :=
  c.hasSendableKey = true ∧ c.settings.timeoutSeconds ≠ 0

instance (c : Client) : Decidable c.CanSend := inferInstanceAs (Decidable (_ ∧ _))

/-- What is done over a connection is one call with a request, and only the answer to it counts; a
client that cannot send does nothing and fails. -/
def Client.Calls {α : Type} (c : Client) (r : Request)
    (act : (m : Type → Type) → [Monad m] → Connection m → m (Except Failure α)) : Prop :=
  ∃ (finish : Answer → Except Failure α) (failure : Failure),
    ∀ (m : Type → Type) [Monad m] [LawfulMonad m] (connection : Connection m),
      act m connection =
        if c.CanSend then finish <$> connection r else pure (.error failure)

/-- A client that can send gives the completion in the answer to its request. -/
theorem Client.complete_eq (c : Client) {m : Type → Type} [Monad m] [LawfulMonad m]
    (connection : Connection m) (system : Option String) (messages : List Message) :
    c.complete connection system messages =
      if c.CanSend then
        (·.completion c.settings.backend) <$> connection (c.request system messages)
      else pure (.error (if c.hasSendableKey then .timeout 0
        else .transport "http: failed to parse header value")) := by
  unfold Client.complete Client.CanSend
  by_cases hkey : c.hasSendableKey = true
  · by_cases htime : c.settings.timeoutSeconds = 0
    · simp [hkey, htime]
    · simp [hkey, htime]
  · simp [hkey]

theorem Client.calls_complete (c : Client) (system : Option String) (messages : List Message) :
    c.Calls (c.request system messages) fun _ _ connection =>
      c.complete connection system messages :=
  ⟨_, _, fun _ _ _ connection => c.complete_eq connection system messages⟩

/-- A review is a completion of the messages that ask for it, as far as calls go. -/
theorem Client.calls_review (c : Client) (language code : String) :
    c.Calls (c.request (some systemPrompt) (reviewMessages language code)) fun _ _ connection =>
      (c.reviewer connection).review language code := by
  obtain ⟨finish, failure, h⟩ :=
    c.calls_complete (some systemPrompt) (reviewMessages language code)
  refine ⟨fun answer => (finish answer).map Completion.feedback, failure,
    fun m _ _ connection => ?_⟩
  simp only [Client.reviewer, h, bind_pure_comp]
  split_ifs
  · rw [Functor.map_map]
  · rw [map_pure, Except.map]

/-! ## Keys -/

/-- Nothing that a client of a provider without keys does depends on the key. -/
theorem Client.complete_of_keyless {c : Client} (hc : c.settings.backend.needsKey = false)
    (key : String) : ({ c with key } : Client).request = c.request ∧
      ∀ (m : Type → Type) [Monad m] (connection : Connection m),
        ({ c with key } : Client).complete connection = c.complete connection := by
  have hrequest : ({ c with key } : Client).request = c.request := by
    funext system messages
    simp [Client.request, hc]
  have hsendable : ({ c with key } : Client).hasSendableKey = c.hasSendableKey := by
    simp [Client.hasSendableKey, hc]
  refine ⟨hrequest, fun m _ connection => ?_⟩
  funext system messages
  simp only [Client.complete, hrequest, hsendable]

/-! ## What is sent -/

/-- A request to a provider of the common format asks for just the messages that were given, after
the system's, and a request for a review ends with the code as it was given, without the blanks
around it. The provider on the user's own machine never gets the key. -/
theorem Client.sends_messages (c : Client) (hc : c.settings.backend.isCompatible = true) :
    (∀ (system : Option String) (messages : List Message),
      c.Asks (system.toList.map (⟨.system, ·⟩) ++ messages) (c.request system messages) ∧
      c.Calls (c.request system messages) fun _ _ connection =>
        c.complete connection system messages) ∧
    (∀ language : String, ∃ introduction : String, ∀ code : String, ∃ r : Request,
      c.Asks
        [⟨.system, "You are a senior software engineer performing a code review."⟩,
          ⟨.user, introduction ++ "\n\n" ++ Text.trim code⟩] r ∧
      c.Calls r fun _ _ connection => (c.reviewer connection).review language code) ∧
    (c.settings.backend = .ollama → ∀ key : String,
      ({ c with key } : Client).request = c.request ∧
      ∀ (m : Type → Type) [Monad m] (connection : Connection m),
        ({ c with key } : Client).complete connection = c.complete connection) := by
  refine ⟨fun system messages => ⟨asks_request hc system messages,
    c.calls_complete system messages⟩, fun language => ?_, fun hollama key => ?_⟩
  · obtain ⟨introduction, hprompt⟩ := exists_userPrompt language
    refine ⟨introduction, fun code => ⟨_, ?_, c.calls_review language code⟩⟩
    rw [← hprompt]
    exact asks_request hc (some systemPrompt) (reviewMessages language code)
  · exact complete_of_keyless (by rw [hollama]; rfl) key

/-- A client of the third provider and one on the user's own machine; the text that is asked about
has quotes, a backslash, a control character and a letter that is not of ASCII. -/
theorem Client.sends_messages_quoted :
    (⟨{ backend := .deepinfra }, "k1"⟩ : Client).settings.backend.isCompatible = true ∧
    Client.Asks ⟨{ backend := .deepinfra }, "k1"⟩ [⟨.system, "\\"⟩, ⟨.user, "\"\x01\né\""⟩]
      (Client.request ⟨{ backend := .deepinfra }, "k1"⟩ (some "\\")
        [⟨.user, "\"\x01\né\""⟩]) ∧
    Client.request ⟨{ backend := .ollama }, "k2"⟩ = Client.request ⟨{ backend := .ollama }, "k3"⟩ :=
  ⟨rfl,
    ((Client.sends_messages ⟨{ backend := .deepinfra }, "k1"⟩ rfl).1 (some "\\")
      [⟨.user, "\"\x01\né\""⟩]).1,
    ((Client.sends_messages ⟨{ backend := .ollama }, "k3"⟩ rfl).2.2 rfl "k2").1⟩

end CodeReview.Reviewer
