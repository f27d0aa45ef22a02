import CodeReview.Json.Parser
import CodeReview.Json.Record
import CodeReview.Reviewer.Backend
import CodeReview.Reviewer.Basic

/-!
# Answers of providers

An answer is a status with a body, or there is none. A status of at least 400 is a refusal, and the
body of any other answer is read as JSON: its first text and its counters are the completion.
-/

set_option autoImplicit false

namespace CodeReview.Reviewer

/-- What becomes of a request. -/
inductive Answer
  | answered (status : Nat) (body : String)
  | failed (reason : String)
deriving DecidableEq, Repr

/-- What a provider wrote. -/
structure Completion where
  text : String
  usage : TokenUsage
deriving DecidableEq, Repr

/-! ## Responses -/

/-- Whether a response of a status has no body, whatever follows its head. -/
def isBodiless (status : Nat) : Bool := status == 204 || status == 304

/-- Whether a response of a status names another address to go on with. -/
def isRedirect (status : Nat) : Bool := 300 ≤ status && status < 400 && status != 304

/-- The answer in a response. Without an address there is no way to go on with a redirect. -/
def Answer.ofResponse (status : Nat) (body : String) : Answer :=
  if isRedirect status then failed "protocol: missing a location header"
  else answered status (if isBodiless status then "" else body)

/-! ## Completions -/

/-- A counter of tokens; one that is not given is zero. -/
def counter? : Option Json → Option Nat
  | some v => v.word?
  | none => some 0

/-- The counters of an answer. -/
def usage? (v : Json) : Option TokenUsage :=
  match v.fields? ["prompt_tokens", "completion_tokens", "total_tokens"] with
  | some [input, output, total] => do return ⟨← counter? input, ← counter? output, ← counter? total⟩
  | _ => none

/-- The text of one of the choices of an answer; one that is null or not given is empty. -/
def choice? (v : Json) : Option String :=
  match v.fields? ["message"] with
  | some [some msg] =>
    match msg.fields? ["content"] with
    | some [some content] => (Json.orNull? Json.text? content).map (·.getD "")
    | some [none] => some ""
    | _ => none
  | _ => none

/-- The choices and the counters of an answer. -/
def answer? (v : Json) : Option (List String × TokenUsage) :=
  match v.fields? ["choices", "usage"] with
  | some [some choices, usage] => do
    let texts ← Json.list? choice? choices
    let counters ← Json.orNull? usage? (usage.getD .null)
    return (texts, counters.getD {})
  | _ => none

/-- The counters of the provider with a format of its own, which leaves their sum out. -/
def apartUsage? (v : Json) : Option TokenUsage :=
  match v.fields? ["input_tokens", "output_tokens"] with
  | some [input, output] => do
    let input ← counter? input
    let output ← counter? output
    return ⟨input, output, input + output⟩
  | _ => none

/-- The kind and the text of a part of its answer. -/
def part? (v : Json) : Option (String × String) :=
  match v.fields? ["type", "text"] with
  | some [some kind, text] => do
    return (← kind.text?, ← (text.getD (.string "")).text?)
  | _ => none

/-- The texts and the counters of its answer. -/
def apartAnswer? (v : Json) : Option (List String × TokenUsage) :=
  match v.fields? ["content", "usage"] with
  | some [some content, usage] => do
    let parts ← Json.list? part? content
    let counters ← Json.orNull? apartUsage? (usage.getD .null)
    return ((parts.filter fun p => p.1 == "text").map (·.2), counters.getD {})
  | _ => none

/-- The completion in the body of an answer: the first of its texts. -/
def completion? (b : Backend) (body : String) : Except Failure Completion :=
  let found :=
    if b.isCompatible then (Json.parse body).bind answer? else (Json.parse body).bind apartAnswer?
  match found with
  | none => .error (.badAnswer "not in the expected format")
  | some ([], _) =>
    .error (.badAnswer (if b.isCompatible then "No response choices"
      else "No text content in response"))
  | some (text :: _, usage) => .ok ⟨text, usage⟩

/-- The completion that an answer gives. -/
def Answer.completion (b : Backend) : Answer → Except Failure Completion
  | answered status body =>
    if 400 ≤ status then .error (.status status body) else completion? b body
  | failed reason => .error (.transport reason)

end CodeReview.Reviewer
