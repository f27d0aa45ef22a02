import CodeReview.Json.Record
import CodeReview.Review.Outcome

/-!
# Outcomes in JSON

How outcomes are written as JSON values, and how they are read back. An outcome carries no mark of
its kind: it is a result if it can be read as one, and otherwise a failure.
-/

set_option autoImplicit false

namespace CodeReview

open Reviewer

/-! ## Writing -/

namespace Json

/-- Numbers by name. -/
def ofMetric (m : Metric) : Json := object (m.map fun e => (e.1, nat e.2))

/-- The lines of a function. -/
def ofSpan (s : FunctionSpan) : Json :=
  object [("name", string s.name), ("start", nat s.first), ("end", nat s.last)]

/-- A duplicate block. -/
def ofBlock (b : DuplicateBlock) : Json :=
  object
    [("digest", string b.digest), ("text", string b.text), ("occurrences", nat b.occurrences),
      ("lines", array (b.lines.map nat))]

/-- The members for metrics. -/
def metricsMembers (r : MetricsReport) : List (String × Json) :=
  [("functions", array (r.functions.map ofSpan)), ("function_lengths", ofMetric r.lengths),
    ("complexity", ofMetric r.complexity), ("duplicates", array (r.duplicates.map ofBlock))]

/-- A finding. -/
def ofFinding (f : Finding) : Json :=
  object
    [("id", string f.id), ("rule", string f.rule), ("category", string f.category.name),
      ("message", string f.message), ("line", natOrNull f.line)]

/-- Counters of tokens. -/
def ofUsage (u : TokenUsage) : Json :=
  object
    [("input_tokens", nat u.input), ("output_tokens", nat u.output), ("total_tokens", nat u.total)]

/-- What became of an outside review. -/
def ofStatus : ExternalStatus → Json
  | .skipped => object [("status", string "skipped")]
  | .completed reviewer usage =>
    object
      [("status", string "completed"), ("reviewer", string reviewer), ("usage", ofUsage usage)]
  | .failed reason => object [("status", string "failed"), ("reason", string reason)]

/-- Messages by category. -/
def ofCategorized (r : Categorized) : Json :=
  object (r.toList.map fun e => (e.1.name, strings e.2))

/-- A review. -/
def ofReport (r : ReviewReport) : Json :=
  object
    [("source", string r.source), ("language", string r.language),
      ("metrics", object (metricsMembers r.metrics)),
      ("findings", array (r.findings.map ofFinding)), ("external", ofStatus r.external),
      ("external_feedback", stringOrNull r.feedback), ("categorized", ofCategorized r.categorized)]

/-- A measured source: the metrics stand beside its name and language. -/
def ofMeasured (s : MeasuredSource) : Json :=
  object ([("source", string s.source), ("language", string s.language)] ++
    metricsMembers s.metrics)

/-- An outcome. -/
def ofOutcome {α : Type} (ofValue : α → Json) : Outcome α → Json
  | .done value => ofValue value
  | .failed source error => object [("source", string source), ("error", string error)]

/-- The outcome of a review. -/
def ofReviewOutcome : ReviewOutcome → Json := ofOutcome ofReport

/-- The outcome of measuring. -/
def ofMetricsOutcome : MetricsOutcome → Json := ofOutcome ofMeasured

/-! ## Reading -/

/-- Numbers by name; of two for one name the later counts. -/
def metric? : Json → Option Metric
  | object members => do
    let entries ← members.mapM fun m => m.2.word?.map fun n => (m.1, n)
    return entries.foldl (fun m e => Metric.insert m e.1 e.2) []
  | _ => none

/-- The lines of a function. -/
def span? (v : Json) : Option FunctionSpan :=
  match v.fields? ["name", "start", "end"] with
  | some [some name, some first, some last] => do
    return ⟨← name.text?, ← first.word?, ← last.word?⟩
  | _ => none

/-- A duplicate block. -/
def block? (v : Json) : Option DuplicateBlock :=
  match v.fields? ["digest", "text", "occurrences", "lines"] with
  | some [some digest, some text, some occurrences, some lines] => do
    return ⟨← digest.text?, ← text.text?, ← occurrences.long?, ← list? word? lines⟩
  | _ => none

/-- Metrics. -/
def metrics? (v : Json) : Option MetricsReport :=
  match v.fields? ["functions", "function_lengths", "complexity", "duplicates"] with
  | some [some functions, some lengths, some complexity, some duplicates] => do
    return ⟨← list? span? functions, ← lengths.metric?, ← complexity.metric?,
      ← list? block? duplicates⟩
  | _ => none

/-- A category: its name, alone or as the name of a null. -/
def category? : Json → Option Category
  | string name => Category.ofName? name
  | object [(name, null)] => Category.ofName? name
  | _ => none

/-- A finding; its line may be left out. -/
def finding? (v : Json) : Option Finding :=
  match v.fields? ["id", "rule", "category", "message", "line"] with
  | some [some id, some rule, some category, some message, line] => do
    return ⟨← id.text?, ← rule.text?, ← category.category?, ← message.text?,
      ← orNull? word? (line.getD null)⟩
  | _ => none

/-- Counters of tokens. -/
def usage? (v : Json) : Option TokenUsage :=
  match v.fields? ["input_tokens", "output_tokens", "total_tokens"] with
  | some [some input, some output, some total] => do
    return ⟨← input.word?, ← output.word?, ← total.word?⟩
  | _ => none

/-- The names of what may become of an outside review. -/
def statusNames : List String := ["skipped", "completed", "failed"]

/-- The name that a status is marked with, directly or by its number. -/
def statusName? : Json → Option String
  | string name => some name
  | v => (v.natBelow? statusNames.length).bind fun n => statusNames[n]?

/-- What became of an outside review, given its name and its other fields. -/
def statusOf? (name : String) (v : Json) : Option ExternalStatus :=
  match name with
  | "skipped" =>
    match v with
    | array (_ :: _) => none
    | _ => some .skipped
  | "completed" =>
    match v.fields? ["reviewer", "usage"] with
    | some [some reviewer, some usage] => do return .completed (← reviewer.text?) (← usage.usage?)
    | _ => none
  | "failed" =>
    match v.fields? ["reason"] with
    | some [some reason] => do return .failed (← reason.text?)
    | _ => none
  | _ => none

/-- What became of an outside review. -/
def status? : Json → Option ExternalStatus
  | object members => do
    let mark ← member? members "status"
    statusOf? (← statusName? mark) (object (members.filter fun m => m.1 != "status"))
  | array (mark :: items) => do statusOf? (← statusName? mark) (array items)
  | _ => none

/-- Messages by category; of two lists for one category the later counts. -/
def categorized? : Json → Option Categorized
  | object members => do
    let entries ← members.mapM fun m => do
      return (← Category.ofName? m.1, ← list? text? m.2)
    return entries.foldl (fun r e => r.insert e.1 e.2) .empty
  | _ => none

/-- A review; the feedback may be left out. -/
def report? (v : Json) : Option ReviewReport :=
  match v.fields? ["source", "language", "metrics", "findings", "external", "external_feedback",
      "categorized"] with
  | some [some source, some language, some metrics, some findings, some external, feedback,
      some categorized] => do
    return ⟨← source.text?, ← language.text?, ← metrics.metrics?, ← list? finding? findings,
      ← external.status?, ← orNull? text? (feedback.getD null), ← categorized.categorized?⟩
  | _ => none

/-- A measured source, which is always written as an object. -/
def measured? : Json → Option MeasuredSource
  | object members =>
    match (object members).fields? ["source", "language"] with
    | some [some source, some language] => do
      return ⟨← source.text?, ← language.text?, ← (object members).metrics?⟩
    | _ => none
  | _ => none

/-- A failure. -/
def failure? {α : Type} (v : Json) : Option (Outcome α) :=
  match v.fields? ["source", "error"] with
  | some [some source, some error] => do return .failed (← source.text?) (← error.text?)
  | _ => none

/-- An outcome: a result, or else a failure. -/
def outcome? {α : Type} (value? : Json → Option α) (v : Json) : Option (Outcome α) :=
  match value? v with
  | some value => some (.done value)
  | none => failure? v

/-- Outcomes of reviews. -/
def reviewOutcomes? (v : Json) : Option (List ReviewOutcome) := list? (outcome? report?) v

/-- Outcomes of measuring. -/
def metricsOutcomes? (v : Json) : Option (List MetricsOutcome) := list? (outcome? measured?) v

end Json

end CodeReview
