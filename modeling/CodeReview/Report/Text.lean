import CodeReview.Report.Styled
import CodeReview.Review.Outcome
import CodeReview.Text.Line

/-!
# Reports for a terminal

Reviews, metrics and categorized messages as styled text.
-/

set_option autoImplicit false

namespace CodeReview.Report

/-- The style for the color of a category. -/
def categoryStyle (c : Category) : Style :=
  match c with
  | .security => .red
  | .style => .green
  | .bug => .shade 208
  | .documentation => .blue
  | .modularity => .shade 245

/-- A text with blanks after it up to a width. -/
def padRight (width : Nat) (text : String) : String :=
  text ++ String.ofList (List.replicate (width - text.length) ' ')

/-- The categories with their colors. -/
def legend : Styled :=
  let entries := Category.all.map fun c =>
    styledText [categoryStyle c] (c.name ++ " (" ++ c.legendColor ++ ")")
  Styled.join
    [styledText [.dim] "Legend:", plainText " ", Styled.join (entries.intersperse (plainText "  ")),
      plainText "\n\n"]

/-- Messages with numbers. -/
def numbered (messages : List String) : Styled :=
  (messages.zipIdx 1).flatMap fun (message, i) => plainText s!"  {i}. {message}\n"

/-- The messages of a category. -/
def categorySection (entry : Category × List String) : Styled :=
  Styled.join
    [styledText [categoryStyle entry.1, .bold] (entry.1.name ++ ":"), plainText "\n",
      numbered entry.2, plainText "\n"]

/-- The messages of all categories. -/
def categorizedText (r : Categorized) : Styled :=
  if r.isEmpty then plainText "No categorizable issues found.\n"
  else legend ++ r.toList.flatMap categorySection

/-- The line below a title. -/
def ruler : String := String.ofList (List.replicate 38 '─')

/-- The title of a report on a source. -/
def header (title source language : String) : Styled :=
  Styled.join
    [plainText "\n", styledText [.bold] title, plainText s!"  {source} ",
      styledText [.dim] s!"({language})", plainText "\n", styledText [.dim] ruler, plainText "\n"]

/-- The title of a section with a count. -/
def sectionTitle (title : String) (count : String) : Styled :=
  styledText [.bold] title ++ plainText s!" ({count})\n"

/-- The complexity from which on it is shown in red. -/
def complexityLimit : Nat := 10

/-- The row of a function. -/
def functionRow (r : MetricsReport) (s : FunctionSpan) : Styled :=
  let length := (r.lengths.get? s.name).getD 0
  let complexity := (r.complexity.get? s.name).getD 0
  Styled.join
    [plainText ("  " ++ padRight 28 s.name ++ " "), styledText [.dim] s!"L{s.first}-{s.last}",
      plainText ("  length " ++ padRight 4 (toString length) ++ " "),
      styledText (if complexityLimit < complexity then [.red] else []) s!"complexity {complexity}",
      plainText "\n"]

/-- The section on a duplicate block. -/
def blockSection (b : DuplicateBlock) : Styled :=
  plainText (s!"  {b.occurrences}x at lines " ++ Text.join ", " (b.lines.map toString) ++ "\n") ++
    (Text.lines b.text).flatMap fun line =>
      Styled.join [plainText "    ", styledText [.dim] ("| " ++ line), plainText "\n"]

/-- The sections on metrics. -/
def metricsText (r : MetricsReport) : Styled :=
  Styled.join
    [sectionTitle "FUNCTIONS" (toString r.functions.length),
      (if r.functions.isEmpty then
        Styled.join [plainText "  ", styledText [.dim] "none", plainText "\n"]
      else []),
      r.functions.flatMap (functionRow r), plainText "\n",
      sectionTitle "DUPLICATE BLOCKS" (toString r.duplicates.length),
      r.duplicates.flatMap blockSection, plainText "\n"]

/-- What became of the outside review. -/
def externalText : ExternalStatus → Styled
  | .skipped => styledText [.dim] "skipped" ++ plainText "\n"
  | .completed reviewer usage =>
    Styled.join
      [styledText [.green] "completed", plainText s!" by {reviewer}  ",
        styledText [.dim]
          s!"tokens: {usage.input} input, {usage.output} output, {usage.total} total",
        plainText "\n"]
  | .failed reason => styledText [.yellow] "unavailable:" ++ plainText s!" {reason}\n"

/-- The feedback as it was given. -/
def feedbackText : Option String → Styled
  | none => []
  | some feedback =>
    Styled.join [plainText "\n", styledText [.bold] "RAW FEEDBACK", plainText "\n"] ++
      (Text.lines feedback).flatMap fun line => plainText s!"  {line}\n"

/-- A review. -/
def reportText (r : ReviewReport) : Styled :=
  Styled.join
    [header "Revisor Review" r.source r.language, metricsText r.metrics,
      sectionTitle "ISSUES" s!"{r.categorized.total} total", categorizedText r.categorized,
      styledText [.bold] "EXTERNAL REVIEW", plainText "  ", externalText r.external,
      feedbackText r.feedback]

/-- A source that gave an error. -/
def failureText (source error : String) : Styled :=
  Styled.join
    [plainText "\n", styledText [.red, .bold] "✗", plainText s!" {source}\n  ",
      styledText [.red] error, plainText "\n"]

/-- An outcome. -/
def outcomeText {α : Type} (valueText : α → Styled) : Outcome α → Styled
  | .done value => valueText value
  | .failed source error => failureText source error

/-- How many sources were reviewed. -/
def summary (outcomes : List ReviewOutcome) : Styled :=
  let failed := (outcomes.filter Outcome.isFailure).length
  let reviewed := outcomes.length - failed
  plainText <|
    s!"\n{reviewed} file(s) reviewed" ++ (if 0 < failed then s!", {failed} failed" else "") ++ "\n"

/-- Reviews of some sources. -/
def reviewsText (outcomes : List ReviewOutcome) : Styled :=
  outcomes.flatMap (outcomeText reportText) ++ summary outcomes

/-- A measured source. -/
def measuredText (s : MeasuredSource) : Styled :=
  header "Revisor Metrics" s.source s.language ++ metricsText s.metrics

/-- Metrics of some sources. -/
def metricsReportText (outcomes : List MetricsOutcome) : Styled :=
  outcomes.flatMap (outcomeText measuredText)

end CodeReview.Report
