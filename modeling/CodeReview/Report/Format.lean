import CodeReview.Json.Printer
import CodeReview.Report.Text
import CodeReview.Review.OutcomeJson
import CodeReview.Text.Case

/-!
# Formats of reports

A report is text for a terminal, with or without colors, or JSON.
-/

set_option autoImplicit false

namespace CodeReview.Report

/-- The formats. -/
inductive Format
  | text
  | json
deriving DecidableEq, Repr

namespace Format

/-- The name of a format. -/
def name : Format → String
  | text => "text"
  | json => "json"

/-- The format that a text names in any case. -/
def parse (s : String) : Except String Format :=
  let lower := Text.toLower s
  if ["text", "txt", "terminal"].contains lower then .ok text
  else if lower = "json" then .ok json
  else .error s!"Unknown format '{s}'. Valid formats: text, json"

end Format

/-- Styled text, with or without its colors. -/
def Styled.shown (colors : Bool) (s : Styled) : String := if colors then s.colored else s.plain

theorem toList_shown_append (colors : Bool) (s t : Styled) :
    (Styled.shown colors (s ++ t)).toList =
      (Styled.shown colors s).toList ++ (Styled.shown colors t).toList := by
  cases colors with
  | true => simp [Styled.shown, Styled.colored, Styled.coloredChars]
  | false => simp [Styled.shown, Styled.plain, Styled.plainChars]

theorem toList_shown_plainText (colors : Bool) (text : String) :
    (Styled.shown colors (plainText text)).toList = text.toList := by
  cases colors with
  | true =>
    simp [Styled.shown, Styled.colored, Styled.coloredChars, Styled.coloredPiece, plainText]
  | false => simp [Styled.shown, Styled.plain, Styled.plainChars, plainText]

theorem toList_shown_flatMap {α : Type} (colors : Bool) (xs : List α) (f : α → Styled) :
    (Styled.shown colors (xs.flatMap f)).toList =
      xs.flatMap fun x => (Styled.shown colors (f x)).toList := by
  induction xs with
  | nil => cases colors <;> rfl
  | cons x xs ih => rw [List.flatMap_cons, List.flatMap_cons, toList_shown_append, ih]

/-- Reviews in a format. -/
def renderReviews (format : Format) (colors : Bool) (outcomes : List ReviewOutcome) : String :=
  match format with
  | .text => Styled.shown colors (reviewsText outcomes)
  | .json => (Json.array (outcomes.map Json.ofReviewOutcome)).print

/-- Metrics in a format. -/
def renderMetrics (format : Format) (colors : Bool) (outcomes : List MetricsOutcome) : String :=
  match format with
  | .text => Styled.shown colors (metricsReportText outcomes)
  | .json => (Json.array (outcomes.map Json.ofMetricsOutcome)).print

/-- Categorized messages in a format. -/
def renderCategorized (format : Format) (colors : Bool) (r : Categorized) : String :=
  match format with
  | .text => Styled.shown colors (categorizedText r)
  | .json => (Json.ofCategorized r).print

end CodeReview.Report
