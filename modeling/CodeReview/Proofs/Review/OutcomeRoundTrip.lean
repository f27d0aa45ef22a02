import CodeReview.Proofs.Json.PrintedText
import CodeReview.Proofs.MetricOrder
import CodeReview.Report.Format
import Std.Data.String.ToNat

/-!
# Reports in JSON are read back

`read_render_json`: what the JSON reports say is read back as the outcomes, or the categorized
messages, that they were made for, so a report made again from what was read is the same text.

A record is read back from its JSON value if its counters have as many binary digits as the reader
takes (`Fits`), and this goes up from the parts of a record to the whole. An outcome carries no mark
of its kind. A failure is never taken for a result, as it has no language (`report?_failure`,
`measured?_failure`), and a result is read before a failure is tried. The values have a text
(`Printable`), and their text is read as them (`Json.parse_print`).
-/

set_option autoImplicit false

namespace CodeReview

open Reviewer

/-! ## Counters -/

/-- The lines of a function are counted with 32 binary digits. -/
def FunctionSpan.Fits (s : FunctionSpan) : Prop := s.first < UInt32.size ∧ s.last < UInt32.size

/-- The names of a metric are in order, and its numbers have 32 binary digits. -/
def Metric.Fits (m : Metric) : Prop := m.Ascending ∧ ∀ e ∈ m, e.2 < UInt32.size

/-- Lines are counted with 32 binary digits and occurrences with 64. -/
def DuplicateBlock.Fits (b : DuplicateBlock) : Prop :=
  b.occurrences < UInt64.size ∧ ∀ n ∈ b.lines, n < UInt32.size

/-- The parts of the metrics of a source fit. -/
structure MetricsReport.Fits (r : MetricsReport) : Prop where
  functions : ∀ s ∈ r.functions, s.Fits
  lengths : Metric.Fits r.lengths
  complexity : Metric.Fits r.complexity
  duplicates : ∀ b ∈ r.duplicates, b.Fits

/-- The line of a finding, if it has one, is counted with 32 binary digits. -/
def Finding.Fits (f : Finding) : Prop := ∀ n ∈ f.line, n < UInt32.size

/-- Tokens are counted with 32 binary digits. -/
structure Reviewer.TokenUsage.Fits (u : TokenUsage) : Prop where
  input : u.input < UInt32.size
  output : u.output < UInt32.size
  total : u.total < UInt32.size

/-- The parts of a review fit. -/
structure ReviewReport.Fits (r : ReviewReport) : Prop where
  metrics : r.metrics.Fits
  findings : ∀ f ∈ r.findings, f.Fits
  usage : ∀ u ∈ r.external.usage?, u.Fits

/-- A property of the result of an outcome, if it has one. -/
def Outcome.Holds {α : Type} (p : α → Prop) : Outcome α → Prop
  | done value => p value
  | failed _ _ => True

instance (s : FunctionSpan) : Decidable s.Fits := inferInstanceAs (Decidable (_ ∧ _))

instance (m : Metric) : Decidable (Metric.Fits m) := inferInstanceAs (Decidable (_ ∧ _))

instance (b : DuplicateBlock) : Decidable b.Fits := inferInstanceAs (Decidable (_ ∧ _))

instance (r : MetricsReport) : Decidable r.Fits :=
  decidable_of_iff ((∀ s ∈ r.functions, s.Fits) ∧ Metric.Fits r.lengths ∧
      Metric.Fits r.complexity ∧ ∀ b ∈ r.duplicates, b.Fits)
    ⟨fun ⟨hf, hl, hc, hd⟩ => ⟨hf, hl, hc, hd⟩, fun ⟨hf, hl, hc, hd⟩ => ⟨hf, hl, hc, hd⟩⟩

instance (f : Finding) : Decidable f.Fits := inferInstanceAs (Decidable (∀ n ∈ f.line, _))

instance (u : TokenUsage) : Decidable u.Fits :=
  decidable_of_iff (u.input < UInt32.size ∧ u.output < UInt32.size ∧ u.total < UInt32.size)
    ⟨fun ⟨hi, ho, ht⟩ => ⟨hi, ho, ht⟩, fun ⟨hi, ho, ht⟩ => ⟨hi, ho, ht⟩⟩

instance (r : ReviewReport) : Decidable r.Fits :=
  decidable_of_iff (r.metrics.Fits ∧ (∀ f ∈ r.findings, f.Fits) ∧ ∀ u ∈ r.external.usage?, u.Fits)
    ⟨fun ⟨hm, hf, hu⟩ => ⟨hm, hf, hu⟩, fun ⟨hm, hf, hu⟩ => ⟨hm, hf, hu⟩⟩

instance {α : Type} (p : α → Prop) [DecidablePred p] : (o : Outcome α) → Decidable (o.Holds p)
  | .done value => inferInstanceAs (Decidable (p value))
  | .failed _ _ => isTrue trivial

namespace Json

/-! ## Values have a text -/

attribute [simp] Printable.null Printable.string

@[simp] theorem printable_array {items : List Json} :
    Printable (array items) ↔ ∀ v ∈ items, Printable v :=
  ⟨fun | .array h => h, .array⟩

@[simp] theorem printable_object {members : List (String × Json)} :
    Printable (object members) ↔ ∀ m ∈ members, Printable m.2 :=
  ⟨fun | .object h => h, .object⟩

@[simp] theorem printable_nat (n : Nat) : Printable (nat n) := .number (isNumeral_nat n)

@[simp] theorem printable_natOrNull (n : Option Nat) : Printable (natOrNull n) := by
  cases n <;> simp [natOrNull]

@[simp] theorem printable_stringOrNull (text : Option String) : Printable (stringOrNull text) := by
  cases text <;> simp [stringOrNull]

@[simp] theorem printable_ofMetric (m : Metric) : Printable (ofMetric m) := by
  rw [ofMetric, printable_object, List.forall_mem_map]
  exact fun e _ => printable_nat e.2

@[simp] theorem printable_ofSpan (s : FunctionSpan) : Printable (ofSpan s) := by
  simp [ofSpan]

@[simp] theorem printable_ofBlock (b : DuplicateBlock) : Printable (ofBlock b) := by
  simp [ofBlock]

@[simp] theorem printable_ofFinding (f : Finding) : Printable (ofFinding f) := by
  simp [ofFinding]

@[simp] theorem printable_ofStatus (s : ExternalStatus) : Printable (ofStatus s) := by
  cases s <;> simp [ofStatus, ofUsage]

@[simp] theorem printable_ofCategorized (r : Categorized) : Printable (ofCategorized r) := by
  rw [ofCategorized, printable_object, List.forall_mem_map]
  exact fun e _ => by simp [strings]

theorem printable_ofReviewOutcome (o : ReviewOutcome) : Printable (ofReviewOutcome o) := by
  cases o <;> simp [ofReviewOutcome, ofOutcome, ofReport, metricsMembers]

theorem printable_ofMetricsOutcome (o : MetricsOutcome) : Printable (ofMetricsOutcome o) := by
  cases o <;> simp [ofMetricsOutcome, ofOutcome, ofMeasured, metricsMembers]

/-! ## Parts of records are read back -/

theorem natBelow?_nat {n bound : Nat} (h : n < bound) : natBelow? bound (nat n) = some n := by
  have hdigits : (toString n).toList.all Char.isDigit = true := by
    rw [Nat.toString_eq_ofList_toDigits, String.toList_ofList, List.all_eq_true]
    exact fun c hc => Nat.isDigit_of_mem_toDigits (by decide) (by decide) hc
  rw [nat, natBelow?, if_pos hdigits, Nat.toString_eq_repr, Nat.toNat?_repr]
  exact if_pos h

theorem word?_nat {n : Nat} (h : n < UInt32.size) : word? (nat n) = some n := natBelow?_nat h

/-- A list is read back if its items are. -/
theorem list?_map {α : Type} {write : α → Json} {read : Json → Option α} {xs : List α}
    (h : ∀ x ∈ xs, read (write x) = some x) : list? read (array (xs.map write)) = some xs :=
  mapM_map_eq_some h

theorem list?_strings (texts : List String) : list? text? (strings texts) = some texts :=
  list?_map fun _ _ => rfl

theorem orNull?_natOrNull {n : Option Nat} (h : ∀ i ∈ n, i < UInt32.size) :
    orNull? word? (natOrNull n) = some n := by
  cases n with
  | none => rfl
  | some i =>
    show (word? (nat i)).map some = some (some i)
    rw [word?_nat (h i rfl), Option.map_some]

theorem orNull?_stringOrNull (text : Option String) :
    orNull? text? (stringOrNull text) = some text := by cases text <;> rfl

/-! ## Records are read back -/

end Json

theorem Category.ofName?_name (c : Category) : Category.ofName? c.name = some c := by
  cases c <;> rfl

/-- A result is made again by inserting its entries. -/
theorem Categorized.foldl_insert_toList (r : Categorized) :
    r.toList.foldl (fun r e => r.insert e.1 e.2) .empty = r := by
  obtain ⟨security, style, bug, documentation, modularity⟩ := r
  cases security <;> cases style <;> cases bug <;> cases documentation <;> cases modularity <;> rfl

namespace Json

theorem metric?_ofMetric {m : Metric} (h : m.Fits) : metric? (ofMetric m) = some m := by
  have hread : ∀ e ∈ m, ((nat e.2).word?.map fun n => (e.1, n)) = some e := fun e he => by
    rw [word?_nat (h.2 e he), Option.map_some]
  rw [ofMetric, metric?, mapM_map_eq_some hread]
  have hfold : m.foldl (fun m e => Metric.insert m e.1 e.2) [] = m :=
    Metric.foldl_insert (show Metric.Ascending ([] ++ m) from h.1)
  exact congrArg some hfold

theorem span?_ofSpan {s : FunctionSpan} (h : s.Fits) : span? (ofSpan s) = some s := by
  have hfields : (ofSpan s).fields? ["name", "start", "end"] =
      some [some (string s.name), some (nat s.first), some (nat s.last)] := rfl
  simp only [span?, hfields, word?_nat h.1, word?_nat h.2]
  rfl

theorem block?_ofBlock {b : DuplicateBlock} (h : b.Fits) : block? (ofBlock b) = some b := by
  have hfields : (ofBlock b).fields? ["digest", "text", "occurrences", "lines"] =
      some [some (string b.digest), some (string b.text), some (nat b.occurrences),
        some (array (b.lines.map nat))] := rfl
  have hlines : list? word? (array (b.lines.map nat)) = some b.lines :=
    list?_map fun n hn => word?_nat (h.2 n hn)
  have hcount : long? (nat b.occurrences) = some b.occurrences := natBelow?_nat h.1
  simp only [block?, hfields, hlines, hcount]
  rfl

theorem finding?_ofFinding {f : Finding} (h : f.Fits) : finding? (ofFinding f) = some f := by
  have hfields : (ofFinding f).fields? ["id", "rule", "category", "message", "line"] =
      some [some (string f.id), some (string f.rule), some (string f.category.name),
        some (string f.message), some (natOrNull f.line)] := rfl
  have hcategory : category? (string f.category.name) = some f.category :=
    Category.ofName?_name f.category
  simp only [finding?, hfields, hcategory, Option.getD_some, orNull?_natOrNull h]
  rfl

theorem usage?_ofUsage {u : TokenUsage} (h : u.Fits) : usage? (ofUsage u) = some u := by
  have hfields : (ofUsage u).fields? ["input_tokens", "output_tokens", "total_tokens"] =
      some [some (nat u.input), some (nat u.output), some (nat u.total)] := rfl
  simp only [usage?, hfields, word?_nat h.input, word?_nat h.output, word?_nat h.total]
  rfl

theorem status?_ofStatus {s : ExternalStatus} (h : ∀ u ∈ s.usage?, u.Fits) :
    status? (ofStatus s) = some s := by
  cases s with
  | skipped => rfl
  | completed reviewer usage =>
    -- the mark and the other fields are found by their names, which are all fixed
    show (do return ExternalStatus.completed reviewer (← usage? (ofUsage usage))) =
      some (ExternalStatus.completed reviewer usage)
    rw [usage?_ofUsage (h usage rfl)]
    rfl
  | failed reason => rfl

theorem categorized?_ofCategorized (r : Categorized) :
    categorized? (ofCategorized r) = some r := by
  have hread : ∀ e ∈ r.toList,
      (do return (← Category.ofName? e.1.name, ← list? text? (strings e.2))) = some e :=
    fun e _ => by
      rw [Category.ofName?_name, list?_strings]
      rfl
  rw [ofCategorized, categorized?, mapM_map_eq_some hread]
  show some (r.toList.foldl (fun r e => r.insert e.1 e.2) .empty) = some r
  rw [Categorized.foldl_insert_toList]

/-- Metrics are read from an object that has their members among others, each of them once. -/
theorem metrics?_of_fields {r : MetricsReport} (h : r.Fits) {v : Json}
    (hfields : v.fields? ["functions", "function_lengths", "complexity", "duplicates"] =
      some ((metricsMembers r).map fun m => some m.2)) : metrics? v = some r := by
  have hfunctions : list? span? (array (r.functions.map ofSpan)) = some r.functions :=
    list?_map fun s hs => span?_ofSpan (h.functions s hs)
  have hblocks : list? block? (array (r.duplicates.map ofBlock)) = some r.duplicates :=
    list?_map fun b hb => block?_ofBlock (h.duplicates b hb)
  simp only [metrics?, hfields, metricsMembers, List.map_cons, List.map_nil, hfunctions, hblocks,
    metric?_ofMetric h.lengths, metric?_ofMetric h.complexity]
  rfl

theorem report?_ofReport {r : ReviewReport} (h : r.Fits) : report? (ofReport r) = some r := by
  have hfields : (ofReport r).fields? ["source", "language", "metrics", "findings", "external",
      "external_feedback", "categorized"] =
      some [some (string r.source), some (string r.language),
        some (object (metricsMembers r.metrics)), some (array (r.findings.map ofFinding)),
        some (ofStatus r.external), some (stringOrNull r.feedback),
        some (ofCategorized r.categorized)] := rfl
  have hmetrics : metrics? (object (metricsMembers r.metrics)) = some r.metrics :=
    metrics?_of_fields h.metrics rfl
  have hfindings : list? finding? (array (r.findings.map ofFinding)) = some r.findings :=
    list?_map fun f hf => finding?_ofFinding (h.findings f hf)
  simp only [report?, hfields, hmetrics, hfindings, status?_ofStatus h.usage, Option.getD_some,
    orNull?_stringOrNull, categorized?_ofCategorized]
  rfl

theorem measured?_ofMeasured {s : MeasuredSource} (h : s.metrics.Fits) :
    measured? (ofMeasured s) = some s := by
  have hmetrics : metrics? (ofMeasured s) = some s.metrics := metrics?_of_fields h rfl
  show (do return ⟨s.source, s.language, ← metrics? (ofMeasured s)⟩) = some s
  rw [hmetrics]
  rfl

/-! ## Outcomes are read back -/

/-- A failure is not taken for a review. -/
theorem report?_failure (source error : String) :
    report? (object [("source", string source), ("error", string error)]) = none := rfl

/-- A failure is not taken for a measured source. -/
theorem measured?_failure (source error : String) :
    measured? (object [("source", string source), ("error", string error)]) = none := rfl

/-- An outcome is read back if its result is, and if a failure is not taken for a result. -/
theorem outcome?_ofOutcome {α : Type} {ofValue : α → Json} {value? : Json → Option α}
    {p : α → Prop} (hvalue : ∀ x, p x → value? (ofValue x) = some x)
    (hfailure : ∀ source error,
      value? (object [("source", string source), ("error", string error)]) = none)
    {o : Outcome α} (h : o.Holds p) : outcome? value? (ofOutcome ofValue o) = some o := by
  cases o with
  | done x => rw [ofOutcome, outcome?, hvalue x h]
  | failed source error =>
    rw [ofOutcome, outcome?, hfailure]
    rfl

theorem reviewOutcomes?_map {os : List ReviewOutcome} (h : ∀ o ∈ os, o.Holds ReviewReport.Fits) :
    reviewOutcomes? (array (os.map ofReviewOutcome)) = some os :=
  list?_map fun o ho => outcome?_ofOutcome (fun _ => report?_ofReport) report?_failure (h o ho)

theorem metricsOutcomes?_map {os : List MetricsOutcome}
    (h : ∀ o ∈ os, o.Holds fun s => s.metrics.Fits) :
    metricsOutcomes? (array (os.map ofMetricsOutcome)) = some os :=
  list?_map fun o ho => outcome?_ofOutcome (fun _ => measured?_ofMeasured) measured?_failure (h o ho)

end Json

/-! ## Reports are read back -/

namespace Report

/-- The reviews that a text in JSON tells of. -/
def readReviews? (text : String) : Option (List ReviewOutcome) :=
  (Json.parse text).bind Json.reviewOutcomes?

/-- The metrics that a text in JSON tells of. -/
def readMetrics? (text : String) : Option (List MetricsOutcome) :=
  (Json.parse text).bind Json.metricsOutcomes?

/-- The categorized messages that a text in JSON tells of. -/
def readCategorized? (text : String) : Option Categorized :=
  (Json.parse text).bind Json.categorized?

theorem readReviews?_render {os : List ReviewOutcome} (h : ∀ o ∈ os, o.Holds ReviewReport.Fits)
    (colors : Bool) : readReviews? (renderReviews .json colors os) = some os := by
  have hprint : Json.Printable (.array (os.map Json.ofReviewOutcome)) := by
    rw [Json.printable_array, List.forall_mem_map]
    exact fun o _ => Json.printable_ofReviewOutcome o
  rw [readReviews?, renderReviews, Json.parse_print hprint]
  exact Json.reviewOutcomes?_map h

theorem readMetrics?_render {os : List MetricsOutcome}
    (h : ∀ o ∈ os, o.Holds fun s => s.metrics.Fits) (colors : Bool) :
    readMetrics? (renderMetrics .json colors os) = some os := by
  have hprint : Json.Printable (.array (os.map Json.ofMetricsOutcome)) := by
    rw [Json.printable_array, List.forall_mem_map]
    exact fun o _ => Json.printable_ofMetricsOutcome o
  rw [readMetrics?, renderMetrics, Json.parse_print hprint]
  exact Json.metricsOutcomes?_map h

theorem readCategorized?_render (r : Categorized) (colors : Bool) :
    readCategorized? (renderCategorized .json colors r) = some r := by
  rw [readCategorized?, renderCategorized, Json.parse_print (Json.printable_ofCategorized r)]
  exact Json.categorized?_ofCategorized r

/-- What a report in JSON says is read back, and the report made from it is the same again. -/
theorem read_render_json (colors : Bool) :
    (∀ os : List ReviewOutcome, (∀ o ∈ os, o.Holds ReviewReport.Fits) →
      readReviews? (renderReviews .json colors os) = some os ∧
      (readReviews? (renderReviews .json colors os)).map (renderReviews .json colors) =
        some (renderReviews .json colors os)) ∧
    (∀ os : List MetricsOutcome, (∀ o ∈ os, o.Holds fun s => s.metrics.Fits) →
      readMetrics? (renderMetrics .json colors os) = some os ∧
      (readMetrics? (renderMetrics .json colors os)).map (renderMetrics .json colors) =
        some (renderMetrics .json colors os)) ∧
    ∀ r : Categorized,
      readCategorized? (renderCategorized .json colors r) = some r ∧
      (readCategorized? (renderCategorized .json colors r)).map (renderCategorized .json colors) =
        some (renderCategorized .json colors r) := by
  refine ⟨fun os h => ?_, fun os h => ?_, fun r => ?_⟩
  · have hread := readReviews?_render h colors
    exact ⟨hread, by rw [hread, Option.map_some]⟩
  · have hread := readMetrics?_render h colors
    exact ⟨hread, by rw [hread, Option.map_some]⟩
  · have hread := readCategorized?_render r colors
    exact ⟨hread, by rw [hread, Option.map_some]⟩

/-- Metrics whose texts have quotes, line breaks and letters beyond ASCII. -/
def quotedMetrics : MetricsReport where
  functions := [⟨"größe", 1, 4⟩]
  lengths := [("größe", 4)]
  complexity := [("\"\n", 1), ("größe", 2)]
  duplicates := [⟨"d41d8cd9", "x = 1\n\ty = 2", 2, [1, 3]⟩]

/-- A review with quotes, backslashes and control characters in its texts, and a failure. -/
def quotedReviews : List ReviewOutcome :=
  [.done
    { source := "a \"b\"\\c.py"
      language := "Python"
      metrics := quotedMetrics
      findings := [⟨"0f", "print", .style, "\x01\x7f", some 4294967295⟩,
        ⟨"1f", "eval", .security, "", none⟩]
      external := .completed "mock" ⟨1, 2, 3⟩
      feedback := none
      categorized := { style := some ["\x01\x7f"], bug := some [] } },
    .failed "b.py" "Syntax error: \"x\""]

theorem read_render_json_quoted :
    (∀ o ∈ quotedReviews, o.Holds ReviewReport.Fits) ∧
      quotedMetrics.Fits ∧
      readReviews? (renderReviews .json false quotedReviews) = some quotedReviews ∧
      readMetrics? (renderMetrics .json false [.done ⟨"a.py", "Python", quotedMetrics⟩]) =
        some [.done ⟨"a.py", "Python", quotedMetrics⟩] := by
  have hreviews : ∀ o ∈ quotedReviews, o.Holds ReviewReport.Fits := by decide
  have hmetrics : quotedMetrics.Fits := by decide
  obtain ⟨hreview, hmeasure, -⟩ := read_render_json false
  exact ⟨hreviews, hmetrics, (hreview quotedReviews hreviews).1,
    (hmeasure [.done ⟨"a.py", "Python", quotedMetrics⟩]
      (List.forall_mem_singleton.2 hmetrics)).1⟩

end Report

end CodeReview
