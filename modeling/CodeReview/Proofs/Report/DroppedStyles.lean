import CodeReview.Proofs.Json.Numeral
import CodeReview.Proofs.Text.TrimmedRows
import CodeReview.Report.Format

/-!
# Colors change no words

A colored report without its style sequences is the plain report (`withoutStyles_render`), if no
escape stands in the texts that it shows.

That is so for every styled text whose pieces are without escapes (`dropStyles_coloredChars`): an
escape then only starts a sequence that a style has written, and such a sequence ends with its only
`m`. It remains to see that no part of a report writes an escape of its own (`Styled.NoEscape`), one
lemma for each part.
-/

set_option autoImplicit false

namespace CodeReview

/-! ## The texts that are shown -/

/-- The texts of metrics: names of functions and duplicate lines. -/
def MetricsReport.texts (r : MetricsReport) : List String :=
  r.functions.map (·.name) ++ r.duplicates.map (·.text)

/-- The messages of all categories. -/
def Categorized.texts (r : Categorized) : List String := r.toList.flatMap (·.2)

/-- The texts of what became of an outside review. -/
def ExternalStatus.texts : ExternalStatus → List String
  | skipped => []
  | completed reviewer _ => [reviewer]
  | failed reason => [reason]

/-- The texts of a review. -/
def ReviewReport.texts (r : ReviewReport) : List String :=
  [r.source, r.language] ++ r.metrics.texts ++ r.categorized.texts ++ r.external.texts ++
    r.feedback.toList

/-- The texts of a measured source. -/
def MeasuredSource.texts (s : MeasuredSource) : List String :=
  [s.source, s.language] ++ s.metrics.texts

/-- The texts of an outcome. -/
def Outcome.texts {α : Type} (valueTexts : α → List String) : Outcome α → List String
  | done value => valueTexts value
  | failed source error => [source, error]

namespace Report

/-! ## Dropping the sequences of styles -/

theorem dropStyles_plain {cs : List Char} (h : '\x1b' ∉ cs) (rest : List Char) :
    dropStyles false (cs ++ rest) = cs ++ dropStyles false rest := by
  induction cs with
  | nil => rfl
  | cons c cs ih =>
    rw [List.mem_cons, not_or] at h
    rw [List.cons_append, List.cons_append, dropStyles.eq_4 c _ fun _ hc => absurd hc.symm h.1,
      ih h.2]

theorem dropStyles_inside {cs : List Char} (h : 'm' ∉ cs) (rest : List Char) :
    dropStyles true (cs ++ 'm' :: rest) = dropStyles false rest := by
  induction cs with
  | nil => rfl
  | cons c cs ih =>
    rw [List.mem_cons, not_or] at h
    have hc : (c != 'm') = true := bne_iff_ne.2 (Ne.symm h.1)
    rw [List.cons_append, dropStyles, hc, ih h.2]

theorem m_not_mem_code (s : Style) : 'm' ∉ s.code.toList := by
  cases s with
  | shade index =>
    rw [Style.code, String.toList_append, List.mem_append, not_or]
    exact ⟨by decide, fun h => absurd ((Json.isDigits_nat _).isDigit _ h) (by decide)⟩
  | _ => decide

theorem dropStyles_sequence {code : String} (h : 'm' ∉ code.toList) (rest : List Char) :
    dropStyles false (Styled.sequence code ++ rest) = dropStyles false rest := by
  rw [Styled.sequence, List.append_assoc]
  exact dropStyles_inside h rest

theorem dropStyles_sequences (styles : List Style) (rest : List Char) :
    dropStyles false (styles.flatMap (fun s => Styled.sequence s.code) ++ rest) =
      dropStyles false rest := by
  induction styles with
  | nil => rfl
  | cons s styles ih =>
    rw [List.flatMap_cons, List.append_assoc, dropStyles_sequence (m_not_mem_code s), ih]

theorem dropStyles_coloredPiece {p : Piece} (h : '\x1b' ∉ p.text.toList) (rest : List Char) :
    dropStyles false (Styled.coloredPiece p ++ rest) = p.text.toList ++ dropStyles false rest := by
  rw [Styled.coloredPiece, List.append_assoc, List.append_assoc, dropStyles_sequences,
    dropStyles_plain h]
  split
  · rfl
  · rw [dropStyles_sequence (by decide)]

/-- Dropping the sequences of a colored text leaves its words. -/
theorem dropStyles_coloredChars {s : Styled} (h : ∀ p ∈ s, '\x1b' ∉ p.text.toList) :
    dropStyles false s.coloredChars = s.plainChars := by
  induction s with
  | nil => rfl
  | cons p s ih =>
    rw [List.forall_mem_cons] at h
    rw [Styled.coloredChars, List.flatMap_cons, dropStyles_coloredPiece h.1, ← Styled.coloredChars,
      ih h.2, Styled.plainChars, Styled.plainChars, List.flatMap_cons]

/-! ## Texts without escapes -/

/-- No escape stands in a text. -/
def NoEscape (s : String) : Prop := '\x1b' ∉ s.toList

instance (s : String) : Decidable (NoEscape s) := inferInstanceAs (Decidable (_ ∉ _))

@[simp] theorem noEscape_append {s t : String} : NoEscape (s ++ t) ↔ NoEscape s ∧ NoEscape t := by
  rw [NoEscape, String.toList_append, List.mem_append, not_or, NoEscape, NoEscape]

@[simp] theorem noEscape_toString {s : String} : NoEscape (toString s) ↔ NoEscape s := Iff.rfl

@[simp] theorem noEscape_repr (n : Nat) : NoEscape n.repr := fun h =>
  absurd ((Json.isDigits_nat _).isDigit _ h) (by decide)

theorem noEscape_replicate (n : Nat) {c : Char} (hc : '\x1b' ≠ c) :
    NoEscape (String.ofList (List.replicate n c)) := by
  intro hm
  rw [String.toList_ofList] at hm
  exact hc (List.eq_of_mem_replicate hm)

theorem noEscape_padRight {width : Nat} {text : String} (h : NoEscape text) :
    NoEscape (padRight width text) := by
  rw [padRight, noEscape_append]
  exact ⟨h, noEscape_replicate _ (by decide)⟩

theorem noEscape_join {sep : String} {parts : List String} (hsep : NoEscape sep)
    (h : ∀ p ∈ parts, NoEscape p) : NoEscape (Text.join sep parts) := by
  induction parts with
  | nil => exact List.not_mem_nil
  | cons p parts ih =>
    rw [List.forall_mem_cons] at h
    cases parts with
    | nil => simpa [Text.join] using h.1
    | cons q parts =>
      have hrest := ih h.2
      rw [Text.join, String.intercalate_cons_cons, noEscape_append, noEscape_append]
      exact ⟨⟨h.1, hsep⟩, hrest⟩

theorem noEscape_line {text line : String} (h : NoEscape text) (hl : line ∈ Text.lines text) :
    NoEscape line := fun hm => h (Text.mem_of_mem_line hl hm)

/-- No escape stands in the pieces of a styled text. -/
def Styled.NoEscape (s : Styled) : Prop := ∀ p ∈ s, Report.NoEscape p.text

namespace Styled

@[simp] theorem noEscape_nil : NoEscape [] := List.forall_mem_nil _

@[simp] theorem noEscape_append {s t : Styled} :
    NoEscape (s ++ t) ↔ s.NoEscape ∧ t.NoEscape := List.forall_mem_append

@[simp] theorem noEscape_plainText {text : String} :
    NoEscape (plainText text) ↔ Report.NoEscape text := List.forall_mem_singleton

@[simp] theorem noEscape_styledText {styles : List Style} {text : String} :
    NoEscape (styledText styles text) ↔ Report.NoEscape text := List.forall_mem_singleton

@[simp] theorem noEscape_join_nil : NoEscape (join []) := noEscape_nil

@[simp] theorem noEscape_join_cons {s : Styled} {parts : List Styled} :
    NoEscape (join (s :: parts)) ↔ s.NoEscape ∧ (join parts).NoEscape := by
  rw [join, List.flatten_cons, noEscape_append, join]

@[simp] theorem noEscape_flatMap {α : Type} {xs : List α} {f : α → Styled} :
    NoEscape (xs.flatMap f) ↔ ∀ x ∈ xs, (f x).NoEscape := List.forall_mem_flatMap

/-- Without escapes of its own, a text is shown with the same words in colors and without. -/
theorem NoEscape.dropStyles_shown {s : Styled} (h : s.NoEscape) :
    String.ofList (dropStyles false (shown true s).toList) = shown false s := by
  rw [shown, if_pos rfl, shown, if_neg Bool.false_ne_true, colored, String.toList_ofList,
    dropStyles_coloredChars h, plain]

end Styled

/-! ## The parts of a report -/

theorem noEscape_name (c : Category) : NoEscape c.name := by cases c <;> decide

theorem noEscape_legend : Styled.NoEscape legend := by
  unfold Styled.NoEscape
  decide

theorem noEscape_numbered {messages : List String} (h : ∀ m ∈ messages, NoEscape m) :
    Styled.NoEscape (numbered messages) := by
  rw [numbered, Styled.noEscape_flatMap]
  rintro ⟨message, i⟩ hm
  have hmessage : NoEscape message := h message (List.fst_mem_of_mem_zipIdx hm)
  simp +decide [hmessage]

theorem noEscape_categorySection {entry : Category × List String}
    (h : ∀ m ∈ entry.2, NoEscape m) : Styled.NoEscape (categorySection entry) := by
  have hname := noEscape_name entry.1
  have hnumbered := noEscape_numbered h
  simp +decide [categorySection, hname, hnumbered]

theorem noEscape_categorizedText {r : Categorized} (h : ∀ t ∈ r.texts, NoEscape t) :
    Styled.NoEscape (categorizedText r) := by
  rw [categorizedText]
  split
  · rw [Styled.noEscape_plainText]
    decide
  · rw [Styled.noEscape_append, Styled.noEscape_flatMap]
    refine ⟨noEscape_legend, fun entry hentry => noEscape_categorySection fun m hm => ?_⟩
    exact h m (List.mem_flatMap.2 ⟨entry, hentry, hm⟩)

theorem noEscape_header {title source language : String} (ht : NoEscape title)
    (hs : NoEscape source) (hl : NoEscape language) :
    Styled.NoEscape (header title source language) := by
  have hruler : NoEscape ruler := noEscape_replicate 38 (by decide)
  have hsource : NoEscape s!"  {source} " := by simp +decide [hs]
  have hlanguage : NoEscape s!"({language})" := by simp +decide [hl]
  simp only [header, Styled.noEscape_join_cons, Styled.noEscape_join_nil, and_true,
    Styled.noEscape_plainText, Styled.noEscape_styledText]
  exact ⟨by decide, ht, hsource, hlanguage, by decide, hruler, by decide⟩

theorem noEscape_sectionTitle {title count : String} (ht : NoEscape title)
    (hc : NoEscape count) : Styled.NoEscape (sectionTitle title count) := by
  simp +decide [sectionTitle, ht, hc]

theorem noEscape_functionRow (r : MetricsReport) {s : FunctionSpan} (h : NoEscape s.name) :
    Styled.NoEscape (functionRow r s) := by
  have hname : NoEscape ("  " ++ padRight 28 s.name ++ " ") := by
    simp +decide [noEscape_padRight h]
  have hlength (n : Nat) : NoEscape ("  length " ++ padRight 4 (toString n) ++ " ") := by
    simp +decide [noEscape_padRight (noEscape_repr n)]
  have hlines : NoEscape s!"L{s.first}-{s.last}" := by simp +decide
  have hcomplexity (n : Nat) : NoEscape s!"complexity {n}" := by simp +decide
  simp only [functionRow, Styled.noEscape_join_cons, Styled.noEscape_join_nil, and_true,
    Styled.noEscape_plainText, Styled.noEscape_styledText]
  exact ⟨hname, hlines, hlength _, hcomplexity _, by decide⟩

theorem noEscape_blockSection {b : DuplicateBlock} (h : NoEscape b.text) :
    Styled.NoEscape (blockSection b) := by
  have hplaces : NoEscape (Text.join ", " (b.lines.map toString)) := by
    refine noEscape_join (by decide) ?_
    rw [List.forall_mem_map]
    exact fun n _ => noEscape_repr n
  have hlines : ∀ line ∈ Text.lines b.text, NoEscape line := fun _ => noEscape_line h
  simp +decide [blockSection, hplaces]
  exact hlines

theorem noEscape_metricsText {r : MetricsReport} (h : ∀ t ∈ r.texts, NoEscape t) :
    Styled.NoEscape (metricsText r) := by
  rw [MetricsReport.texts, List.forall_mem_append, List.forall_mem_map, List.forall_mem_map] at h
  have htitle (title : String) (n : Nat) (ht : NoEscape title) :
      Styled.NoEscape (sectionTitle title (toString n)) :=
    noEscape_sectionTitle ht (noEscape_repr n)
  have hnone : Styled.NoEscape (if r.functions.isEmpty then
      Styled.join [plainText "  ", styledText [.dim] "none", plainText "\n"] else []) := by
    split
    · simp +decide
    · exact Styled.noEscape_nil
  have hrows : Styled.NoEscape (r.functions.flatMap (functionRow r)) :=
    Styled.noEscape_flatMap.2 fun s hs => noEscape_functionRow r (h.1 s hs)
  have hblocks : Styled.NoEscape (r.duplicates.flatMap blockSection) :=
    Styled.noEscape_flatMap.2 fun b hb => noEscape_blockSection (h.2 b hb)
  simp only [metricsText, Styled.noEscape_join_cons, Styled.noEscape_join_nil, and_true,
    Styled.noEscape_plainText]
  exact ⟨htitle _ _ (by decide), hnone, hrows, by decide, htitle _ _ (by decide), hblocks,
    by decide⟩

theorem noEscape_externalText {status : ExternalStatus} (h : ∀ t ∈ status.texts, NoEscape t) :
    Styled.NoEscape (externalText status) := by
  cases status with
  | skipped => simp +decide [externalText]
  | completed reviewer usage =>
    have hreviewer : NoEscape reviewer := h reviewer List.mem_cons_self
    simp +decide [externalText, hreviewer]
  | failed reason =>
    have hreason : NoEscape reason := h reason List.mem_cons_self
    simp +decide [externalText, hreason]

theorem noEscape_feedbackText {feedback : Option String} (h : ∀ t ∈ feedback.toList, NoEscape t) :
    Styled.NoEscape (feedbackText feedback) := by
  cases feedback with
  | none => exact Styled.noEscape_nil
  | some text =>
    have htext : NoEscape text := h text List.mem_cons_self
    have hlines : ∀ line ∈ Text.lines text, NoEscape line := fun _ => noEscape_line htext
    simp +decide [feedbackText]
    exact hlines

theorem noEscape_reportText {r : ReviewReport} (h : ∀ t ∈ r.texts, NoEscape t) :
    Styled.NoEscape (reportText r) := by
  simp only [ReviewReport.texts, List.forall_mem_append] at h
  obtain ⟨⟨⟨⟨hnames, hmetrics⟩, hcategorized⟩, hexternal⟩, hfeedback⟩ := h
  rw [List.forall_mem_cons, List.forall_mem_singleton] at hnames
  have htitle : NoEscape "Revisor Review" := by decide
  have hheader := noEscape_header htitle hnames.1 hnames.2
  have hissues : Styled.NoEscape (sectionTitle "ISSUES" s!"{r.categorized.total} total") :=
    noEscape_sectionTitle (by decide) (by simp +decide)
  simp only [reportText, Styled.noEscape_join_cons, Styled.noEscape_join_nil, and_true,
    Styled.noEscape_plainText, Styled.noEscape_styledText]
  exact ⟨hheader, noEscape_metricsText hmetrics, hissues, noEscape_categorizedText hcategorized,
    by decide, by decide, noEscape_externalText hexternal, noEscape_feedbackText hfeedback⟩

theorem noEscape_measuredText {s : MeasuredSource} (h : ∀ t ∈ s.texts, NoEscape t) :
    Styled.NoEscape (measuredText s) := by
  rw [MeasuredSource.texts, List.forall_mem_append, List.forall_mem_cons,
    List.forall_mem_singleton] at h
  rw [measuredText, Styled.noEscape_append]
  exact ⟨noEscape_header (by decide) h.1.1 h.1.2, noEscape_metricsText h.2⟩

theorem noEscape_failureText {source error : String} (hs : NoEscape source) (he : NoEscape error) :
    Styled.NoEscape (failureText source error) := by
  simp +decide [failureText, hs, he]

theorem noEscape_outcomeText {α : Type} {valueText : α → Styled} {valueTexts : α → List String}
    (hvalue : ∀ x, (∀ t ∈ valueTexts x, NoEscape t) → Styled.NoEscape (valueText x))
    {o : Outcome α} (h : ∀ t ∈ o.texts valueTexts, NoEscape t) :
    Styled.NoEscape (outcomeText valueText o) := by
  cases o with
  | done x => exact hvalue x h
  | failed source error =>
    rw [Outcome.texts, List.forall_mem_cons, List.forall_mem_singleton] at h
    exact noEscape_failureText h.1 h.2

theorem noEscape_summary (os : List ReviewOutcome) : Styled.NoEscape (summary os) := by
  rw [summary, Styled.noEscape_plainText]
  split <;> simp +decide

/-! ## Reports with and without colors -/

/-- A text without the sequences of styles: each begins with an escape and a bracket and ends with
the next `m`. -/
def withoutStyles (text : String) : String := String.ofList (dropStyles false text.toList)

/-- **Colors change no words.** If no escape stands in the texts that a report shows, the report in
colors is the plain one but for the sequences of styles. That holds for reviews, for metrics and
for categorized messages. -/
theorem withoutStyles_render :
    (∀ os : List ReviewOutcome, (∀ o ∈ os, ∀ t ∈ o.texts ReviewReport.texts, NoEscape t) →
      withoutStyles (renderReviews .text true os) = renderReviews .text false os) ∧
    (∀ os : List MetricsOutcome, (∀ o ∈ os, ∀ t ∈ o.texts MeasuredSource.texts, NoEscape t) →
      withoutStyles (renderMetrics .text true os) = renderMetrics .text false os) ∧
    ∀ r : Categorized, (∀ t ∈ r.texts, NoEscape t) →
      withoutStyles (renderCategorized .text true r) = renderCategorized .text false r := by
  refine ⟨fun os h => ?_, fun os h => ?_, fun r h => ?_⟩
  · have hreviews : Styled.NoEscape (reviewsText os) := by
      rw [reviewsText, Styled.noEscape_append, Styled.noEscape_flatMap]
      exact ⟨fun o ho => noEscape_outcomeText (fun _ => noEscape_reportText) (h o ho),
        noEscape_summary os⟩
    exact hreviews.dropStyles_shown
  · have hmetrics : Styled.NoEscape (metricsReportText os) := by
      rw [metricsReportText, Styled.noEscape_flatMap]
      exact fun o ho => noEscape_outcomeText (fun _ => noEscape_measuredText) (h o ho)
    exact hmetrics.dropStyles_shown
  · exact (noEscape_categorizedText h).dropStyles_shown

/-- Metrics with a function that is shown in red, and with lines that look like a sequence without
its escape. -/
def redMetrics : MetricsReport where
  functions := [⟨"größe", 1, 40⟩]
  lengths := [("größe", 40)]
  complexity := [("größe", 11)]
  duplicates := [⟨"d41d8cd9", "x = '[31m'\r\ny = 2", 2, [1, 3]⟩]

/-- Messages that look like sequences without an escape. -/
def bracketMessages : Categorized := { style := some ["[1m bold", "mm"], bug := some [] }

/-- A review with all its sections, and a failure. -/
def coloredReviews : List ReviewOutcome :=
  [.done
    { source := "a.py"
      language := "Python"
      metrics := redMetrics
      findings := []
      external := .completed "mock" ⟨1, 2, 3⟩
      feedback := some "[1m bold\nmm"
      categorized := bracketMessages },
    .failed "m[0m.py" "Syntax error"]

theorem withoutStyles_render_red :
    (∀ o ∈ coloredReviews, ∀ t ∈ o.texts ReviewReport.texts, NoEscape t) ∧
    (∀ t ∈ bracketMessages.texts, NoEscape t) ∧
    renderCategorized .text true bracketMessages ≠ renderCategorized .text false bracketMessages ∧
    withoutStyles (renderReviews .text true coloredReviews) =
      renderReviews .text false coloredReviews ∧
    withoutStyles (renderMetrics .text true [.done ⟨"a.py", "Python", redMetrics⟩]) =
      renderMetrics .text false [.done ⟨"a.py", "Python", redMetrics⟩] ∧
    withoutStyles (renderCategorized .text true bracketMessages) =
      renderCategorized .text false bracketMessages := by
  have hreviews : ∀ o ∈ coloredReviews, ∀ t ∈ o.texts ReviewReport.texts, NoEscape t := by decide
  have hmessages : ∀ t ∈ bracketMessages.texts, NoEscape t := by decide
  obtain ⟨hreview, hmeasure, hcategorize⟩ := withoutStyles_render
  refine ⟨hreviews, hmessages, by decide +kernel, hreview _ hreviews, hmeasure _ ?_,
    hcategorize _ hmessages⟩
  decide

end Report

end CodeReview
