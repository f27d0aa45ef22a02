import CodeReview.Proofs.ComplexitySums
import CodeReview.Report.Text
import CodeReview.Review.Pipeline

/-!
# The measures of functions agree

Spans are a list with one entry for each function, lengths keep the last one of a name and
complexities add up those of a name, each in a pass of its own. They agree all the same
(`SourceUnit.MeasuresAgree`): the names of the three are the same, and every number is at least one.
So a report that a pipeline makes has a length and a complexity for every function in it, and its
text never shows a zero for want of one (`MetricsReport.ShowsMeasures`).
-/

set_option autoImplicit false

namespace CodeReview

open Syntax

/-! ## Spans -/

namespace Syntax.Node

/-- The span of a node, if it is a function. -/
def span? (n : Node) : Option FunctionSpan :=
  if n.kind == .function then some ⟨functionName n, n.line, n.maxLine⟩ else none

/-- The span of the function at a place, if there is one. -/
def spanAt? (t : Node) (p : Place) : Option FunctionSpan := (t.at? p).bind span?

theorem line_le_maxLine (n : Node) : n.line ≤ n.maxLine := (maxLine_le_iff.1 le_rfl) [] n rfl

theorem maxLine_le_of_above {t m n : Node} {p q : Place} (hp : t.at? p = some m)
    (hq : t.at? q = some n) (h : p.Above q) : n.maxLine ≤ m.maxLine := by
  obtain ⟨r, -, rfl⟩ := Place.above_iff_exists.1 h
  rw [at?_append, hp] at hq
  rw [maxLine_le_iff]
  intro s x hx
  -- what is below the lower node is below the upper one
  have hx' : m.at? (r ++ s) = some x := by
    rw [at?_append, show m.at? r = some n from hq]
    exact hx
  exact maxLine_le_iff.1 le_rfl (r ++ s) x hx'

theorem exists_of_spanAt?_eq_some {t : Node} {p : Place} {s : FunctionSpan}
    (h : t.spanAt? p = some s) :
    ∃ n, t.at? p = some n ∧ s = ⟨functionName n, n.line, n.maxLine⟩ := by
  obtain ⟨n, hp, hn⟩ := Option.bind_eq_some_iff.1 h
  unfold span? at hn
  split at hn
  · exact ⟨n, hp, (Option.some.inj hn).symm⟩
  · cases hn

end Syntax.Node

namespace SourceUnit

variable (u : SourceUnit)

theorem functionSpans_eq : u.functionSpans = u.tree.places.filterMap u.tree.spanAt? := by
  have hwalk : u.functionSpans = u.tree.walk.filterMap Node.span? := by
    rw [functionSpans, functions, ← List.filterMap_eq_filter, List.map_filterMap]
    apply List.filterMap_congr
    intro n _
    unfold Node.span? Option.guard
    split
    · rw [Option.map_some, Node.lastLine_eq, max_eq_left n.line_le_maxLine]
    · rfl
  calc u.functionSpans = (u.tree.walk.map some).filterMap (·.bind Node.span?) := by
        rw [hwalk, List.filterMap_map]
        rfl
    _ = u.tree.places.filterMap u.tree.spanAt? := by
        rw [Node.walk_places, List.filterMap_map]
        rfl

theorem exists_place_of_mem_functionSpans {s : FunctionSpan} (h : s ∈ u.functionSpans) :
    ∃ p, u.tree.spanAt? p = some s := by
  rw [functionSpans_eq, List.mem_filterMap] at h
  obtain ⟨p, -, hp⟩ := h
  exact ⟨p, hp⟩

theorem first_le_last {s : FunctionSpan} (h : s ∈ u.functionSpans) : s.first ≤ s.last := by
  obtain ⟨p, hp⟩ := u.exists_place_of_mem_functionSpans h
  obtain ⟨n, -, rfl⟩ := Node.exists_of_spanAt?_eq_some hp
  exact n.line_le_maxLine

/-- A span is not longer than its last line says if lines are counted from one. -/
theorem lineCount_lt {bound : Nat} (hline : ∀ n ∈ u.tree.walk, 1 ≤ n.line ∧ n.line < bound)
    {s : FunctionSpan} (h : s ∈ u.functionSpans) : s.lineCount < bound := by
  obtain ⟨p, hp⟩ := u.exists_place_of_mem_functionSpans h
  obtain ⟨n, hn, rfl⟩ := Node.exists_of_spanAt?_eq_some hp
  have hfirst := hline n (Node.mem_walk.2 ⟨p, hn⟩)
  have hlast : n.maxLine ≤ bound - 1 := by
    rw [Node.maxLine_le_iff]
    intro q m hm
    have hm' : u.tree.at? (p ++ q) = some m := by
      rw [Node.at?_append, hn]
      exact hm
    have := hline m (Node.mem_walk.2 ⟨p ++ q, hm'⟩)
    omega
  simp only [FunctionSpan.lineCount]
  omega

/-! ## Numbers by name -/

theorem foldl_some_eq_getLast? {α : Type} (f : α → Nat) (xs : List α) :
    xs.foldl (fun _ x => some (f x)) none = xs.getLast?.map f := by
  induction xs using List.reverseRecOn with
  | nil => rfl
  | append_singleton xs x _ => rw [List.foldl_append, List.getLast?_concat]; rfl

/-- The length under a name is that of the last function of the name. -/
theorem get?_functionLengths (name : String) : u.functionLengths.get? name =
    (u.functionSpans.filter fun s => s.name == name).getLast?.map FunctionSpan.lineCount := by
  have h := Metric.get?_foldl_alter FunctionSpan.name (fun s _ => s.lineCount) u.functionSpans
    Metric.ascending_nil name
  exact h.trans (foldl_some_eq_getLast? _ _)

theorem mem_names_functionLengths (name : String) :
    name ∈ u.functionLengths.map (·.1) ↔ name ∈ u.functionSpans.map (·.name) :=
  (Metric.mem_names_foldl_alter FunctionSpan.name (fun s _ => s.lineCount) u.functionSpans
    Metric.ascending_nil name).trans (or_iff_right List.not_mem_nil)

theorem mem_names_cyclomaticComplexity (name : String) :
    name ∈ u.cyclomaticComplexity.map (·.1) ↔ name ∈ u.functionSpans.map (·.name) := by
  rw [functionSpans, List.map_map]
  exact (Metric.mem_names_foldl_alter functionName (fun n v => v.getD 0 + complexityOf n)
    u.functions Metric.ascending_nil name).trans (or_iff_right List.not_mem_nil)

theorem one_le_of_mem_functionLengths {e : String × Nat} (h : e ∈ u.functionLengths) :
    1 ≤ e.2 := by
  have hlast := u.functionLengths_ascending.get?_eq_some h
  rw [get?_functionLengths] at hlast
  obtain ⟨s, -, hs⟩ := Option.map_eq_some_iff.1 hlast
  rw [← hs, FunctionSpan.lineCount]
  exact Nat.le_add_left 1 _

theorem one_le_of_mem_cyclomaticComplexity {e : String × Nat} (h : e ∈ u.cyclomaticComplexity) :
    1 ≤ e.2 := by
  have hsum := u.cyclomaticComplexity_ascending.get?_eq_some h
  rw [get?_cyclomaticComplexity] at hsum
  split at hsum
  · rename_i hne
    obtain ⟨p, hp⟩ := hne
    have hle := Finset.single_le_sum (fun q _ => Nat.zero_le (1 + (u.tree.branchesBelow q).card)) hp
    have heq := Option.some.inj hsum
    omega
  · cases hsum

/-- Spans, lengths and complexities tell the same of the functions of a unit. -/
structure MeasuresAgree : Prop where
  /-- There is one span for each function, breadth first. -/
  spans : u.functionSpans = u.tree.places.filterMap u.tree.spanAt?
  first_le_last : ∀ s ∈ u.functionSpans, s.first ≤ s.last
  /-- A function ends no earlier than one within it. -/
  last_le_last : ∀ p q s s', u.tree.spanAt? p = some s → u.tree.spanAt? q = some s' →
    p.Above q → s'.last ≤ s.last
  names_lengths : ∀ name,
    name ∈ u.functionLengths.map (·.1) ↔ name ∈ u.functionSpans.map (·.name)
  names_complexity : ∀ name,
    name ∈ u.cyclomaticComplexity.map (·.1) ↔ name ∈ u.functionSpans.map (·.name)
  one_le_length : ∀ e ∈ u.functionLengths, 1 ≤ e.2
  one_le_complexity : ∀ e ∈ u.cyclomaticComplexity, 1 ≤ e.2
  /-- Of several functions of a name the last one counts. -/
  length : ∀ name, u.functionLengths.get? name =
    (u.functionSpans.filter fun s => s.name == name).getLast?.map FunctionSpan.lineCount

theorem measuresAgree : u.MeasuresAgree where
  spans := u.functionSpans_eq
  first_le_last _ := u.first_le_last
  last_le_last := by
    intro p q s s' hp hq h
    obtain ⟨m, hm, rfl⟩ := Node.exists_of_spanAt?_eq_some hp
    obtain ⟨n, hn, rfl⟩ := Node.exists_of_spanAt?_eq_some hq
    exact Node.maxLine_le_of_above hm hn h
  names_lengths := u.mem_names_functionLengths
  names_complexity := u.mem_names_cyclomaticComplexity
  one_le_length _ := u.one_le_of_mem_functionLengths
  one_le_complexity _ := u.one_le_of_mem_cyclomaticComplexity
  length := u.get?_functionLengths

end SourceUnit

/-! ## Rows of a report -/

namespace Report

/-- The row of a function with a length and a complexity. -/
def functionRowOf (s : FunctionSpan) (length complexity : Nat) : Styled :=
  Styled.join
    [plainText ("  " ++ padRight 28 s.name ++ " "), styledText [.dim] s!"L{s.first}-{s.last}",
      plainText ("  length " ++ padRight 4 (toString length) ++ " "),
      styledText (if complexityLimit < complexity then [.red] else []) s!"complexity {complexity}",
      plainText "\n"]

end Report

/-- Every function of a report has a length and a complexity in it, neither of them zero, and these
are in the row of the function. -/
def MetricsReport.ShowsMeasures (r : MetricsReport) : Prop :=
  ∀ s ∈ r.functions, ∃ length complexity,
    r.lengths.get? s.name = some length ∧ r.complexity.get? s.name = some complexity ∧
    1 ≤ length ∧ 1 ≤ complexity ∧
    Report.functionRow r s = Report.functionRowOf s length complexity

theorem SourceUnit.showsMeasures {u : SourceUnit} {window : Nat} {r : MetricsReport}
    (h : u.measure window = .ok r) : r.ShowsMeasures := by
  unfold measure at h
  cases hd : u.duplicates window with
  | error e =>
    rw [hd] at h
    cases h
  | ok blocks =>
    rw [hd] at h
    cases h
    intro s hs
    have hname : s.name ∈ u.functionSpans.map (·.name) := List.mem_map_of_mem hs
    obtain ⟨length, hlength⟩ := Option.isSome_iff_exists.1 <|
      Metric.mem_names_iff.1 ((u.mem_names_functionLengths s.name).2 hname)
    obtain ⟨complexity, hcomplexity⟩ := Option.isSome_iff_exists.1 <|
      Metric.mem_names_iff.1 ((u.mem_names_cyclomaticComplexity s.name).2 hname)
    refine ⟨length, complexity, hlength, hcomplexity,
      u.one_le_of_mem_functionLengths (Metric.mem_of_get?_eq_some hlength),
      u.one_le_of_mem_cyclomaticComplexity (Metric.mem_of_get?_eq_some hcomplexity), ?_⟩
    unfold Report.functionRow Report.functionRowOf
    simp only [hlength, hcomplexity, Option.getD_some]

namespace Pipeline

variable {m : Type → Type} (p : Pipeline m) (source text : String)

theorem showsMeasures_of_measure {s : MeasuredSource} (h : p.measure source text = .ok s) :
    s.metrics.ShowsMeasures := by
  unfold measure at h
  cases hu : readSource text with
  | error e =>
    rw [hu] at h
    cases h
  | ok u =>
    rw [hu] at h
    simp only [bind, Except.bind] at h
    cases hm : u.measure p.window with
    | error e =>
      rw [hm] at h
      cases h
    | ok metrics =>
      rw [hm] at h
      cases h
      exact SourceUnit.showsMeasures hm

/-- What a review gives is a fault, or a report that shows the measures of every function. -/
theorem showsMeasures_of_review [Monad m] :
    (∃ e, p.review source text = pure (.error e)) ∨
    ∃ (language : String) (report : ExternalStatus × Option String → ReviewReport),
      p.review source text =
        (fun external => .ok (report external)) <$> p.askExternal language text ∧
      ∀ external, (report external).metrics.ShowsMeasures := by
  unfold review
  cases hu : readSource text with
  | error e => exact .inl ⟨e, rfl⟩
  | ok u =>
    cases hm : u.measure p.window with
    | error e => exact .inl ⟨e, by simp only [bind, Except.bind, hm]⟩
    | ok metrics =>
      refine .inr ⟨u.language, p.report source u metrics, ?_, fun _ =>
        SourceUnit.showsMeasures hm⟩
      simp only [bind, Except.bind, hm, pure, Except.pure]

end Pipeline

/-- **The measures of functions agree.** There is one span for each function, breadth first, which
does not end before it begins, and a function ends no earlier than one within it. Lengths and
complexities have the names of the spans and no others, and none is less than one; the length under
a name is that of the last span of the name. If lines are counted from one and fit in a word, so
does the number of lines of a span, and if the total complexity does, so does every complexity.
Every report that a pipeline makes shows a length and a complexity of at least one for each of its
functions. -/
theorem measures_of_functions (u : SourceUnit) :
    u.MeasuresAgree ∧
    ((∀ n ∈ u.tree.walk, 1 ≤ n.line ∧ n.line < UInt32.size) →
      ∀ s ∈ u.functionSpans, s.lineCount < UInt32.size) ∧
    (u.totalComplexity < UInt32.size → ∀ k, ∀ e ∈ u.complexityAfter k, e.2 < UInt32.size) ∧
    ∀ (m : Type → Type) [Monad m] (p : Pipeline m) (source text : String),
      (∀ s, p.measure source text = .ok s → s.metrics.ShowsMeasures) ∧
      ((∃ e, p.review source text = pure (.error e)) ∨
        ∃ (language : String) (report : ExternalStatus × Option String → ReviewReport),
          p.review source text =
            (fun external => .ok (report external)) <$> p.askExternal language text ∧
          ∀ external, (report external).metrics.ShowsMeasures) :=
  ⟨u.measuresAgree, fun hline _ => u.lineCount_lt hline,
    fun htotal _ _ he => (u.le_totalComplexity_of_mem he).trans_lt htotal,
    fun _ _ p source text =>
      ⟨fun _ => p.showsMeasures_of_measure source text, p.showsMeasures_of_review source text⟩⟩

end CodeReview
