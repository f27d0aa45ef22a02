import CodeReview.Proofs.Review.CategorizedReport

/-!
# The static part of a review

What comes from outside changes nothing in the rest of a review (`review_static_part`). Two reviews
of a text with different outside sources both fail, with the same fault of the text, or both give a
report, with the same metrics and findings (`SameStatics`). A reviewer is asked only about a text
that could be read, and then once, with the text as it is: this is seen by a reviewer that writes
down its calls (`Reviewer.recorded`, `Pipeline.run_review_recorded`).
-/

set_option autoImplicit false

namespace CodeReview

open Reviewer

/-! ## Calls of a reviewer -/

/-- A call of a reviewer. -/
structure Reviewer.Call where
  language : String
  code : String
deriving DecidableEq, Repr

section
variable {m n : Type → Type}

/-- The reviewer that gives the same answers and writes down its calls. -/
def Reviewer.recorded [Monad m] (r : Reviewer m) : Reviewer (StateT (List Call) m) where
  name := r.name
  review language code := do
    modify (· ++ [⟨language, code⟩])
    StateT.lift (r.review language code)

namespace ExternalSource

/-- The source whose reviewer, if it has one, writes down its calls. -/
def recorded [Monad m] : ExternalSource m → ExternalSource (StateT (List Call) m)
  | disabled => .disabled
  | reviewer r => .reviewer r.recorded
  | unavailable reason => .unavailable reason

/-- The calls that a question about code makes: one if there is a reviewer. -/
def callsOn (language code : String) : ExternalSource m → List Call
  | reviewer _ => [⟨language, code⟩]
  | _ => []

end ExternalSource

namespace Pipeline

/-- The pipeline with another source of feedback. -/
def withExternal (p : Pipeline m) (external : ExternalSource n) : Pipeline n :=
  ⟨p.window, p.rules, external⟩

/-- The pipeline whose reviewer writes down its calls. -/
def recorded [Monad m] (p : Pipeline m) : Pipeline (StateT (List Call) m) :=
  p.withExternal p.external.recorded

/-- The calls that a review makes; there are none if the text cannot be read. -/
def callsFor (p : Pipeline m) (text : String) : List Call :=
  match readSource text with
  | .ok u => p.external.callsOn u.language text
  | .error _ => []

variable (p : Pipeline m)

theorem measure_of_error (source : String) {text : String} {e : ReviewError}
    (h : readSource text = .error e) : p.measure source text = .error e := by
  rw [measure, h]
  rfl

theorem measure_of_ok (source : String) {text : String} {u : SourceUnit} {metrics : MetricsReport}
    (h : readSource text = .ok u) (hm : u.measure p.window = .ok metrics) :
    p.measure source text = .ok ⟨source, u.language, metrics⟩ := by
  rw [measure, h]
  simp only [bind, Except.bind, hm, pure, Except.pure]

variable [Monad m]

/-- A text that cannot be read has no report, whatever comes from outside. -/
theorem review_of_error (source : String) {text : String} {e : ReviewError}
    (h : readSource text = .error e) : p.review source text = pure (.error e) := by
  rw [review, h]
  rfl

theorem run_askExternal_recorded [LawfulMonad m] (language code : String) (calls : List Call) :
    (p.recorded.askExternal language code).run calls =
      (fun external => (external, calls ++ p.external.callsOn language code)) <$>
        p.askExternal language code := by
  cases h : p.external with
  | disabled =>
    simp [recorded, withExternal, askExternal, ExternalSource.recorded, ExternalSource.callsOn, h]
  | unavailable reason =>
    simp [recorded, withExternal, askExternal, ExternalSource.recorded, ExternalSource.callsOn, h]
  | reviewer r =>
    simp [recorded, withExternal, askExternal, ExternalSource.recorded, ExternalSource.callsOn, h,
      Reviewer.recorded]

/-- Writing down the calls changes nothing in a review, and these are the calls. -/
theorem run_review_recorded [LawfulMonad m] (hw : 1 ≤ p.window) (source text : String)
    (calls : List Call) :
    (p.recorded.review source text).run calls =
      (fun result => (result, calls ++ p.callsFor text)) <$> p.review source text := by
  cases hu : readSource text with
  | error e =>
    have hcalls : p.callsFor text = [] := by rw [callsFor, hu]
    rw [p.review_of_error source hu, p.recorded.review_of_error source hu, hcalls]
    simp
  | ok u =>
    have hcalls : p.callsFor text = p.external.callsOn u.language text := by rw [callsFor, hu]
    obtain ⟨metrics, hm, hreview⟩ := p.review_eq source hw hu
    obtain ⟨metrics', hm', hrecorded⟩ := p.recorded.review_eq source hw hu
    -- both pipelines have the same window, so they measure the same
    have hmetrics : metrics' = metrics := by
      have hok : (Except.ok metrics' : Except ReviewError MetricsReport) = .ok metrics :=
        hm'.symm.trans hm
      exact Except.ok.inj hok
    subst hmetrics
    rw [hreview, hrecorded, StateT.run_map, run_askExternal_recorded, hcalls, Functor.map_map,
      Functor.map_map]
    rfl

end Pipeline

end

/-! ## Reviews with different outside sources -/

/-- Two results of reviews differ in nothing but in what comes from outside: both tell of the same
fault of the text, or both are reports with the same static part. -/
inductive SameStatics : Except ReviewError ReviewReport → Except ReviewError ReviewReport → Prop
  | refused (fault : Syntax.Fault) :
    SameStatics (.error (.syntaxFault fault)) (.error (.syntaxFault fault))
  | done {r s : ReviewReport} (source : r.source = s.source) (language : r.language = s.language)
    (metrics : r.metrics = s.metrics) (findings : r.findings = s.findings) :
    SameStatics (.ok r) (.ok s)

theorem readSource_eq_error {text : String} {e : ReviewError} (h : readSource text = .error e) :
    ∃ fault, e = .syntaxFault fault := by
  rw [readSource] at h
  cases hu : SourceUnit.ofText .python text with
  | error fault =>
    rw [hu] at h
    exact ⟨fault, (Except.error.inj h).symm⟩
  | ok u =>
    rw [hu] at h
    cases h

namespace Pipeline

variable (p : Pipeline Id)

/-- With every outside source a review fails with the fault of the text, or it gives the report on
what was read. Measuring goes the same way. -/
theorem review_cases (hw : 1 ≤ p.window) (source text : String) :
    (∃ fault, readSource text = .error (.syntaxFault fault) ∧
      p.measure source text = .error (.syntaxFault fault) ∧
      ∀ external : ExternalSource Id,
        (p.withExternal external).review source text = .error (.syntaxFault fault)) ∨
    ∃ u metrics, readSource text = .ok u ∧
      p.measure source text = .ok ⟨source, u.language, metrics⟩ ∧
      ∀ external : ExternalSource Id,
        (p.withExternal external).review source text =
          .ok (p.report source u metrics ((p.withExternal external).askExternal u.language text)) := by
  cases hu : readSource text with
  | error e =>
    obtain ⟨fault, rfl⟩ := readSource_eq_error hu
    exact .inl ⟨fault, rfl, p.measure_of_error source hu,
      fun external => (p.withExternal external).review_of_error source hu⟩
  | ok u =>
    obtain ⟨metrics, hm⟩ := measure_ok u hw
    refine .inr ⟨u, metrics, rfl, p.measure_of_ok source hu hm, fun external => ?_⟩
    obtain ⟨metrics', hm', hreview⟩ := (p.withExternal external).review_eq source hw hu
    obtain rfl : metrics' = metrics := Except.ok.inj (hm'.symm.trans hm)
    exact hreview

/-- There is no feedback unless the outside review was completed. -/
theorem askExternal_cases (language code : String) :
    (p.askExternal language code).2 = none ∨
      ∃ name usage, (p.askExternal language code).1 = .completed name usage := by
  rw [askExternal]
  cases p.external with
  | disabled => exact .inl rfl
  | unavailable reason => exact .inl rfl
  | reviewer r =>
    show (statusOfFeedback r.name (r.review language code)).2 = none ∨
      ∃ name usage, (statusOfFeedback r.name (r.review language code)).1 = .completed name usage
    cases h : r.review language code with
    | error failure => exact .inl rfl
    | ok feedback => exact .inr ⟨r.name, feedback.usage, rfl⟩

theorem sameStatics_withExternal (hw : 1 ≤ p.window) (other : ExternalSource Id)
    (source text : String) :
    SameStatics (p.review source text) ((p.withExternal other).review source text) := by
  rcases p.review_cases hw source text with
    ⟨fault, -, -, hreview⟩ | ⟨u, metrics, -, -, hreview⟩
  · rw [show p.review source text = _ from hreview p.external, hreview other]
    exact .refused fault
  · rw [show p.review source text = _ from hreview p.external, hreview other]
    exact .done rfl rfl rfl rfl

/-- Without an outside source only findings are listed, and they are listed with every other. -/
theorem messages_subset_of_disabled (hw : 1 ≤ p.window) {source text : String} {r s : ReviewReport}
    (hr : (p.withExternal (.disabled : ExternalSource Id)).review source text = .ok r)
    (hs : p.review source text = .ok s) {c : Category} {m : String}
    (hm : m ∈ r.categorized.messages c) : m ∈ s.categorized.messages c := by
  rcases p.review_cases hw source text with
    ⟨fault, -, -, hreview⟩ | ⟨u, metrics, -, -, hreview⟩
  · cases hs.symm.trans (hreview p.external)
  · obtain rfl := Except.ok.inj (hr.symm.trans (hreview .disabled))
    obtain rfl := Except.ok.inj (hs.symm.trans (hreview p.external))
    rw [report, mem_categorize] at hm ⊢
    rcases hm with hfinding | ⟨feedback, -, hnone, -⟩
    · exact .inl hfinding
    · cases hnone

theorem categorized_of_no_feedback (hw : 1 ≤ p.window) {source text : String} {r : ReviewReport}
    (hr : p.review source text = .ok r)
    (hstatus : r.external = .skipped ∨ ∃ reason, r.external = .failed reason) :
    r.feedback = none ∧ r.categorized = .merge (.ofFindings r.findings) .empty := by
  rcases p.review_cases hw source text with
    ⟨fault, -, -, hreview⟩ | ⟨u, metrics, -, -, hreview⟩
  · cases hr.symm.trans (hreview p.external)
  · obtain rfl := Except.ok.inj (hr.symm.trans (hreview p.external))
    have hnone : (p.askExternal u.language text).2 = none := by
      rcases p.askExternal_cases u.language text with hnone | ⟨name, usage, hcompleted⟩
      · exact hnone
      · rcases hstatus with hskipped | ⟨reason, hfailed⟩
        · cases hcompleted.symm.trans hskipped
        · cases hcompleted.symm.trans hfailed
    refine ⟨hnone, ?_⟩
    show categorize (Rule.run p.rules u) (p.askExternal u.language text).2 = _
    rw [hnone]
    rfl

theorem measure_eq_review (hw : 1 ≤ p.window) (source text : String) :
    (p.measure source text).map (fun s => (s.language, s.metrics)) =
      Except.map (fun r => (r.language, r.metrics)) (p.review source text) := by
  rcases p.review_cases hw source text with
    ⟨fault, -, hmeasure, hreview⟩ | ⟨u, metrics, -, hmeasure, hreview⟩
  · rw [hmeasure, show p.review source text = _ from hreview p.external]
    rfl
  · rw [hmeasure, show p.review source text = _ from hreview p.external]
    rfl

end Pipeline

/-- **What comes from outside changes nothing in the rest of a review.** Let one text be reviewed
with two outside sources. Both reviews fail with the same fault of the text, or both give a report,
with the same language, metrics and findings. What is listed without an outside source is listed
with every other. If the outside review was left out or failed, there is no feedback, and the
categorized messages are the findings put in order. A reviewer is called once, with the language
and the text as it is, if the text can be read, and never if it cannot. Measuring is no action at
all: it gives the metrics of the review, or its fault, and does not depend on the outside source. -/
theorem review_static_part (p : Pipeline Id) (hw : 1 ≤ p.window) (other : ExternalSource Id)
    (source text : String) :
    SameStatics (p.review source text) ((p.withExternal other).review source text) ∧
    (∀ r s, (p.withExternal (.disabled : ExternalSource Id)).review source text = .ok r →
      p.review source text = .ok s →
      ∀ c m, m ∈ r.categorized.messages c → m ∈ s.categorized.messages c) ∧
    (∀ r, p.review source text = .ok r →
      (r.external = .skipped ∨ ∃ reason, r.external = .failed reason) →
      r.feedback = none ∧ r.categorized = .merge (.ofFindings r.findings) .empty) ∧
    (∀ calls, (p.recorded.review source text).run calls =
      (p.review source text, calls ++ p.callsFor text)) ∧
    (p.measure source text).map (fun s => (s.language, s.metrics)) =
      Except.map (fun r => (r.language, r.metrics)) (p.review source text) ∧
    p.recorded.measure source text = p.measure source text ∧
    (p.withExternal other).measure source text = p.measure source text :=
  ⟨p.sameStatics_withExternal hw other source text,
    fun _ _ hr hs _ _ => p.messages_subset_of_disabled hw hr hs,
    fun _ => p.categorized_of_no_feedback hw,
    fun calls => p.run_review_recorded hw source text calls,
    p.measure_eq_review hw source text, rfl, rfl⟩

theorem review_static_part_of_timeout :
    let p : Pipeline Id := { external := .reviewer ⟨"slow", fun _ _ => .error (.timeout 5)⟩ }
    let other : ExternalSource Id := .reviewer (Reviewer.saved "Better naming.")
    1 ≤ p.window ∧ ∃ r s : ReviewReport,
      p.review "a.py" "eval(x)\n" = .ok r ∧
      (p.withExternal other).review "a.py" "eval(x)\n" = .ok s ∧
      r.external = .failed "API request timed out after 5s" ∧ r.feedback = none ∧
      r.categorized = .merge (.ofFindings r.findings) .empty ∧
      s.feedback = some "Better naming." ∧ r.metrics = s.metrics ∧ r.findings = s.findings ∧
      ((p.recorded.review "a.py" "eval(x)\n").run []).2 = [⟨"Python", "eval(x)\n"⟩] := by
  intro p other
  have hw : 1 ≤ p.window := by decide
  obtain ⟨hsame, -, hdegraded, hcalls, -⟩ := review_static_part p hw other "a.py" "eval(x)\n"
  have hok : (readSource "eval(x)\n").toOption.map (·.language) = some "Python" := by
    decide +kernel
  rcases p.review_cases hw "a.py" "eval(x)\n" with
    ⟨fault, hu, -⟩ | ⟨u, metrics, hu, -, hreview⟩
  · rw [hu] at hok
    cases hok
  · have hr := hreview p.external
    have hs := hreview other
    have hlanguage : u.language = "Python" := by
      rw [hu] at hok
      exact Option.some.inj hok
    obtain ⟨hnone, hmerge⟩ := hdegraded _ hr (.inr ⟨_, rfl⟩)
    rw [hs, show p.review "a.py" "eval(x)\n" = _ from hr] at hsame
    cases hsame with
    | done _ _ hmetrics hfindings =>
      refine ⟨hw, _, _, hr, hs, rfl, hnone, hmerge, rfl, hmetrics, hfindings, ?_⟩
      rw [hcalls, Pipeline.callsFor, hu, ← hlanguage]
      rfl

end CodeReview
