import CodeReview.Command.Run
import CodeReview.Proofs.Files.PathOrder
import CodeReview.Proofs.Files.WrittenFile
import CodeReview.Proofs.Review.OutcomeRoundTrip
import CodeReview.Proofs.Review.StaticPart
import CodeReview.Proofs.Settings.Usable

/-!
# Runs report every file

A run that reviews or measures, with a report in JSON, reports every file that it collected, in
their order, whether or not it could be analyzed (`World.run_reports_files`). A file that cannot be
analyzed has a failure for its entry and asks nobody anything (`World.Analyzes`), so it leaves the
other entries as they are. The report is emitted whole, and the status tells whether there is a
failure in it (`World.Emits`).
-/

set_option autoImplicit false

namespace CodeReview.Command

open Files Report

/-! ## Entries -/

/-- Whether a file can be read and holds a text that can be read as a source. -/
def World.canAnalyze (w : World) (path : String) : Bool :=
  match w.disk.read path with
  | .error _ => false
  | .ok bytes => (String.fromUTF8? bytes).any fun text => (readSource text).isOk

/-- The entry for a file: a failure if it cannot be read, is no text or cannot be parsed, and
otherwise a result that its text may give. -/
inductive World.EntryFor {α : Type} (w : World) (gives : String → α → Prop) (path : String) :
    Outcome α → Prop
  | unread {fault : OpenFault} (hread : w.disk.read path = .error fault) :
    EntryFor w gives path (.failed path ("Failed to read file: " ++ fault.message))
  | noText {bytes : ByteArray} (hread : w.disk.read path = .ok bytes)
    (hbytes : String.fromUTF8? bytes = none) :
    EntryFor w gives path
      (.failed path "Failed to read file: stream did not contain valid UTF-8")
  | noSource {bytes : ByteArray} {text : String} {fault : Syntax.Fault}
    (hread : w.disk.read path = .ok bytes) (hbytes : String.fromUTF8? bytes = some text)
    (hfault : readSource text = .error (.syntaxFault fault)) :
    EntryFor w gives path (.failed path (ReviewError.syntaxFault fault).message)
  | done {bytes : ByteArray} {text : String} {u : SourceUnit} {value : α}
    (hread : w.disk.read path = .ok bytes) (hbytes : String.fromUTF8? bytes = some text)
    (hu : readSource text = .ok u) (hgives : gives text value) :
    EntryFor w gives path (.done value)

namespace World

variable {α : Type} {w : World} {gives : String → α → Prop} {path : String}

theorem EntryFor.isFailure {o : Outcome α} (h : w.EntryFor gives path o) :
    o.isFailure = !w.canAnalyze path := by
  rw [canAnalyze]
  cases h with
  | unread hread =>
    rw [hread]
    rfl
  | noText hread hbytes =>
    simp only [hread, hbytes]
    rfl
  | noSource hread hbytes hfault =>
    simp only [hread, hbytes, Option.any_some, hfault]
    rfl
  | done hread hbytes hu _ =>
    simp only [hread, hbytes, Option.any_some, hu]
    rfl

theorem EntryFor.eq_of_unread {o : Outcome α} {fault : OpenFault} (h : w.EntryFor gives path o)
    (hread : w.disk.read path = .error fault) :
    o = .failed path ("Failed to read file: " ++ fault.message) := by
  cases h with
  | unread hread' =>
    cases hread.symm.trans hread'
    rfl
  | noText hread' _ => cases hread.symm.trans hread'
  | noSource hread' _ _ => cases hread.symm.trans hread'
  | done hread' _ _ _ => cases hread.symm.trans hread'

end World

/-! ## Analyses -/

section
variable {σ α : Type}

/-- An action analyzes files: what comes of a file is its entry, and nothing is done for a file
that cannot be analyzed. -/
structure World.Analyzes (w : World) (gives : String → String → α → Prop)
    (analyze : String → StateM σ (Outcome α × List Note)) : Prop where
  entry : ∀ path st, w.EntryFor (gives path) path ((analyze path).run st).1.1
  still : ∀ path st, w.canAnalyze path = false → ((analyze path).run st).2 = st

/-- The outcomes of an analysis of some files. -/
def outcomesOf (analyze : String → StateM σ (Outcome α × List Note)) (files : List String)
    (st : σ) : List (Outcome α) :=
  ((files.mapM analyze).run st).1.map (·.1)

theorem outcomesOf_cons (analyze : String → StateM σ (Outcome α × List Note)) (path : String)
    (files : List String) (st : σ) :
    outcomesOf analyze (path :: files) st =
      ((analyze path).run st).1.1 :: outcomesOf analyze files ((analyze path).run st).2 := by
  rw [outcomesOf, List.mapM_cons]
  rfl

namespace World.Analyzes

variable {w : World} {gives : String → String → α → Prop}
  {analyze : String → StateM σ (Outcome α × List Note)}

/-- There is one entry for each file. -/
theorem entries (h : w.Analyzes gives analyze) (files : List String) (st : σ) :
    List.Forall₂ (fun path o => w.EntryFor (gives path) path o) files
      (outcomesOf analyze files st) := by
  induction files generalizing st with
  | nil => exact .nil
  | cons path files ih =>
    rw [outcomesOf_cons]
    exact .cons (h.entry path st) (ih _)

/-- Without the files that cannot be analyzed, the other entries are the same. -/
theorem outcomesOf_filter (h : w.Analyzes gives analyze) (files : List String) (st : σ) :
    outcomesOf analyze (files.filter w.canAnalyze) st =
      (outcomesOf analyze files st).filter fun o => !o.isFailure := by
  induction files generalizing st with
  | nil => rfl
  | cons path files ih =>
    have hentry : (!((analyze path).run st).1.1.isFailure) = w.canAnalyze path := by
      rw [(h.entry path st).isFailure, Bool.not_not]
    simp only [outcomesOf_cons, List.filter_cons, hentry, ← ih]
    split
    · exact outcomesOf_cons analyze path _ st
    · rename_i hpath
      -- the rest is analyzed from the state in which the file was found
      rw [h.still path st (Bool.not_eq_true _ ▸ hpath)]

end World.Analyzes

end

/-! ## Settings -/

/-- What the arguments of a review and the environment change in the settings of a file. -/
def ReviewArguments.change (a : ReviewArguments) (env : Environment) (s : Settings) : Settings :=
  (s.withFlags a.window a.backend a.model).withEnvironment env

/-- What the arguments of measuring change in the settings of a file. -/
def MetricsArguments.change (a : MetricsArguments) (s : Settings) : Settings :=
  s.withFlags a.window none none

namespace World

variable {w : World}

theorem reviewSettings_eq_ok_iff {a : ReviewArguments} {s : Settings} :
    w.reviewSettings a = .ok s ↔
      ∃ t, Settings.Loads w.settingsFile t ∧ a.change w.environment t = s ∧ s.Usable := by
  simp only [← Settings.load_eq_ok_iff]
  exact Settings.changed_eq_ok_iff (f := a.change w.environment)

theorem metricsSettings_eq_ok_iff {a : MetricsArguments} {s : Settings} :
    w.metricsSettings a = .ok s ↔
      ∃ t, Settings.Loads w.settingsFile t ∧ a.change t = s ∧ s.Usable := by
  simp only [← Settings.load_eq_ok_iff]
  exact Settings.changed_eq_ok_iff (f := a.change)

theorem window_of_reviewSettings {a : ReviewArguments} {s : Settings}
    (h : w.reviewSettings a = .ok s) : 1 ≤ s.window := by
  obtain ⟨_, -, -, husable⟩ := reviewSettings_eq_ok_iff.1 h
  exact husable.window

theorem window_of_metricsSettings {a : MetricsArguments} {s : Settings}
    (h : w.metricsSettings a = .ok s) : 1 ≤ s.window := by
  obtain ⟨_, -, -, husable⟩ := metricsSettings_eq_ok_iff.1 h
  exact husable.window

end World

/-! ## Reviews and measures -/

section
variable {σ : Type}

/-- A review of a text gives a report in some state. -/
def MayReport (p : Pipeline (StateM σ)) (path text : String) (r : ReviewReport) : Prop :=
  ∃ st st', (p.review path text).run st = (.ok r, st')

theorem source_of_mayReport {p : Pipeline (StateM σ)} {path text : String} {r : ReviewReport}
    (h : MayReport p path text r) : r.source = path := by
  obtain ⟨st, st', hrun⟩ := h
  rw [Pipeline.review] at hrun
  split at hrun
  · cases hrun
  · cases hrun
    rfl

theorem source_of_measure {p : Pipeline Id} (hw : 1 ≤ p.window) {path text : String}
    {s : MeasuredSource} (h : p.measure path text = .ok s) : s.source = path := by
  rcases p.review_cases hw path text with ⟨fault, -, hmeasure, -⟩ | ⟨u, metrics, -, hmeasure, -⟩
  · cases h.symm.trans hmeasure
  · cases h.symm.trans hmeasure
    rfl

/-- A file that cannot be analyzed has an outcome before anybody is asked. -/
theorem World.reviewFile_eq_pure {w : World} (p : Pipeline (StateM σ)) (asking : Asking)
    {path : String} (h : w.canAnalyze path = false) :
    ∃ result, w.reviewFile p asking path = pure result := by
  rw [canAnalyze] at h
  rw [reviewFile]
  split
  · exact ⟨_, rfl⟩
  · rename_i text htext
    obtain ⟨bytes, hread, hbytes⟩ := textOf_eq_ok_iff.1 htext
    simp only [hread, hbytes, Option.any_some] at h
    cases hu : readSource text with
    | ok u =>
      rw [hu] at h
      cases h
    | error e =>
      rw [Pipeline.reviewOutcome, p.review_of_error path hu]
      exact ⟨_, rfl⟩

theorem World.analyzes_reviewFile (w : World) {p : Pipeline (StateM σ)} (asking : Asking)
    (hw : 1 ≤ p.window) : w.Analyzes (MayReport p) (w.reviewFile p asking) := by
  refine ⟨fun path st => ?_, fun path st hpath => ?_⟩
  · rcases textOf_cases (w.disk.read path) with
      ⟨bytes, text, hread, hbytes, htext⟩ | ⟨bytes, hread, hbytes, htext⟩ | ⟨fault, hread, htext⟩
    · rw [reviewFile, readText, htext]
      cases hu : readSource text with
      | error e =>
        obtain ⟨fault, rfl⟩ := readSource_eq_error hu
        simp only [Pipeline.reviewOutcome, p.review_of_error path hu]
        exact .noSource hread hbytes hu
      | ok u =>
        obtain ⟨metrics, -, hreview⟩ := p.review_eq path hw hu
        simp only [Pipeline.reviewOutcome, hreview]
        refine .done hread hbytes hu ⟨st, ((p.askExternal u.language text).run st).2, ?_⟩
        rw [hreview]
        rfl
    · rw [reviewFile, readText, htext]
      exact .noText hread hbytes
    · rw [reviewFile, readText, htext]
      exact .unread hread
  · obtain ⟨result, hresult⟩ := reviewFile_eq_pure p asking hpath
    rw [hresult]
    rfl

theorem World.analyzes_measureFile (w : World) {p : Pipeline Id} (hw : 1 ≤ p.window) :
    w.Analyzes (fun path text s => p.measure path text = .ok s)
      fun path => (pure (w.measureFile p path) : StateM σ (MetricsOutcome × List Note)) := by
  refine ⟨fun path st => ?_, fun path st _ => rfl⟩
  show w.EntryFor _ path (w.measureFile p path).1
  rcases textOf_cases (w.disk.read path) with
    ⟨bytes, text, hread, hbytes, htext⟩ | ⟨bytes, hread, hbytes, htext⟩ | ⟨fault, hread, htext⟩
  · rw [measureFile, readText, htext]
    rcases p.review_cases hw path text with
      ⟨fault, hu, hmeasure, -⟩ | ⟨u, metrics, hu, hmeasure, -⟩
    · simp only [Pipeline.measureOutcome, hmeasure]
      exact .noSource hread hbytes hu
    · simp only [Pipeline.measureOutcome, hmeasure]
      exact .done hread hbytes hu hmeasure
  · rw [measureFile, readText, htext]
    exact .noText hread hbytes
  · rw [measureFile, readText, htext]
    exact .unread hread

end

/-! ## Reports -/

/-- A run emits a text: it prints it, or it prints nothing and writes the same text to a file. -/
structure World.Emits (w : World) (text : String) (status : Nat) (output : Option String)
    (r : RunResult) : Prop where
  status : r.status = status
  printed : output = none → r.output = text ++ "\n" ∧ r.disk = w.disk
  written : ∀ path ∈ output, r.output = "" ∧
    w.disk.write path text.toUTF8 = .ok r.disk ∧ r.disk.read path = .ok text.toUTF8

/-- An outcome in a report in JSON: the value, or the path and the reason of a failure. -/
def entryJson {α : Type} (ofValue : α → Json) : Outcome α → Json
  | .done value => ofValue value
  | .failed path reason => .object [("source", .string path), ("error", .string reason)]

/-- The text of a report in JSON on some outcomes. -/
def jsonReport {α : Type} (ofValue : α → Json) (outcomes : List (Outcome α)) : String :=
  (Json.array (outcomes.map (entryJson ofValue))).print

/-- The status of a run that gives some outcomes: one if there is a failure among them. -/
def statusOf {α : Type} : List (Outcome α) → Nat
  | [] => 0
  | .failed _ _ :: _ => 1
  | .done _ :: outcomes => statusOf outcomes

section
variable {σ α : Type} (w : World) (connection : Reviewer.Connection (StateM σ)) (st : σ)
  (ofValue : α → Json)

/-- Every run of a request emits the report on some outcomes, with their status, where the output
is one that can be written. -/
def World.Reports (request : Option String → Request) (outcomes : List (Outcome α)) : Prop :=
  ∀ args level output, Invocation.parse args = .ok ⟨level, request output⟩ →
    (∀ path ∈ output, ∃ names, w.disk.target path = .ok names) →
    w.Emits (jsonReport ofValue outcomes) (statusOf outcomes) output
      ((w.run connection args).run st).1

/-- The runs of a request on some paths report the files that are collected: there is at least one,
each has one entry, and they are in order. The files that can be analyzed have the same entries in
the runs without the others. -/
structure World.ReportsFiles (gives : String → String → α → Prop)
    (request : List String → Option String → Request) (paths files : List String)
    (outcomes : List (Outcome α)) : Prop where
  nonempty : files ≠ []
  ascending : files.Pairwise PathBefore
  entries : List.Forall₂ (fun path o => w.EntryFor (gives path) path o) files outcomes
  sources : List.Forall₂
    (fun path v => v.fields? ["source"] = some [some (.string path)]) files
    (outcomes.map (entryJson ofValue))
  parsed : Json.parse (jsonReport ofValue outcomes) =
    some (.array (outcomes.map (entryJson ofValue)))
  reported : w.Reports connection st ofValue (request paths) outcomes
  others : ∀ others,
    collectSources w.disk FrontEnd.python.extensions others = .ok (files.filter w.canAnalyze) →
    w.Reports connection st ofValue (request others) (outcomes.filter fun o => !o.isFailure)

variable {w connection st ofValue}

theorem statusOf_eq_any (outcomes : List (Outcome α)) :
    statusOf outcomes = if outcomes.any Outcome.isFailure then 1 else 0 := by
  induction outcomes with
  | nil => rfl
  | cons o outcomes ih =>
    cases o with
    | failed path reason => rfl
    | done value => exact ih

theorem if_filter_eq_statusOf (outcomes : List (Outcome α)) :
    (if (outcomes.filter Outcome.isFailure).length = 0 then 0 else 1) = statusOf outcomes := by
  induction outcomes with
  | nil => rfl
  | cons o outcomes ih =>
    cases o with
    | failed path reason => rfl
    | done value => exact ih

section
variable {gives : String → String → α → Prop} {request : List String → Option String → Request}
  {paths files : List String} {outcomes : List (Outcome α)}
  (h : w.ReportsFiles connection st ofValue gives request paths files outcomes)
include h

/-- The entries for the files that cannot be analyzed are the failures. -/
theorem World.ReportsFiles.failures :
    outcomes.map Outcome.isFailure = files.map fun path => !w.canAnalyze path := by
  have hentries := h.entries.imp fun _ _ hentry => hentry.isFailure.symm
  have hequal : List.Forall₂ (· = ·) (files.map fun path => !w.canAnalyze path)
      (outcomes.map Outcome.isFailure) := by
    rwa [List.forall₂_map_left_iff, List.forall₂_map_right_iff]
  rw [List.forall₂_eq_eq_eq] at hequal
  exact hequal.symm

/-- A file that is not opened has its failure in the report. -/
theorem World.ReportsFiles.mem_of_unread {path : String} {fault : OpenFault} (hpath : path ∈ files)
    (hread : w.disk.read path = .error fault) :
    .failed path ("Failed to read file: " ++ fault.message) ∈ outcomes := by
  obtain ⟨i, hi, rfl⟩ := List.getElem_of_mem hpath
  have hi' : i < outcomes.length := h.entries.length_eq ▸ hi
  have hentry : outcomes[i] = .failed files[i] ("Failed to read file: " ++ fault.message) :=
    (h.entries.get hi hi').eq_of_unread hread
  exact hentry ▸ List.getElem_mem hi'

theorem World.ReportsFiles.statusOf_eq :
    statusOf outcomes = if files.any fun path => !w.canAnalyze path then 1 else 0 := by
  have hany : outcomes.any Outcome.isFailure = (outcomes.map Outcome.isFailure).any id := by
    rw [List.any_map, Function.id_comp]
  rw [statusOf_eq_any, hany, h.failures, List.any_map]
  rfl

end

/-- A run that ends with a report emits it. -/
theorem World.emits_finish (notes : List Note) {output : Option String}
    (houtput : ∀ path ∈ output, ∃ names, w.disk.target path = .ok names)
    (outcomes : List (Outcome α)) (text : String) :
    w.Emits text (statusOf outcomes) output (w.finish notes .json output outcomes text) := by
  cases output with
  | none => exact ⟨if_filter_eq_statusOf outcomes, fun _ => ⟨rfl, rfl⟩, fun _ h => by cases h⟩
  | some path =>
    obtain ⟨names, hnames⟩ := houtput path rfl
    obtain ⟨d', hwrite⟩ : ∃ d', w.disk.write path text.toUTF8 = .ok d' :=
      ⟨_, map_eq_ok_iff.2 ⟨names, hnames, rfl⟩⟩
    rw [finish]
    simp only [hwrite]
    refine ⟨if_filter_eq_statusOf outcomes, fun h => (by cases h), fun other hother => ?_⟩
    obtain rfl := Option.some.inj hother
    exact ⟨rfl, hwrite, Disk.read_of_write hwrite⟩

/-- A run reports the outcomes of an analysis if its request is answered with them. -/
theorem World.reports_of_finish {request : Option String → Request} {files : List String}
    {analyze : String → StateM σ (Outcome α × List Note)}
    (notes : List (Outcome α × List Note) → List Note)
    (h : ∀ output, w.runRequest connection (request output) = (do
      let results ← files.mapM analyze
      let outcomes := results.map (·.1)
      return w.finish (notes results) .json output outcomes (jsonReport ofValue outcomes))) :
    w.Reports connection st ofValue request (outcomesOf analyze files st) := by
  intro args level output hargs houtput
  obtain ⟨hstatus, hprinted, hwritten⟩ :=
    World.emits_finish (w := w) (notes ((files.mapM analyze).run st).1) houtput
      (outcomesOf analyze files st) (jsonReport ofValue (outcomesOf analyze files st))
  rw [run, hargs]
  simp only [h]
  exact ⟨hstatus, hprinted, hwritten⟩

theorem World.reportsFiles_of_analyzes {gives : String → String → α → Prop}
    {analyze : String → StateM σ (Outcome α × List Note)}
    {request : List String → Option String → Request} {paths files : List String}
    (hanalyzes : w.Analyzes gives analyze)
    (hprint : ∀ o, Json.Printable (entryJson ofValue o))
    (hsource : ∀ path text value, gives path text value →
      (ofValue value).fields? ["source"] = some [some (.string path)])
    (hreports : ∀ paths files,
      collectSources w.disk FrontEnd.python.extensions paths = .ok files →
      w.Reports connection st ofValue (request paths) (outcomesOf analyze files st))
    (hfiles : collectSources w.disk FrontEnd.python.extensions paths = .ok files) :
    w.ReportsFiles connection st ofValue gives request paths files
      (outcomesOf analyze files st) := by
  obtain ⟨hnonempty, hascending⟩ := collectSources_ascending hfiles
  have hentries := hanalyzes.entries files st
  have hprintable : Json.Printable
      (.array ((outcomesOf analyze files st).map (entryJson ofValue))) := by
    rw [Json.printable_array, List.forall_mem_map]
    exact fun o _ => hprint o
  refine ⟨hnonempty, hascending, hentries, ?_, Json.parse_print hprintable,
    hreports paths files hfiles, fun others hothers => ?_⟩
  · rw [List.forall₂_map_right_iff]
    refine hentries.imp fun path o hentry => ?_
    cases hentry with
    | done _ _ _ hgives => exact hsource path _ _ hgives
    | unread _ => rfl
    | noText _ _ => rfl
    | noSource _ _ _ => rfl
  · rw [← hanalyzes.outcomesOf_filter]
    exact hreports others _ hothers

end

/-! ## Commands -/

section
variable {σ : Type} {w : World} (connection : Reviewer.Connection (StateM σ)) (st : σ)

theorem World.sources_eq_ok {paths files : List String}
    (h : collectSources w.disk FrontEnd.python.extensions paths = .ok files) :
    w.sources paths = .ok files := by
  rw [sources, h]
  rfl

theorem World.reports_review {a : ReviewArguments} {s : Settings} {asking : Asking}
    (hformat : a.format = .json) (hs : w.reviewSettings a = .ok s)
    (hasking : w.asking a s = .ok asking) {paths files : List String}
    (hfiles : collectSources w.disk FrontEnd.python.extensions paths = .ok files) :
    w.Reports connection st Json.ofReport (fun output => .review { a with paths, output })
      (outcomesOf (w.reviewFile (pipelineOf s (asking.source connection)) asking) files st) := by
  refine reports_of_finish
    (fun results => w.settingsNote :: asking.notes ++ results.flatMap (·.2)) fun output => ?_
  have hplan : w.planReview { a with paths, output } = .ok ⟨s, asking, files⟩ := by
    have hs' : w.reviewSettings { a with paths, output } = .ok s := hs
    have hasking' : w.asking { a with paths, output } s = .ok asking := hasking
    simp only [planReview, bind_eq_ok_iff, mapError_eq_ok_iff]
    exact ⟨s, hs', asking, hasking', (), checkWindow_of_pos (window_of_reviewSettings hs), files,
      sources_eq_ok hfiles, rfl⟩
  rw [runRequest, runReview, hplan]
  simp only [hformat]
  rfl

theorem World.reports_metrics {a : MetricsArguments} {s : Settings}
    (hformat : a.format = .json) (hs : w.metricsSettings a = .ok s) {paths files : List String}
    (hfiles : collectSources w.disk FrontEnd.python.extensions paths = .ok files) :
    w.Reports connection st Json.ofMeasured (fun output => .metrics { a with paths, output })
      (outcomesOf (fun path => pure (w.measureFile (pipelineOf s .disabled) path)) files st) := by
  refine reports_of_finish (fun results => w.settingsNote :: results.flatMap (·.2))
    fun output => ?_
  have hplan : w.planMetrics { a with paths, output } = .ok (s, files) := by
    have hs' : w.metricsSettings { a with paths, output } = .ok s := hs
    simp only [planMetrics, bind_eq_ok_iff, mapError_eq_ok_iff]
    exact ⟨s, hs', (), checkWindow_of_pos (window_of_metricsSettings hs), files,
      sources_eq_ok hfiles, rfl⟩
  rw [runRequest, runMetrics, hplan, List.mapM_pure]
  simp only [hformat]
  rfl

/-- **Runs that review or measure report every file.** Let the settings be usable, the source of
feedback known, and the report be in JSON. If the paths give files at all, the report is an array
with one entry for each of them, in the order of their paths. The entry has the path of its file
for its source, and it is the failure of a file that cannot be read, is no text or cannot be parsed,
or else what the text of the file gives. The files that can be analyzed have the same entries in
runs without the others. Every run emits the whole report: it prints it or, with nothing printed,
writes the same text to the file that it is told to, if that can be written. Its status is one if
there is a failure, and zero otherwise. -/
theorem World.run_reports_files (w : World) (connection : Reviewer.Connection (StateM σ)) (st : σ) :
    (∀ (a : ReviewArguments) s asking paths files, a.format = .json →
      w.reviewSettings a = .ok s → w.asking a s = .ok asking →
      collectSources w.disk FrontEnd.python.extensions paths = .ok files →
      ∃ outcomes, w.ReportsFiles connection st Json.ofReport
        (MayReport (pipelineOf s (asking.source connection)))
        (fun paths output => .review { a with paths, output }) paths files outcomes) ∧
    ∀ (a : MetricsArguments) s paths files, a.format = .json → w.metricsSettings a = .ok s →
      collectSources w.disk FrontEnd.python.extensions paths = .ok files →
      ∃ outcomes, w.ReportsFiles connection st Json.ofMeasured
        (fun path text value => (pipelineOf (m := Id) s .disabled).measure path text = .ok value)
        (fun paths output => .metrics { a with paths, output }) paths files outcomes := by
  refine ⟨fun a s asking paths files hformat hs hasking hfiles => ?_,
    fun a s paths files hformat hs hfiles => ?_⟩
  · have hw : 1 ≤ (pipelineOf s (asking.source connection)).window := window_of_reviewSettings hs
    refine ⟨_, reportsFiles_of_analyzes (w.analyzes_reviewFile asking hw)
      Json.printable_ofReviewOutcome (fun path text r hr => ?_)
      (fun _ _ => reports_review connection st hformat hs hasking) hfiles⟩
    rw [← source_of_mayReport hr]
    rfl
  · have hw : 1 ≤ (pipelineOf (m := Id) s .disabled).window := window_of_metricsSettings hs
    refine ⟨_, reportsFiles_of_analyzes (w.analyzes_measureFile hw)
      Json.printable_ofMetricsOutcome (fun path text value hvalue => ?_)
      (fun _ _ => reports_metrics connection st hformat hs) hfiles⟩
    rw [← source_of_measure hw hvalue]
    rfl

/-- A source, a file that holds no text, a text that is no source, and a file that is not opened. -/
def mixedWorld : World where
  disk :=
    { root := .directory [("a.py", .file (.ok "x = 1\n".toUTF8)), ("b.py", .file (.ok ⟨#[0xff]⟩)),
        ("c.py", .file (.ok "def (\n".toUTF8)), ("d.py", .file (.error .denied))]
      here := [] }
  workPath := "/"

theorem World.run_reports_files_mixed :
    let connection : Reviewer.Connection (StateM Unit) := fun _ => pure (.failed "offline")
    let paths := ["a.py", "b.py", "c.py", "d.py"]
    let denied := "Failed to read file: Permission denied (os error 13)"
    let a : ReviewArguments := { paths, isAlone := true, format := .json }
    let b : MetricsArguments := { paths, format := .json }
    let review := ((mixedWorld.run connection
      (["review", "--no-ai", "-f", "json", "-o", "out.json"] ++ paths)).run ()).1
    let metrics := ((mixedWorld.run connection (["metrics", "-f", "json"] ++ paths)).run ()).1
    mixedWorld.reviewSettings a = .ok {} ∧ mixedWorld.asking a {} = .ok .disabled ∧
      mixedWorld.metricsSettings b = .ok {} ∧
      collectSources mixedWorld.disk FrontEnd.python.extensions paths = .ok paths ∧
      (∃ outcomes : List ReviewOutcome,
        outcomes.map Outcome.isFailure = [false, true, true, true] ∧
        .failed "d.py" denied ∈ outcomes ∧ review.status = 1 ∧ review.output = "" ∧
        review.disk.read "out.json" = .ok (jsonReport Json.ofReport outcomes).toUTF8) ∧
      ∃ outcomes : List MetricsOutcome,
        outcomes.map Outcome.isFailure = [false, true, true, true] ∧
        .failed "d.py" denied ∈ outcomes ∧ metrics.status = 1 ∧
        metrics.output = jsonReport Json.ofMeasured outcomes ++ "\n" := by
  intro connection paths denied a b review metrics
  have hs : mixedWorld.reviewSettings a = .ok {} := by decide +kernel
  have hasking : mixedWorld.asking a {} = .ok .disabled := rfl
  have hs' : mixedWorld.metricsSettings b = .ok {} := by decide +kernel
  have hfiles : collectSources mixedWorld.disk FrontEnd.python.extensions paths = .ok paths :=
    collectSources_of_ascending (by decide +kernel) (by decide) (by decide +kernel)
  have hfailures :
      paths.map (fun path => !mixedWorld.canAnalyze path) = [false, true, true, true] := by
    decide +kernel
  have hd : "d.py" ∈ paths := by decide
  have hread : mixedWorld.disk.read "d.py" = .error .denied := by decide +kernel
  obtain ⟨hreview, hmetrics⟩ := run_reports_files mixedWorld connection ()
  obtain ⟨reviews, hreviews⟩ := hreview a {} .disabled paths paths rfl hs hasking hfiles
  obtain ⟨measures, hmeasures⟩ := hmetrics b {} paths paths rfl hs' hfiles
  have hreviewed :
      Invocation.parse (["review", "--no-ai", "-f", "json", "-o", "out.json"] ++ paths) =
        .ok ⟨.warn, .review { a with paths, output := some "out.json" }⟩ := by decide +kernel
  have hmeasured : Invocation.parse (["metrics", "-f", "json"] ++ paths) =
      .ok ⟨.warn, .metrics { b with paths, output := none }⟩ := by decide +kernel
  have hfailed : paths.any (fun path => !mixedWorld.canAnalyze path) := by decide +kernel
  have htarget : mixedWorld.disk.target "out.json" = .ok ["out.json"] := by decide +kernel
  obtain ⟨hstatus, -, hwritten⟩ := hreviews.reported _ _ _ hreviewed fun path hpath =>
    ⟨["out.json"], Option.some.inj hpath ▸ htarget⟩
  obtain ⟨hstatus', hprinted, -⟩ := hmeasures.reported _ _ _ hmeasured nofun
  rw [hreviews.statusOf_eq, if_pos hfailed] at hstatus
  rw [hmeasures.statusOf_eq, if_pos hfailed] at hstatus'
  obtain ⟨houtput, -, hback⟩ := hwritten "out.json" rfl
  exact ⟨hs, hasking, hs', hfiles,
    ⟨reviews, hreviews.failures.trans hfailures, hreviews.mem_of_unread hd hread, hstatus, houtput,
      hback⟩,
    measures, hmeasures.failures.trans hfailures, hmeasures.mem_of_unread hd hread, hstatus',
    (hprinted rfl).1⟩

end

end CodeReview.Command
