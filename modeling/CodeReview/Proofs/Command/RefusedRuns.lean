import CodeReview.Proofs.Command.ReportedFiles

/-!
# Refused runs have no effect

A run that reviews or measures is hindered by its settings, by a file of feedback that cannot be
read, by a path that leads nowhere or by the lack of sources (`World.Hindered`). Nothing else keeps
it from having a plan (`World.exists_planReview_iff`, `World.exists_planMetrics_iff`), and all of it
is found out before the first effect: a hindered run is the same pure value in every monad
(`World.RefusedRun`). What is checked again later was checked with the settings (`Settings.Usable`).
-/

set_option autoImplicit false

namespace CodeReview

open Reviewer

/-! ## Found sources -/

namespace Files

/-- A path stands for some files iff it leads anywhere. -/
theorem filesOf?_eq_none_iff {d : Disk} {extensions : List String} {path : String} :
    filesOf? d extensions path = none ↔ d.find? path = none := by
  rw [filesOf?, Disk.find?]
  cases d.locate? path with
  | none => simp
  | some names =>
    cases hat : d.root.at? names with
    | none => simp [hat]
    | some t => cases t <;> simp [hat]

section
variable (d : Disk) (extensions : List String)

/-- Whether files are found, and whether there are any, is decided path by path. -/
theorem allFiles_cases (paths : List String) :
    ((∃ path ∈ paths, d.find? path = none) ∧ ∃ e, allFiles d extensions paths = .error e) ∨
    ((∀ path ∈ paths, d.find? path ≠ none) ∧ ∃ found, allFiles d extensions paths = .ok found ∧
      (found = [] ↔ ∀ path ∈ paths, filesOf? d extensions path = some [])) := by
  induction paths with
  | nil => exact .inr ⟨by simp, [], rfl, by simp⟩
  | cons path rest ih =>
    cases hfiles : filesOf? d extensions path with
    | none =>
      refine .inl ⟨⟨path, List.mem_cons_self, filesOf?_eq_none_iff.1 hfiles⟩, ?_⟩
      exact ⟨.noSuchPath path, by rw [allFiles, hfiles]⟩
    | some files =>
      have hfind : d.find? path ≠ none := fun h => by
        rw [filesOf?_eq_none_iff.2 h] at hfiles
        cases hfiles
      rcases ih with ⟨⟨other, hother, hnone⟩, e, he⟩ | ⟨hrest, found, hfound, hnil⟩
      · refine .inl ⟨⟨other, List.mem_cons_of_mem _ hother, hnone⟩, e, ?_⟩
        simp only [allFiles, hfiles, he, Except.map]
      · refine .inr ⟨?_, files ++ found, ?_, ?_⟩
        · rintro other hother
          rcases List.mem_cons.1 hother with rfl | hother
          · exact hfind
          · exact hrest other hother
        · simp only [allFiles, hfiles, hfound, Except.map]
        · simp [List.append_eq_nil_iff, hnil, hfiles]

/-- Sources are found iff every path leads somewhere and one of them stands for some. -/
theorem exists_collectSources_iff (paths : List String) :
    (∃ files, collectSources d extensions paths = .ok files) ↔
      (∀ path ∈ paths, d.find? path ≠ none) ∧
        ¬ ∀ path ∈ paths, filesOf? d extensions path = some [] := by
  rw [collectSources]
  rcases allFiles_cases d extensions paths with
    ⟨⟨path, hpath, hnone⟩, e, he⟩ | ⟨hfind, found, hfound, hnil⟩
  · rw [he]
    simp only [bind, Except.bind, reduceCtorEq, exists_false, false_iff]
    exact fun h => h.1 path hpath hnone
  · have hsorted : (found.mergeSort pathLe).eraseRepsBy sameComponents = [] ↔ found = [] := by
      rw [eraseRepsBy_eq_nil_iff, ← List.length_eq_zero_iff, List.length_mergeSort,
        List.length_eq_zero_iff]
    rw [hfound]
    simp only [bind, Except.bind]
    rw [← hnil, ← hsorted]
    cases hfiles : (found.mergeSort pathLe).eraseRepsBy sameComponents with
    | nil => simp
    | cons file files => simpa using hfind

end

end Files

/-! ## Hindered runs -/

namespace Command

open Files

namespace World

/-- What keeps a run from being planned: its file of settings, the settings after the given change,
its file of feedback, if there should be one, and its paths. -/
inductive Hindered (w : World) (change : Settings → Settings) (feedback : Option String)
    (paths : List String) : Prop
  | noSettings (h : ∀ s, ¬ Settings.Loads w.settingsFile s)
  | unusable {s : Settings} (hs : Settings.Loads w.settingsFile s) (h : ¬ (change s).Usable)
  | noFeedback {path : String} (hpath : path ∈ feedback)
    (h : ∀ bytes, w.disk.read path = .ok bytes → String.fromUTF8? bytes = none)
  | noPath {path : String} (hpath : path ∈ paths) (h : w.disk.find? path = none)
  | noSources (h : ∀ path ∈ paths, filesOf? w.disk FrontEnd.python.extensions path = some [])

variable {w : World}

theorem exists_readText_iff {path : String} :
    (∃ text, w.readText path = .ok text) ↔
      ∃ bytes text, w.disk.read path = .ok bytes ∧ String.fromUTF8? bytes = some text := by
  simp only [readText, textOf_eq_ok_iff]
  exact exists_comm

theorem exists_sources_iff {paths : List String} :
    (∃ files, w.sources paths = .ok files) ↔
      (∀ path ∈ paths, w.disk.find? path ≠ none) ∧
        ¬ ∀ path ∈ paths, filesOf? w.disk FrontEnd.python.extensions path = some [] := by
  simp only [← exists_collectSources_iff, sources, mapError_eq_ok_iff]

/-- A run is hindered iff it lacks settings, a text of feedback or sources. -/
theorem hindered_iff {change : Settings → Settings} {feedback : Option String}
    {paths : List String} :
    w.Hindered change feedback paths ↔
      ¬ ((∃ s, Settings.Loads w.settingsFile s ∧ (change s).Usable) ∧
        (∀ path ∈ feedback, ∃ text, w.readText path = .ok text) ∧
        ∃ files, w.sources paths = .ok files) := by
  constructor
  · rintro h ⟨⟨s, hs, husable⟩, hfeedback, hsources⟩
    obtain ⟨hfind, hsome⟩ := exists_sources_iff.1 hsources
    cases h with
    | noSettings h => exact h s hs
    | @unusable t ht h =>
      have heq : (Except.ok t : Except ReviewError Settings) = .ok s :=
        (Settings.load_eq_ok_iff.2 ht).symm.trans (Settings.load_eq_ok_iff.2 hs)
      exact h (Except.ok.inj heq ▸ husable)
    | noFeedback hpath h =>
      obtain ⟨bytes, text, hread, hbytes⟩ := exists_readText_iff.1 (hfeedback _ hpath)
      cases (h bytes hread).symm.trans hbytes
    | noPath hpath h => exact hfind _ hpath h
    | noSources h => exact hsome h
  · intro h
    by_cases hs : ∃ s, Settings.Loads w.settingsFile s ∧ (change s).Usable
    · by_cases hfeedback : ∀ path ∈ feedback, ∃ text, w.readText path = .ok text
      · have hsources : ¬ ∃ files, w.sources paths = .ok files := fun hf => h ⟨hs, hfeedback, hf⟩
        rw [exists_sources_iff, not_and_or] at hsources
        rcases hsources with hfind | hnone
        · simp only [ne_eq, not_forall, not_not] at hfind
          obtain ⟨path, hpath, hfind⟩ := hfind
          exact .noPath hpath hfind
        · exact .noSources (not_not.1 hnone)
      · simp only [not_forall] at hfeedback
        obtain ⟨path, hpath, hread⟩ := hfeedback
        refine .noFeedback hpath fun bytes hbytes => ?_
        by_contra hsome
        obtain ⟨text, htext⟩ := Option.ne_none_iff_exists'.1 hsome
        exact hread (exists_readText_iff.2 ⟨bytes, text, hbytes, htext⟩)
    · by_cases hload : ∃ s, Settings.Loads w.settingsFile s
      · obtain ⟨s, hload⟩ := hload
        exact .unusable hload fun husable => hs ⟨s, hload, husable⟩
      · exact .noSettings fun s hload' => hload ⟨s, hload'⟩

/-! ## Plans -/

/-- Usable settings tell how the provider is to be asked. -/
theorem exists_clientSettings {s : Settings} (h : s.Usable) :
    ∃ c, s.clientSettings = .ok c := by
  obtain ⟨b, hb⟩ := s.exists_backend?_iff.2 h.backend
  exact ⟨_, by rw [Settings.clientSettings, hb]; rfl⟩

theorem exists_asking_iff {a : ReviewArguments} {s : Settings} (h : s.Usable) :
    (∃ asking, w.asking a s = .ok asking) ↔
      ∀ path ∈ a.feedback, ∃ text, w.readText path = .ok text := by
  rw [asking]
  cases a.feedback with
  | some path =>
    simp only [Option.mem_some_iff, forall_eq']
    cases w.readText path <;> simp
  | none =>
    simp only [Option.not_mem_none, false_implies, implies_true, iff_true]
    split
    · exact ⟨.disabled, rfl⟩
    · obtain ⟨c, hc⟩ := exists_clientSettings h
      exact ⟨_, by rw [askingClient, hc]; rfl⟩

/-- A review is planned unless it is hindered. -/
theorem exists_planReview_iff (w : World) (a : ReviewArguments) :
    (∃ plan, w.planReview a = .ok plan) ↔
      ¬ w.Hindered (a.change w.environment) a.feedback a.paths := by
  rw [hindered_iff, not_not]
  simp only [planReview, bind_eq_ok_iff, mapError_eq_ok_iff]
  constructor
  · rintro ⟨plan, s, hs, asking, hasking, -, -, files, hfiles, -⟩
    obtain ⟨t, ht, rfl, husable⟩ := reviewSettings_eq_ok_iff.1 hs
    exact ⟨⟨t, ht, husable⟩, (exists_asking_iff husable).1 ⟨asking, hasking⟩, files, hfiles⟩
  · rintro ⟨⟨t, ht, husable⟩, hfeedback, files, hfiles⟩
    have hs := reviewSettings_eq_ok_iff.2 ⟨t, ht, rfl, husable⟩
    obtain ⟨asking, hasking⟩ := (exists_asking_iff husable).2 hfeedback
    exact ⟨_, _, hs, asking, hasking, (), checkWindow_of_pos husable.window, files, hfiles, rfl⟩

/-- Measuring is planned unless it is hindered. -/
theorem exists_planMetrics_iff (w : World) (a : MetricsArguments) :
    (∃ plan, w.planMetrics a = .ok plan) ↔ ¬ w.Hindered a.change none a.paths := by
  rw [hindered_iff, not_not]
  simp only [planMetrics, bind_eq_ok_iff, mapError_eq_ok_iff]
  constructor
  · rintro ⟨plan, s, hs, -, -, files, hfiles, -⟩
    obtain ⟨t, ht, rfl, husable⟩ := metricsSettings_eq_ok_iff.1 hs
    exact ⟨⟨t, ht, husable⟩, by simp, files, hfiles⟩
  · rintro ⟨⟨t, ht, husable⟩, -, files, hfiles⟩
    have hs := metricsSettings_eq_ok_iff.2 ⟨t, ht, rfl, husable⟩
    exact ⟨_, _, hs, (), checkWindow_of_pos husable.window, files, hfiles, rfl⟩

end World

/-! ## Runs -/

/-- The connection that gives the same answers and writes down the requests. -/
def recordedRequests {m : Type → Type} [Monad m] (connection : Connection m) :
    Connection (StateT (List Reviewer.Request) m) := fun request => do
  modify (· ++ [request])
  StateT.lift (connection request)

/-- A run of some arguments is refused with a result: its status is one, it prints nothing and
leaves the disk as it is, and it is no action at all, whatever the connection; so no request is
written down. -/
structure World.RefusedRun (w : World) (args : List String) (r : RunResult) : Prop where
  status : r.status = 1
  output : r.output = ""
  disk : r.disk = w.disk
  still : ∀ {m : Type → Type} [Monad m] [LawfulMonad m] (connection : Connection m),
    w.run connection args = pure r
  unasked : ∀ {m : Type → Type} [Monad m] [LawfulMonad m] (connection : Connection m)
    (sent : List Reviewer.Request),
    (w.run (recordedRequests connection) args).run sent = pure (r, sent)

namespace World

variable {w : World}

/-- A run whose request is refused in every monad is a refused run. -/
theorem refusedRun_of_request {args : List String} {i : Invocation} (notes : List Note)
    (r : Refusal) (hargs : Invocation.parse args = .ok i)
    (h : ∀ {m : Type → Type} [Monad m] (connection : Connection m),
      w.runRequest connection i.request = pure (w.refuse notes r)) :
    ∃ r, w.RefusedRun args r := by
  have hrun : ∀ {m : Type → Type} [Monad m] [LawfulMonad m] (connection : Connection m),
      w.run connection args = pure { w.refuse notes r with
        notes := shownNotes (LogFilter.ofRun (w.environment filterVariable) i.level)
          (w.refuse notes r).notes } := by
    intro m _ _ connection
    rw [run, hargs]
    simp only [h, pure_bind]
  exact ⟨_, rfl, rfl, rfl, hrun, fun connection sent => by rw [hrun, StateT.run_pure]⟩

theorem refusedRun_of_planReview {args : List String} {level : Level} {a : ReviewArguments}
    (hargs : Invocation.parse args = .ok ⟨level, .review a⟩)
    (h : w.Hindered (a.change w.environment) a.feedback a.paths) :
    ∃ r, w.RefusedRun args r := by
  cases hplan : w.planReview a with
  | ok plan => exact absurd h ((w.exists_planReview_iff a).1 ⟨plan, hplan⟩)
  | error refused =>
    refine refusedRun_of_request refused.1 refused.2 hargs fun connection => ?_
    rw [runRequest, runReview, hplan]

theorem refusedRun_of_planMetrics {args : List String} {level : Level} {a : MetricsArguments}
    (hargs : Invocation.parse args = .ok ⟨level, .metrics a⟩)
    (h : w.Hindered a.change none a.paths) : ∃ r, w.RefusedRun args r := by
  cases hplan : w.planMetrics a with
  | ok plan => exact absurd h ((w.exists_planMetrics_iff a).1 ⟨plan, hplan⟩)
  | error refused =>
    refine refusedRun_of_request [w.settingsNote] refused hargs fun connection => ?_
    rw [runRequest, runMetrics, hplan]

/-- With usable settings a text has no other fault than one of its syntax. -/
theorem syntaxFault_of_error {s : Settings} (h : s.Usable) (external : ExternalSource Id)
    {source text : String} {e : ReviewError}
    (he : (pipelineOf s external).review source text = .error e ∨
      (pipelineOf s external).measure source text = .error e) :
    ∃ fault, e = .syntaxFault fault := by
  rcases (pipelineOf s external).review_cases h.window source text with
    ⟨fault, -, hmeasure, hreview⟩ | ⟨u, metrics, -, hmeasure, hreview⟩
  · rcases he with he | he
    · exact ⟨fault, Except.error.inj (he.symm.trans (hreview external))⟩
    · exact ⟨fault, Except.error.inj (he.symm.trans hmeasure)⟩
  · rcases he with he | he
    · cases he.symm.trans (hreview external)
    · cases he.symm.trans hmeasure

/-- **A hindered run has no effect.** Let a run that reviews or measures be hindered: its file of
settings cannot be read or is not usable, the settings after flags and environment are not usable,
its file of feedback cannot be read, one of its paths leads nowhere, or they stand for no source.
Then its status is one, it prints nothing, leaves the disk as it is and asks no provider. The runs
that are not hindered are those that have a plan. Once settings have passed their check, no later
check of them fails: there is a pipeline, the provider can be asked, the duplicate blocks of every
unit can be searched for, and reviewing and measuring find no fault but in the syntax of a text. -/
theorem run_hindered_without_effect (w : World) :
    (∀ args level (a : ReviewArguments), Invocation.parse args = .ok ⟨level, .review a⟩ →
      w.Hindered (a.change w.environment) a.feedback a.paths → ∃ r, w.RefusedRun args r) ∧
    (∀ args level (a : MetricsArguments), Invocation.parse args = .ok ⟨level, .metrics a⟩ →
      w.Hindered a.change none a.paths → ∃ r, w.RefusedRun args r) ∧
    (∀ a, (∃ plan, w.planReview a = .ok plan) ↔
      ¬ w.Hindered (a.change w.environment) a.feedback a.paths) ∧
    (∀ a, (∃ plan, w.planMetrics a = .ok plan) ↔ ¬ w.Hindered a.change none a.paths) ∧
    ∀ s : Settings, s.check = .ok () →
      checkWindow s.window = .ok () ∧ (∃ c, s.clientSettings = .ok c) ∧
      (∀ u : SourceUnit, ∃ blocks, u.duplicates s.window = .ok blocks) ∧
      ∀ (external : ExternalSource Id) source text e,
        (pipelineOf s external).review source text = .error e ∨
          (pipelineOf s external).measure source text = .error e →
        ∃ fault, e = .syntaxFault fault := by
  refine ⟨fun args level a => refusedRun_of_planReview,
    fun args level a => refusedRun_of_planMetrics, w.exists_planReview_iff,
    w.exists_planMetrics_iff, fun s hs => ?_⟩
  have husable : s.Usable := s.check_eq_ok_iff.1 hs
  refine ⟨checkWindow_of_pos husable.window, exists_clientSettings husable, fun u => ?_,
    fun external source text e => syntaxFault_of_error husable external⟩
  exact ⟨_, by rw [SourceUnit.duplicates, checkWindow_of_pos husable.window]; rfl⟩

/-- The source can be read, but the flag for the window or the path is wrong. -/
theorem run_hindered_without_effect_of_flag :
    let w : World :=
      { disk := ⟨.directory [("a.py", .file "x = 1\n".toUTF8)], []⟩, workPath := "/" }
    let review := ["review", "a.py", "--min-lines", "0", "-f", "json", "-o", "out.json"]
    let metrics := ["metrics", "gone.py"]
    let a : ReviewArguments :=
      { paths := ["a.py"], window := some 0, format := .json, output := some "out.json" }
    let b : MetricsArguments := { paths := ["gone.py"] }
    Invocation.parse review = .ok ⟨.warn, .review a⟩ ∧
      w.Hindered (a.change w.environment) a.feedback a.paths ∧ (∃ r, w.RefusedRun review r) ∧
      Invocation.parse metrics = .ok ⟨.warn, .metrics b⟩ ∧ w.Hindered b.change none b.paths ∧
      (∃ r, w.RefusedRun metrics r) ∧
      Settings.check {} = .ok () ∧ ∃ c, Settings.clientSettings {} = .ok c := by
  intro w review metrics a b
  have hreview : Invocation.parse review = .ok ⟨.warn, .review a⟩ := by decide +kernel
  have hmetrics : Invocation.parse metrics = .ok ⟨.warn, .metrics b⟩ := by decide +kernel
  have hwindow : w.Hindered (a.change w.environment) a.feedback a.paths := by
    have hnone : w.settingsFile = none := by decide +kernel
    refine .unusable (s := {}) (hnone ▸ .default) fun h => ?_
    have hzero : (a.change w.environment {}).window = 0 := by decide +kernel
    have hpos := h.window
    omega
  have hpath : w.Hindered b.change none b.paths := by
    refine .noPath (show "gone.py" ∈ ["gone.py"] from List.mem_cons_self) ?_
    rw [Disk.find?, show w.disk.locate? "gone.py" = none by decide +kernel]
    rfl
  have hcheck : Settings.check {} = .ok () := by decide +kernel
  obtain ⟨hreviews, hmeasures, -, -, hchecked⟩ := run_hindered_without_effect w
  exact ⟨hreview, hwindow, hreviews _ _ a hreview hwindow, hmetrics, hpath,
    hmeasures _ _ b hmetrics hpath, hcheck, (hchecked {} hcheck).2.1⟩

end World

end Command

end CodeReview
