import CodeReview.Command.Arguments
import CodeReview.Files.Sources
import CodeReview.Review.Pipeline
import CodeReview.Settings.Basic

/-!
# Runs

What a run does is a function of the files, the environment and the arguments: it prints, writes
files, and ends with a status. Asking a provider is the only effect, and it is left to the
connection. All refusals come before anything is reviewed, written or asked.
-/

set_option autoImplicit false

namespace CodeReview.Command

open Files Report

/-- What a run starts from. -/
structure World where
  disk : Disk
  /-- The path of the working directory. -/
  workPath : String
  /-- The file of settings of the user, with its path. -/
  userSettings : Option (String × Content) := none
  environment : Environment := fun _ => none
  input : ByteArray := .empty

/-- What a run tells beside its output: a log entry, or lines for the user. -/
inductive Note
  | log (entry : LogEntry)
  | line (text : String)
deriving DecidableEq, Repr

/-- What becomes of a run. -/
structure RunResult where
  status : Nat
  output : String
  notes : List Note
  disk : Disk

/-- Why a run fails, with the cause behind it. -/
structure Refusal where
  message : String
  cause : Option String := none
deriving DecidableEq, Repr

/-- The text for a refusal. -/
def Refusal.text (r : Refusal) : String :=
  "Error: " ++ r.message ++
    (match r.cause with
      | some cause => "\n\nCaused by:\n    " ++ cause
      | none => "")

/-- The refusal for an error. -/
def Refusal.ofError (e : ReviewError) : Refusal := ⟨e.message, none⟩

/-- The result of a run that fails after some notes. -/
def World.refuse (w : World) (notes : List Note) (r : Refusal) : RunResult :=
  ⟨1, "", notes ++ [.line r.text], w.disk⟩

/-! ## Settings -/

/-- The path of the file of settings in the working directory. -/
def World.settingsPath (w : World) : String := joinPath w.workPath Settings.fileName

/-- The file of settings of a run: the one in the working directory, or else the user's. Whether it
can be read plays no part in this. -/
def World.settingsFile (w : World) : Option (String × Content) :=
  match w.disk.content? Settings.fileName with
  | some content => some (w.settingsPath, content)
  | none => w.userSettings

/-- Tells which file of settings is read. -/
def World.settingsNote (w : World) : Note :=
  .log ⟨.debug, .settings,
    match w.settingsFile with
    | some (path, _) => "Loaded config from " ++ path
    | none => "No config file found, using defaults"⟩

/-- The settings of a run that reviews. -/
def World.reviewSettings (w : World) (a : ReviewArguments) : Except ReviewError Settings := do
  let s ← Settings.load w.settingsFile
  let s := (s.withFlags a.window a.backend a.model).withEnvironment w.environment
  s.check
  return s

/-- The settings of a run that measures. -/
def World.metricsSettings (w : World) (a : MetricsArguments) : Except ReviewError Settings := do
  let s ← Settings.load w.settingsFile
  let s := s.withFlags a.window none none
  s.check
  return s

/-! ## Files -/

/-- The text of a file, or why there is none. -/
def World.readText (w : World) (path : String) : Except String String := textOf (w.disk.read path)

/-- The source files that a run is about. -/
def World.sources (w : World) (paths : List String) : Except Refusal (List String) :=
  (collectSources w.disk FrontEnd.python.extensions paths).mapError fun f => ⟨f.message, none⟩

/-- The outcome for a file that cannot be read. -/
def unreadable {α : Type} (path reason : String) : Outcome α :=
  .failed path ("Failed to read file: " ++ reason)

/-! ## Reviewers -/

/-- Where a run gets feedback from. -/
inductive Asking
  | disabled
  | saved (feedback : String)
  | client (c : Reviewer.Client)
  | unavailable (failure : Reviewer.Failure)

/-- The client for settings, if it has the key that it needs. -/
def askingClient (s : Settings) : Except ReviewError Asking :=
  s.clientSettings.map fun cs =>
    match s.key with
    | some key => .client ⟨cs, key⟩
    | none =>
      if cs.backend.needsKey then
        .unavailable (.missingKey cs.backend.keyVariable cs.backend.signup)
      else .client ⟨cs, ""⟩

/-- Where a run gets feedback from: saved feedback goes first. -/
def World.asking (w : World) (a : ReviewArguments) (s : Settings) : Except Refusal Asking :=
  match a.feedback with
  | some path =>
    match w.readText path with
    | .ok text => .ok (.saved text)
    | .error cause => .error ⟨"Failed to read feedback file " ++ path, some cause⟩
  | none =>
    if a.isAlone || !s.isEnabled then .ok .disabled
    else (askingClient s).mapError Refusal.ofError

/-- The source of feedback. -/
def Asking.source {m : Type → Type} [Monad m] (connection : Reviewer.Connection m) :
    Asking → ExternalSource m
  | disabled => .disabled
  | saved feedback => .reviewer (Reviewer.saved feedback)
  | client c => .reviewer (c.reviewer connection)
  | unavailable failure => .unavailable failure.message

/-- Tells where feedback comes from. -/
def Asking.notes : Asking → List Note
  | client c =>
    [.log ⟨.info, .command,
      s!"Using {c.settings.backend.name} reviewer ({c.settings.modelName})"⟩]
  | unavailable failure =>
    [.log ⟨.warn, .command, failure.message ++ "; continuing with static analysis only"⟩]
  | _ => []

/-! ## Notes on sources -/

/-- Tells about the search for duplicate blocks, which takes place in texts with enough lines. -/
def scanNotes (window lines : Nat) (r : MetricsReport) : List Note :=
  if lines < window then []
  else
    [.log ⟨.debug, .duplicates,
      s!"Duplicate scan: {lines + 1 - window} windows of {window} lines, {r.duplicates.length} " ++
        "repeated blocks"⟩]

/-- Tells about each rule. -/
def ruleNotes (rules : List Rule) (findings : List Finding) : List Note :=
  rules.map fun r =>
    let count := (findings.filter fun f => f.rule == r.name).length
    .log ⟨.debug, .rules, s!"Rule {r.name} produced {count} findings"⟩

/-- Tells about a review as a whole. -/
def summaryNote (r : ReviewReport) : Note :=
  .log ⟨.debug, .review,
    s!"{r.source}: {r.metrics.functions.length} functions, {r.metrics.duplicates.length} " ++
      s!"duplicate blocks, {r.findings.length} rule findings"⟩

/-- Tells about the call of a provider. -/
def callNotes (c : Reviewer.Client) (r : ReviewReport) : List Note :=
  .log ⟨.debug, .reviewer, "Requesting review from " ++ c.reviewerName⟩ ::
    match r.external with
    | .completed _ usage =>
      [.log ⟨.info, .reviewer,
        s!"Review received from {c.reviewerName} ({usage.total} tokens)"⟩]
    | .failed reason =>
      [.log ⟨.warn, .review,
        s!"External review of {r.source} failed, continuing with static results: {reason}"⟩]
    | .skipped => []

/-- Tells about the review of a text. -/
def reviewNotes (window : Nat) (rules : List Rule) (asking : Asking) (text : String) :
    ReviewOutcome → List Note
  | .done r =>
    scanNotes window (Text.lines text).length r.metrics ++ ruleNotes rules r.findings ++
      summaryNote r ::
        match asking with
        | .client c => callNotes c r
        | _ => []
  | .failed _ _ => []

/-- Tells about the measuring of a text. -/
def measureNotes (window : Nat) (text : String) : MetricsOutcome → List Note
  | .done s => scanNotes window (Text.lines text).length s.metrics
  | .failed _ _ => []

/-! ## Reports -/

/-- Tells how many sources gave an error, in a report for people. -/
def failureNotes (format : Format) (failed total : Nat) : List Note :=
  if format = .text ∧ 0 < failed then
    [.line s!"✗ {failed} of {total} file(s) could not be analyzed"]
  else []

/-- Ends a run with a report on some outcomes. -/
def World.finish {α : Type} (w : World) (notes : List Note) (format : Format)
    (output : Option String) (outcomes : List (Outcome α)) (report : String) : RunResult :=
  let failed := (outcomes.filter Outcome.isFailure).length
  let notes := notes ++ failureNotes format failed outcomes.length
  let status := if failed = 0 then 0 else 1
  match output with
  | none => ⟨status, report ++ "\n", notes, w.disk⟩
  | some path =>
    match w.disk.write path report.toUTF8 with
    | .ok disk => ⟨status, "", notes ++ [.line ("✓ Report written to " ++ path)], disk⟩
    | .error fault => w.refuse notes ⟨"Failed to write " ++ path, some fault.message⟩

/-! ## Commands -/

/-- The pipeline of a run. A plan has checked its window. -/
def pipelineOf {m : Type → Type} (s : Settings) (external : ExternalSource m) : Pipeline m :=
  { window := s.window, external }

/-- Reviews a file. -/
def World.reviewFile {m : Type → Type} [Monad m] (w : World) (p : Pipeline m) (asking : Asking)
    (path : String) : m (ReviewOutcome × List Note) :=
  match w.readText path with
  | .error reason => pure (unreadable path reason, [])
  | .ok text => do
    let outcome ← p.reviewOutcome path text
    return (outcome, reviewNotes p.window p.rules asking text outcome)

/-- Measures a file. -/
def World.measureFile (w : World) (p : Pipeline Id) (path : String) :
    MetricsOutcome × List Note :=
  match w.readText path with
  | .error reason => (unreadable path reason, [])
  | .ok text =>
    let outcome := p.measureOutcome path text
    (outcome, measureNotes p.window text outcome)

/-- What a review is made from, once nothing can be refused any more. -/
structure ReviewPlan where
  settings : Settings
  asking : Asking
  files : List String

/-- Plans a review. A refusal comes with the notes before it. -/
def World.planReview (w : World) (a : ReviewArguments) :
    Except (List Note × Refusal) ReviewPlan := do
  let s ← (w.reviewSettings a).mapError fun e => ([w.settingsNote], Refusal.ofError e)
  let asking ← (w.asking a s).mapError fun r => ([w.settingsNote], r)
  (checkWindow s.window).mapError fun e =>
    (w.settingsNote :: asking.notes, Refusal.ofError e)
  let files ← (w.sources a.paths).mapError fun r => (w.settingsNote :: asking.notes, r)
  return ⟨s, asking, files⟩

/-- Runs the command that reviews. -/
def World.runReview {m : Type → Type} [Monad m] (w : World)
    (connection : Reviewer.Connection m) (a : ReviewArguments) : m RunResult :=
  match w.planReview a with
  | .error (notes, r) => pure (w.refuse notes r)
  | .ok plan => do
    let p := pipelineOf plan.settings (plan.asking.source connection)
    let results ← plan.files.mapM (w.reviewFile p plan.asking)
    let outcomes := results.map (·.1)
    let notes := w.settingsNote :: plan.asking.notes ++ results.flatMap (·.2)
    return w.finish notes a.format a.output outcomes (renderReviews a.format false outcomes)

/-- Plans measuring. A refusal comes after one note. -/
def World.planMetrics (w : World) (a : MetricsArguments) :
    Except Refusal (Settings × List String) := do
  let s ← (w.metricsSettings a).mapError Refusal.ofError
  (checkWindow s.window).mapError Refusal.ofError
  let files ← w.sources a.paths
  return (s, files)

/-- Runs the command that measures. -/
def World.runMetrics (w : World) (a : MetricsArguments) : RunResult :=
  match w.planMetrics a with
  | .error r => w.refuse [w.settingsNote] r
  | .ok (s, files) =>
    let results := files.map (w.measureFile (pipelineOf s .disabled))
    let outcomes := results.map (·.1)
    w.finish (w.settingsNote :: results.flatMap (·.2)) a.format a.output outcomes
      (renderMetrics a.format false outcomes)

/-- The text to classify: a file, or the input of the run for a dash. -/
def World.classifyText (w : World) (input : String) : Except Refusal String :=
  if components input = [.name "-"] then
    (textOfBytes w.input).mapError fun cause =>
      ⟨"Failed to read feedback from stdin", some cause⟩
  else (w.readText input).mapError fun cause => ⟨"Failed to read " ++ input, some cause⟩

/-- Runs the command that classifies. -/
def World.runClassify (w : World) (input : String) (format : Format) : RunResult :=
  match w.classifyText input with
  | .error r => w.refuse [] r
  | .ok text =>
    ⟨0, renderCategorized format false (Feedback.standard.classify text) ++ "\n", [], w.disk⟩

/-- Runs the command that writes a file of settings. -/
def World.runInit (w : World) (path : String) (force : Bool) : RunResult :=
  let target := joinPath path Settings.fileName
  if !w.disk.isDirectory path then w.refuse [] ⟨"Path is not a directory: " ++ path, none⟩
  else if (w.disk.find? target).isSome && !force then
    ⟨0, s!"✓ Config already exists at {target} (use --force to overwrite)\n", [], w.disk⟩
  else
    match w.disk.write target Settings.exampleText.toUTF8 with
    | .ok disk => ⟨0, s!"✓ Created {target}\n", [], disk⟩
    | .error fault => w.refuse [] ⟨"Failed to write " ++ target, some fault.message⟩

/-- Runs a command. -/
def World.runRequest {m : Type → Type} [Monad m] (w : World)
    (connection : Reviewer.Connection m) : Request → m RunResult
  | .review a => w.runReview connection a
  | .metrics a => pure (w.runMetrics a)
  | .classify input format => pure (w.runClassify input format)
  | .init path force => pure (w.runInit path force)

/-! ## Whole runs -/

/-- The variable with the filter for log entries. -/
def filterVariable : String := "RUST_LOG"

/-- The notes that are shown. -/
def shownNotes (f : LogFilter) (notes : List Note) : List Note :=
  notes.filter fun
    | .log e => f.shows e
    | .line _ => true

/-- The name and the version of the program. -/
def versionText : String := "revisor 0.1.0\n"

/-- How the program is used. -/
def usageText : String := "Usage: revisor [OPTIONS] <review|metrics|classify|init>\n"

/-- The result if there is no command to run. -/
def World.stop (w : World) : Stop → RunResult
  | .usage => ⟨2, "", [.line usageText], w.disk⟩
  | .help => ⟨0, usageText, [], w.disk⟩
  | .version => ⟨0, versionText, [], w.disk⟩

/-- Runs the program with some arguments. -/
def World.run {m : Type → Type} [Monad m] (w : World) (connection : Reviewer.Connection m)
    (args : List String) : m RunResult :=
  match Invocation.parse args with
  | .error s => pure (w.stop s)
  | .ok i => do
    let result ← w.runRequest connection i.request
    let filter := LogFilter.ofRun (w.environment filterVariable) i.level
    return { result with notes := shownNotes filter result.notes }

end CodeReview.Command
