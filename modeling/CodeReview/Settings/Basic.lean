import CodeReview.Duplicates
import CodeReview.Files.Content
import CodeReview.Reviewer.Client
import CodeReview.Toml.Document
import CodeReview.Toml.Record

/-!
# Settings

The settings of a run. They come from a file, are changed by flags, and what is then still missing
may be taken from the environment; after that they are checked.
-/

set_option autoImplicit false

namespace CodeReview

open Files Number Reviewer

/-- The settings of a run. -/
structure Settings where
  /-- The lines in a window for duplicate blocks. -/
  window : Nat := defaultMinLines
  /-- Whether to ask an outside reviewer. -/
  isEnabled : Bool := true
  backend : Option String := none
  model : Option String := none
  key : Option String := none
  maxTokens : Option Nat := none
  temperature : Option Floating := none
  timeoutSeconds : Option Nat := none
deriving DecidableEq, Repr

/-- The values of environment variables that are set. -/
abbrev Environment := String → Option String

namespace Settings

/-! ## Reading -/

/-- The name of a file of settings. -/
def fileName : String := "revisor.toml"

/-- The window in the part on analyses. -/
def windowOf? (v : Toml) : Option Nat :=
  match v.fields? ["min_duplicate_lines"] with
  | some [window] => Toml.fieldOr? (Toml.natBelow? UInt64.size) defaultMinLines window
  | _ => none

/-- The settings in the part on the outside reviewer. -/
def ofReviewerPart? (window : Nat) (v : Toml) : Option Settings :=
  match v.fields? ["enabled", "backend", "model", "api_key", "max_tokens", "temperature",
      "timeout_secs"] with
  | some [enabled, backend, model, key, maxTokens, temperature, timeout] => do
    return {
      window
      isEnabled := ← Toml.fieldOr? Toml.bool? true enabled
      backend := ← Toml.optional? Toml.text? backend
      model := ← Toml.optional? Toml.text? model
      key := ← Toml.optional? Toml.text? key
      maxTokens := ← Toml.optional? (Toml.natBelow? UInt32.size) maxTokens
      temperature := ← Toml.optional? (Toml.floating? single) temperature
      timeoutSeconds := ← Toml.optional? (Toml.natBelow? UInt64.size) timeout }
  | _ => none

/-- The settings in the entries of a file. Entries with other names do not matter. -/
def ofEntries? (entries : Toml.Entries) : Option Settings := do
  let window ← Toml.fieldOr? windowOf? defaultMinLines (entries.get? "analysis")
  Toml.fieldOr? (ofReviewerPart? window) { window } (entries.get? "ai")

/-- The settings in the text of a file. -/
def parse (text : String) : Option Settings := (Toml.parse text).bind ofEntries?

/-! ## Use -/

/-- The backend that is asked for. -/
def backend? (s : Settings) : Except ReviewError Backend :=
  match s.backend with
  | some name => (Backend.parse name).mapError fun failure => .setting (.backend failure)
  | none => .ok .openAi

/-- Refuses settings that cannot be used. -/
def check (s : Settings) : Except ReviewError Unit := do
  checkWindow s.window
  let _ ← s.backend?
  if s.timeoutSeconds = some 0 then throw (.setting .noTime)
  if s.maxTokens = some 0 then throw (.setting .noTokens)
  match s.temperature with
  | some t => if t.isBetween 0 2 then pure () else throw (.setting (.temperature t))
  | none => pure ()

/-- How the backend is to be asked. -/
def clientSettings (s : Settings) : Except ReviewError ClientSettings :=
  s.backend?.map fun backend =>
    let usual : ClientSettings := {}
    { backend
      model := s.model
      maxTokens := s.maxTokens.getD usual.maxTokens
      temperature := s.temperature.getD usual.temperature
      timeoutSeconds := s.timeoutSeconds.getD usual.timeoutSeconds }

/-- Takes a missing key from the environment; for a backend without keys, a missing model. -/
def withEnvironment (s : Settings) (env : Environment) : Settings :=
  match s.backend? with
  | .error _ => s
  | .ok backend =>
    if backend.needsKey then { s with key := s.key.or (env backend.keyVariable) }
    else { s with model := s.model.or (env backend.keyVariable) }

/-- The settings after flags for the window, the backend and the model. -/
def withFlags (s : Settings) (window : Option Nat) (backend model : Option String) : Settings :=
  { s with
    window := window.getD s.window
    backend := backend.or s.backend
    model := model.or s.model }

/-! ## Files -/

/-- The settings in a file. -/
def ofFile (path : String) (content : Content) : Except ReviewError Settings := do
  let text ← (textOf content).mapError .file
  match parse text with
  | some s => return s
  | none => throw (.setting (.unreadable path "TOML parse error"))

/-- The settings in the first file, or the default ones, checked. -/
def load (file : Option (String × Content)) : Except ReviewError Settings := do
  let s ← match file with
    | some (path, content) => ofFile path content
    | none => pure {}
  s.check
  return s

/-- The file of settings to start from. -/
def exampleText : String :=
  "# Revisor Configuration

[analysis]
# Lines per window for duplicate block detection (>= 1)
min_duplicate_lines = 3

[ai]
# Set to false to run static checks only
enabled = true

# Backend: \"openai\" (default), \"anthropic\", \"deepinfra\", \"openrouter\", \"ollama\"
# backend = \"openai\"
# model = \"gpt-3.5-turbo\"

# API key; when unset the backend's env var is used (OPENAI_API_KEY, ANTHROPIC_API_KEY, ...)
# api_key = \"sk-...\"

# max_tokens = 512
# temperature = 0.4
# timeout_secs = 120
"

end Settings

end CodeReview
