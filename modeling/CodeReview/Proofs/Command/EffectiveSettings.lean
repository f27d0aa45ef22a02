import CodeReview.Proofs.Command.RefusedRuns

/-!
# Where effective settings come from

One file of settings is read, and what it defines (`FileDefines`) is kept apart from the defaults.
`World.effective_settings` gives each setting of a run that may start as the first one that is
defined: by a flag, the file, for the key and the model the environment, then the default. The
variable is that of the backend after flags, and `Settings.withEnvironment` only fills gaps: it
changes nothing but the key and the model (`Settings.withEnvironment_rest`), keeps each of them
once it is there, and has no more to do a second time (`Settings.withEnvironment_idem`).
-/

set_option autoImplicit false

namespace CodeReview

open Reviewer

/-! ## What a file defines -/

namespace Toml

/-- The value of one of the fields of a record. -/
def fieldIn? (names : List String) (name : String) (v : Toml) : Option Toml :=
  (((v.fields? names).getD [])[names.idxOf name]?).join

/-- A field with a default is one that may be left out, and the default if it is. -/
theorem fieldOr?_eq_some_iff {α : Type} {read : Toml → Option α} {default x : α}
    {field : Option Toml} :
    fieldOr? read default field = some x ↔
      ∃ y, optional? read field = some y ∧ x = y.getD default := by
  cases field with
  | none => simp [fieldOr?, optional?, eq_comm]
  | some v => cases hv : read v <;> simp [fieldOr?, optional?, hv, eq_comm]

end Toml

namespace Settings

open Toml

/-- The fields of the part on analyses. -/
def analysisFields : List String := ["min_duplicate_lines"]

/-- The fields of the part on the outside reviewer. -/
def reviewerFields : List String :=
  ["enabled", "backend", "model", "api_key", "max_tokens", "temperature", "timeout_secs"]

/-- The value that entries give a field of a part. -/
def given? (entries : Entries) (part : String) (fields : List String) (field : String) :
    Option Toml :=
  (entries.get? part).bind (fieldIn? fields field)

/-- The settings that can come from elsewhere too, as far as a file defines them. -/
structure Defined where
  window : Option Nat := none
  isEnabled : Option Bool := none
  backend : Option String := none
  model : Option String := none
  key : Option String := none
deriving DecidableEq, Repr

/-- Entries define the settings that they give a value; the value must be of the right type. -/
structure Define (entries : Entries) (f : Defined) : Prop where
  window : optional? (natBelow? UInt64.size)
    (given? entries "analysis" analysisFields "min_duplicate_lines") = some f.window
  isEnabled : optional? bool? (given? entries "ai" reviewerFields "enabled") = some f.isEnabled
  backend : optional? text? (given? entries "ai" reviewerFields "backend") = some f.backend
  model : optional? text? (given? entries "ai" reviewerFields "model") = some f.model
  key : optional? text? (given? entries "ai" reviewerFields "api_key") = some f.key

/-- What the file that is read defines, which is nothing if there is none. -/
inductive FileDefines : Option (String × Files.Content) → Defined → Prop
  | none : FileDefines none {}
  | file {path : String} {bytes : ByteArray} {text : String} {entries : Entries} {f : Defined}
    (htext : String.fromUTF8? bytes = some text) (hentries : Toml.parse text = some entries)
    (hf : Define entries f) : FileDefines (some (path, .ok bytes)) f

/-- Settings of a file in which what is not defined has its default. -/
structure Completes (f : Defined) (s : Settings) : Prop where
  window : s.window = f.window.getD 3
  isEnabled : s.isEnabled = f.isEnabled.getD true
  backend : s.backend = f.backend
  model : s.model = f.model
  key : s.key = f.key

/-- The part on analyses gives the window that it defines, or the default. -/
theorem window_of_entries {entries : Entries} {window : Nat}
    (h : fieldOr? windowOf? defaultMinLines (entries.get? "analysis") = some window) :
    ∃ defined, optional? (natBelow? UInt64.size)
        (given? entries "analysis" analysisFields "min_duplicate_lines") = some defined ∧
      window = defined.getD 3 := by
  cases hpart : entries.get? "analysis" with
  | none =>
    rw [hpart] at h
    exact ⟨.none, by rw [given?, hpart]; rfl, (Option.some.inj h).symm⟩
  | some v =>
    rw [hpart, fieldOr?, windowOf?] at h
    split at h
    · rename_i field hfields
      have hgiven : given? entries "analysis" analysisFields "min_duplicate_lines" = field := by
        rw [given?, hpart, Option.bind_some, fieldIn?, analysisFields, hfields]
        rfl
      rw [hgiven]
      exact fieldOr?_eq_some_iff.1 h
    · cases h

/-- The part on the reviewer gives what it defines, and the default for the rest. -/
theorem completes_of_reviewerPart {entries : Entries} {window : Nat} {s : Settings} {v : Toml}
    (hpart : entries.get? "ai" = some v) (hs : ofReviewerPart? window v = some s)
    {f : Option Nat}
    (hf : optional? (natBelow? UInt64.size)
      (given? entries "analysis" analysisFields "min_duplicate_lines") = some f)
    (hwindow : window = f.getD 3) :
    ∃ f, Define entries f ∧ Completes f s := by
  rw [ofReviewerPart?] at hs
  split at hs
  case h_2 => cases hs
  case h_1 enabled backend model key maxTokens temperature timeout hfields =>
    -- every field is read from the value that the part gives it
    have hgiven (name : String) : given? entries "ai" reviewerFields name =
        ([enabled, backend, model, key, maxTokens, temperature,
          timeout][reviewerFields.idxOf name]?).join := by
      rw [given?, hpart, Option.bind_some, fieldIn?, reviewerFields, hfields, Option.getD_some]
    simp only [Option.bind_eq_bind, Option.bind_eq_some_iff, Option.pure_def,
      Option.some.injEq] at hs
    obtain ⟨isEnabled', henabled, backend', hbackend, model', hmodel, key', hkey, -, -, -, -, -, -,
      rfl⟩ := hs
    obtain ⟨enabled', henabled', rfl⟩ := fieldOr?_eq_some_iff.1 henabled
    refine ⟨⟨f, enabled', backend', model', key'⟩, ?_, ?_⟩
    · exact
        { window := hf
          isEnabled := by rw [hgiven]; exact henabled'
          backend := by rw [hgiven]; exact hbackend
          model := by rw [hgiven]; exact hmodel
          key := by rw [hgiven]; exact hkey }
    · exact ⟨hwindow, rfl, rfl, rfl, rfl⟩

/-- The settings in a file are those that it defines, and the default ones for the rest. -/
theorem exists_define_of_ofEntries? {entries : Entries} {s : Settings}
    (h : ofEntries? entries = some s) : ∃ f, Define entries f ∧ Completes f s := by
  rw [ofEntries?, Option.bind_eq_bind, Option.bind_eq_some_iff] at h
  obtain ⟨window, hwindow, hs⟩ := h
  obtain ⟨f, hf, hdefault⟩ := window_of_entries hwindow
  cases hpart : entries.get? "ai" with
  | some v =>
    rw [hpart] at hs
    exact completes_of_reviewerPart hpart hs hf hdefault
  | none =>
    rw [hpart] at hs
    obtain rfl := Option.some.inj hs
    have hgiven (name : String) : given? entries "ai" reviewerFields name = .none := by
      rw [given?, hpart, Option.bind_none]
    refine ⟨⟨f, .none, .none, .none, .none⟩, ?_, hdefault, rfl, rfl, rfl, rfl⟩
    exact ⟨hf, by rw [hgiven]; rfl, by rw [hgiven]; rfl, by rw [hgiven]; rfl, by rw [hgiven]; rfl⟩

theorem exists_fileDefines_of_loads {file : Option (String × Files.Content)} {s : Settings}
    (h : Loads file s) : ∃ f, FileDefines file f ∧ Completes f s := by
  cases h with
  | default => exact ⟨{}, .none, rfl, rfl, rfl, rfl, rfl⟩
  | file htext hs husable =>
    rw [parse, Option.bind_eq_some_iff] at hs
    obtain ⟨entries, hentries, hs⟩ := hs
    obtain ⟨f, hf, hcompletes⟩ := exists_define_of_ofEntries? hs
    exact ⟨f, .file htext hentries hf, hcompletes⟩

/-! ## The environment -/

section
variable (s : Settings) (env : Environment)

/-- The key in the variable of the backend, if there is one to ask and it needs a key. -/
def environmentKey : Option String :=
  match s.backend? with
  | .ok b => if b.needsKey then env b.keyVariable else none
  | .error _ => none

/-- The model in the variable for it, which is read for one backend only. -/
def environmentModel : Option String :=
  match s.backend? with
  | .ok b => if b = .ollama then env "OLLAMA_MODEL" else none
  | .error _ => none

/-- The environment is asked for the key and the model that are missing. -/
theorem withEnvironment_eq :
    s.withEnvironment env =
      { s with
        key := s.key.or (s.environmentKey env)
        model := s.model.or (s.environmentModel env) } := by
  rw [withEnvironment, environmentKey, environmentModel]
  cases s.backend? with
  | error e => simp
  | ok b => cases b <;> simp [Backend.needsKey, Backend.keyVariable]

/-- The environment changes nothing but the key and the model. -/
theorem withEnvironment_rest :
    { s.withEnvironment env with key := s.key, model := s.model } = s := by
  rw [withEnvironment_eq]

theorem withEnvironment_idem :
    (s.withEnvironment env).withEnvironment env = s.withEnvironment env := by
  -- the backend stays, and with it what is read
  have hkey : (s.withEnvironment env).environmentKey env = s.environmentKey env := by
    rw [withEnvironment_eq]
    rfl
  have hmodel : (s.withEnvironment env).environmentModel env = s.environmentModel env := by
    rw [withEnvironment_eq]
    rfl
  rw [withEnvironment_eq (s.withEnvironment env), hkey, hmodel, withEnvironment_eq]
  simp only [Option.or_assoc, Option.or_self]

variable {s} in
/-- A key that is there is kept. -/
theorem withEnvironment_key {key : String} (h : s.key = some key) :
    (s.withEnvironment env).key = some key := by
  rw [withEnvironment_eq, h, Option.some_or]

variable {s} in
/-- A model that is there is kept. -/
theorem withEnvironment_model {model : String} (h : s.model = some model) :
    (s.withEnvironment env).model = some model := by
  rw [withEnvironment_eq, h, Option.some_or]

variable {s} in
theorem withEnvironment_of_unknown (h : ∀ b, s.backend? ≠ .ok b) : s.withEnvironment env = s := by
  have hkey : s.environmentKey env = none := by
    rw [environmentKey]
    split
    · rename_i b hb
      exact absurd hb (h b)
    · rfl
  have hmodel : s.environmentModel env = none := by
    rw [environmentModel]
    split
    · rename_i b hb
      exact absurd hb (h b)
    · rfl
  rw [withEnvironment_eq, hkey, hmodel, Option.or_none, Option.or_none]

end

end Settings

/-! ## The client -/

namespace Settings

variable {s : Settings}

theorem backend?_eq_ok_iff {b : Backend} :
    s.backend? = .ok b ↔ s.backend.elim (.ok .openAi) Backend.parse = .ok b := by
  rw [backend?]
  cases s.backend with
  | none => simp
  | some name => exact mapError_eq_ok_iff

theorem clientSettings_eq_ok {cs : ClientSettings} (h : s.clientSettings = .ok cs) :
    s.backend? = .ok cs.backend ∧ cs.model = s.model := by
  rw [clientSettings] at h
  cases hb : s.backend? with
  | error e =>
    rw [hb] at h
    cases h
  | ok b =>
    rw [hb] at h
    obtain rfl := Except.ok.inj h
    exact ⟨rfl, rfl⟩

end Settings

/-! ## Effective settings -/

namespace Command

open Files Settings

/-- What arguments and environment change, with the backend that comes out of it. -/
theorem change_eq {a : ReviewArguments} {env : Environment} {t : Settings} {b : Backend}
    (hb : (a.change env t).backend? = .ok b) :
    a.change env t =
      { t with
        window := a.window.getD t.window
        backend := a.backend.or t.backend
        model := (a.model.or t.model).or (if b = .ollama then env "OLLAMA_MODEL" else none)
        key := t.key.or (if b.needsKey then env b.keyVariable else none) } := by
  have hflags : (t.withFlags a.window a.backend a.model).backend? = .ok b := by
    rw [← hb, ReviewArguments.change, withEnvironment_eq]
    rfl
  rw [ReviewArguments.change, withEnvironment_eq, environmentKey, environmentModel, hflags]
  rfl

namespace World

variable (w : World)

/-- The one file of settings: the project's, or else the user's. -/
theorem settingsFile_eq :
    w.settingsFile =
      ((w.disk.content? Settings.fileName).map fun content => (w.settingsPath, content)).or
        w.userSettings := by
  rw [settingsFile]
  cases w.disk.content? Settings.fileName <;> simp

/-- Settings of a run depend on the world by the one file and the environment. -/
theorem reviewSettings_congr {v w : World} (hfile : v.settingsFile = w.settingsFile)
    (henv : v.environment = w.environment) (a : ReviewArguments) :
    v.reviewSettings a = w.reviewSettings a := by
  rw [reviewSettings, reviewSettings, hfile, henv]

variable {w} {a : ReviewArguments} {s : Settings}

/-- A review that has a plan works with its effective settings. -/
theorem asking_of_planReview (h : w.reviewSettings a = .ok s) {plan : ReviewPlan}
    (hplan : w.planReview a = .ok plan) :
    plan.settings = s ∧ w.asking a s = .ok plan.asking := by
  simp only [planReview, bind_eq_ok_iff, mapError_eq_ok_iff, pure, Except.pure,
    Except.ok.injEq] at hplan
  obtain ⟨t, ht, asking, hasking, -, -, files, -, rfl⟩ := hplan
  obtain rfl : t = s := Except.ok.inj (ht.symm.trans h)
  exact ⟨rfl, hasking⟩

/-- Where feedback comes from when there is a backend to ask. -/
theorem asking_eq {cs : ClientSettings} (hcs : s.clientSettings = .ok cs)
    (hfeedback : a.feedback = none) :
    w.asking a s =
      if a.isAlone = true ∨ s.isEnabled = false then .ok .disabled
      else if s.key = none ∧ cs.backend.needsKey then
        .ok (.unavailable (.missingKey cs.backend.keyVariable cs.backend.signup))
      else .ok (.client ⟨cs, s.key.getD ""⟩) := by
  rw [asking, hfeedback]
  by_cases hoff : a.isAlone = true ∨ s.isEnabled = false
  · rw [if_pos hoff]
    exact if_pos (by simpa using hoff)
  · rw [if_neg hoff]
    refine (if_neg (by simpa using hoff)).trans ?_
    rw [askingClient, hcs]
    cases s.key with
    | some key => rfl
    | none => cases hneeds : cs.backend.needsKey <;> simp [Except.map, Except.mapError, hneeds]

/-- The reviewer is unavailable just if it is asked without the key that it needs. -/
theorem asking_eq_unavailable_iff {cs : ClientSettings} (hcs : s.clientSettings = .ok cs)
    (failure : Failure) :
    w.asking a s = .ok (.unavailable failure) ↔
      (s.key = none ∧ cs.backend.needsKey ∧ a.isAlone = false ∧ s.isEnabled = true ∧
        a.feedback = none) ∧
      failure = .missingKey cs.backend.keyVariable cs.backend.signup := by
  cases hfeedback : a.feedback with
  | some path =>
    -- saved feedback is read, or the run is refused
    rw [asking, hfeedback]
    dsimp only
    cases w.readText path <;> simp
  | none =>
    rw [asking_eq hcs hfeedback]
    by_cases hoff : a.isAlone = true ∨ s.isEnabled = false
    · rw [if_pos hoff]
      rcases hoff with hoff | hoff <;> simp [hoff]
    · rw [if_neg hoff]
      rw [not_or, Bool.not_eq_true, Bool.not_eq_false] at hoff
      by_cases hkey : s.key = none ∧ cs.backend.needsKey = true
      · rw [if_pos hkey]
        simp [hoff, hkey, eq_comm]
      · rw [if_neg hkey]
        simp only [Except.ok.injEq, reduceCtorEq, false_iff]
        rintro ⟨⟨hnone, hneeds, -⟩, -⟩
        exact hkey ⟨hnone, hneeds⟩

/-- **Each setting is the first one that is defined.** Let a review pass the check of its settings.
The only file that matters is the project's if there is one, else the user's. With what that file
defines, the window and the backend come from the flag, the file or the default. The model comes
from the flag, the file, for the backend on the user's machine a variable, or the default of the
backend. The key comes from the file, or from the variable of the backend that is asked in the end.
The reviewer is unavailable just if that backend needs a key, there is none, reviewing is enabled
and there is no saved feedback. What the environment does to settings keeps each value that is
there, concerns the key and the model only, is nothing if the backend is unknown, and is done at
once. -/
theorem effective_settings (w : World) (a : ReviewArguments) (s : Settings)
    (h : w.reviewSettings a = .ok s) :
    (∀ content, w.disk.content? Settings.fileName = some content →
      ∀ user, { w with userSettings := user }.reviewSettings a = .ok s) ∧
    (w.disk.content? Settings.fileName = none →
      ∀ disk : Disk, disk.content? Settings.fileName = none →
        { w with disk := disk }.reviewSettings a = .ok s) ∧
    (∃ f cs,
      FileDefines (((w.disk.content? Settings.fileName).map fun content =>
        (w.settingsPath, content)).or w.userSettings) f ∧
      s.clientSettings = .ok cs ∧
      s.window = (a.window.or f.window).getD 3 ∧
      (a.backend.or f.backend).elim (.ok .openAi) Backend.parse = .ok cs.backend ∧
      cs.modelName =
        ((a.model.or f.model).or
          (if cs.backend = .ollama then w.environment "OLLAMA_MODEL" else none)).getD
            cs.backend.defaultModel ∧
      s.key = f.key.or
        (if cs.backend.needsKey then w.environment cs.backend.keyVariable else none) ∧
      s.isEnabled = f.isEnabled.getD true ∧
      (∀ failure, w.asking a s = .ok (.unavailable failure) ↔
        (s.key = none ∧ cs.backend.needsKey ∧ a.isAlone = false ∧ s.isEnabled = true ∧
          a.feedback = none) ∧
        failure = .missingKey cs.backend.keyVariable cs.backend.signup) ∧
      ∀ plan, w.planReview a = .ok plan → plan.settings = s ∧ w.asking a s = .ok plan.asking) ∧
    ∀ (t : Settings) (env : Environment),
      (∀ key, t.key = some key → (t.withEnvironment env).key = some key) ∧
      (∀ model, t.model = some model → (t.withEnvironment env).model = some model) ∧
      { t.withEnvironment env with key := t.key, model := t.model } = t ∧
      ((∀ b, t.backend? ≠ .ok b) → t.withEnvironment env = t) ∧
      (t.withEnvironment env).withEnvironment env = t.withEnvironment env := by
  refine ⟨fun content hcontent user => ?_, fun hnone disk hdisk => ?_, ?_, fun t env => ?_⟩
  · refine (reviewSettings_congr (v := { w with userSettings := user }) (w := w) ?_ rfl a).trans h
    simp [settingsFile_eq, hcontent, settingsPath]
  · refine (reviewSettings_congr (v := { w with disk := disk }) (w := w) ?_ rfl a).trans h
    simp [settingsFile_eq, hnone, hdisk]
  · obtain ⟨t, ht, rfl, husable⟩ := reviewSettings_eq_ok_iff.1 h
    obtain ⟨f, hf, hcompletes⟩ := exists_fileDefines_of_loads ht
    obtain ⟨cs, hcs⟩ := exists_clientSettings husable
    obtain ⟨hbackend, hmodel⟩ := clientSettings_eq_ok hcs
    have hchange := change_eq hbackend
    refine ⟨f, cs, w.settingsFile_eq ▸ hf, hcs, ?_, ?_, ?_, ?_, ?_,
      asking_eq_unavailable_iff hcs, fun plan => asking_of_planReview h⟩
    · rw [hchange, Option.getD_or, hcompletes.window]
    · rw [backend?_eq_ok_iff, hchange, hcompletes.backend] at hbackend
      exact hbackend
    · rw [ClientSettings.modelName, hmodel, hchange, hcompletes.model]
    · rw [hchange, hcompletes.key]
    · rw [hchange, hcompletes.isEnabled]
  · exact ⟨fun _ => t.withEnvironment_key env, fun _ => t.withEnvironment_model env,
      t.withEnvironment_rest env, t.withEnvironment_of_unknown env, t.withEnvironment_idem env⟩

/-- A flag takes the place of the backend in the project's file. The variable for the model is then
read, and what the user's file says does not matter. -/
theorem effective_settings_of_flag :
    let w : World :=
      { disk := ⟨.directory [("revisor.toml",
          .file (.ok "[ai]\nbackend = \"anthropic\"\n".toUTF8))], []⟩
        workPath := "/"
        userSettings := some ("/config.toml", .ok "[ai]\nmodel = \"mine\"\n".toUTF8)
        environment := fun name => if name = "OLLAMA_MODEL" then some "local" else none }
    let a : ReviewArguments := { paths := ["a.py"], backend := some "Ollama" }
    let s : Settings := { backend := some "Ollama", model := some "local" }
    w.reviewSettings a = .ok s ∧
      (∀ user, { w with userSettings := user }.reviewSettings a = .ok s) ∧
      ∃ cs, s.clientSettings = .ok cs ∧ Backend.parse "Ollama" = .ok cs.backend ∧
        ∀ failure, w.asking a s ≠ .ok (.unavailable failure) := by
  intro w a s
  have h : w.reviewSettings a = .ok s := by decide +kernel
  have hcontent : w.disk.content? Settings.fileName =
      some (.ok "[ai]\nbackend = \"anthropic\"\n".toUTF8) := by decide +kernel
  obtain ⟨hproject, -, ⟨f, cs, -, hcs, -, hbackend, -, -, -, hunavailable, -⟩, -⟩ :=
    effective_settings w a s h
  have hollama : cs.backend = .ollama := by
    have hparse : Backend.parse "Ollama" = .ok .ollama := by decide +kernel
    exact Except.ok.inj (hbackend.symm.trans hparse)
  refine ⟨h, hproject _ hcontent, cs, hcs, hbackend, fun failure hasking => ?_⟩
  obtain ⟨⟨-, hneeds, -⟩, -⟩ := (hunavailable failure).1 hasking
  rw [hollama] at hneeds
  cases hneeds

end World

end Command

end CodeReview
