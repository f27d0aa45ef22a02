import CodeReview.Proofs.Results
import CodeReview.Settings.Basic

/-!
# Usable settings

The check of settings passes for those that a run can start with (`Settings.check_eq_ok_iff`). The
settings of a file are loaded iff it is opened and holds a text that can be read and is usable
(`Settings.load_eq_ok_iff`), and settings that are checked after a change are the changed ones
(`Settings.changed_eq_ok_iff`).
-/

set_option autoImplicit false

namespace CodeReview

open Files Reviewer

namespace Settings

/-! ## Settings to start with -/

/-- Settings that a run can start with. -/
structure Usable (s : Settings) : Prop where
  window : 1 ≤ s.window
  backend : ∀ name ∈ s.backend, Text.toLower name ∈ "claude" :: Backend.all.map Backend.name
  time : s.timeoutSeconds ≠ some 0
  tokens : s.maxTokens ≠ some 0
  temperature : ∀ t ∈ s.temperature, t.isBetween 0 2

theorem ofName?_isSome_iff (name : String) :
    (Backend.ofName? name).isSome ↔ name ∈ "claude" :: Backend.all.map Backend.name := by
  rw [Backend.ofName?, List.mem_cons, List.mem_map]
  split
  case isTrue h => simp [h]
  case isFalse h => simp [h, List.find?_isSome]

/-- There is a backend to ask iff none is named or the name is that of one. -/
theorem exists_backend?_iff (s : Settings) :
    (∃ b, s.backend? = .ok b) ↔
      ∀ name ∈ s.backend, Text.toLower name ∈ "claude" :: Backend.all.map Backend.name := by
  rw [backend?]
  cases s.backend with
  | none => simp
  | some name =>
    simp only [Option.mem_some_iff, forall_eq', ← ofName?_isSome_iff, Backend.parse,
      mapError_eq_ok_iff]
    cases Backend.ofName? (Text.toLower name) <;> simp

theorem checkWindow_eq_ok_iff {size : Nat} {u : Unit} : checkWindow size = .ok u ↔ 1 ≤ size := by
  rw [checkWindow]
  split <;> simp <;> omega

/-- The settings that pass the check are the usable ones. -/
theorem check_eq_ok_iff (s : Settings) : s.check = .ok () ↔ s.Usable := by
  have hcheck : s.check = .ok () ↔ 1 ≤ s.window ∧ (∃ b, s.backend? = .ok b) ∧
      s.timeoutSeconds ≠ some 0 ∧ s.maxTokens ≠ some 0 ∧ ∀ t ∈ s.temperature, t.isBetween 0 2 := by
    simp only [check, bind_eq_ok_iff, throwing_eq_ok_iff, checkWindow_eq_ok_iff,
      exists_and_left, exists_and_right, exists_const]
    cases s.temperature with
    | none => simp [pure, Except.pure]
    | some t =>
      cases t.isBetween 0 2 <;> simp [pure, Except.pure, throw, throwThe, MonadExceptOf.throw]
  rw [hcheck, exists_backend?_iff]
  exact ⟨fun ⟨hwindow, hbackend, htime, htokens, htemperature⟩ =>
      ⟨hwindow, hbackend, htime, htokens, htemperature⟩,
    fun h => ⟨h.window, h.backend, h.time, h.tokens, h.temperature⟩⟩

/-! ## Loaded settings -/

/-- The settings in a file, or the default ones if there is none: the file is opened and holds a
text, the text can be read, and what it says is usable. -/
inductive Loads : Option (String × Content) → Settings → Prop
  | default : Loads none {}
  | file {path : String} {bytes : ByteArray} {text : String} {s : Settings}
    (htext : String.fromUTF8? bytes = some text) (hs : parse text = some s) (husable : s.Usable) :
    Loads (some (path, .ok bytes)) s

/-- Settings that are checked after a change are the changed ones, if these are usable. -/
theorem changed_eq_ok_iff {loaded : Except ReviewError Settings} {f : Settings → Settings}
    {s : Settings} :
    (do let t ← loaded; (f t).check; return f t) = Except.ok s ↔
      ∃ t, loaded = .ok t ∧ f t = s ∧ s.Usable := by
  simp only [bind_eq_ok_iff, exists_and_right, pure, Except.pure, Except.ok.injEq]
  refine exists_congr fun t => and_congr_right fun _ => ⟨?_, ?_⟩
  · rintro ⟨⟨_, hcheck⟩, rfl⟩
    exact ⟨rfl, (f t).check_eq_ok_iff.1 hcheck⟩
  · rintro ⟨rfl, husable⟩
    exact ⟨⟨(), (f t).check_eq_ok_iff.2 husable⟩, rfl⟩

theorem ofFile_eq_ok_iff {path : String} {content : Content} {s : Settings} :
    ofFile path content = .ok s ↔
      ∃ bytes text, content = .ok bytes ∧ String.fromUTF8? bytes = some text ∧
        parse text = some s := by
  simp only [ofFile, bind_eq_ok_iff, mapError_eq_ok_iff, textOf_eq_ok_iff]
  constructor
  · rintro ⟨text, ⟨bytes, hopen, htext⟩, hs⟩
    refine ⟨bytes, text, hopen, htext, ?_⟩
    cases hparse : parse text with
    | none => simp [hparse, throw, throwThe, MonadExceptOf.throw] at hs
    | some t => simpa [hparse, pure, Except.pure] using hs
  · rintro ⟨bytes, text, hopen, htext, hs⟩
    exact ⟨text, ⟨bytes, hopen, htext⟩, by simp [hs, pure, Except.pure]⟩

theorem usable_default : Usable {} where
  window := by decide
  backend := by simp
  time := by simp
  tokens := by simp
  temperature := by simp

theorem load_eq_ok_iff {file : Option (String × Content)} {s : Settings} :
    load file = .ok s ↔ Loads file s := by
  cases file with
  | none =>
    rw [load]
    refine (changed_eq_ok_iff (f := id)).trans ⟨?_, ?_⟩
    · rintro ⟨t, ht, rfl, -⟩
      cases ht
      exact .default
    · rintro ⟨⟩
      exact ⟨_, rfl, rfl, usable_default⟩
  | some entry =>
    obtain ⟨path, content⟩ := entry
    rw [load]
    refine (changed_eq_ok_iff (f := id)).trans ⟨?_, ?_⟩
    · rintro ⟨t, ht, rfl, husable⟩
      obtain ⟨bytes, text, rfl, htext, hs⟩ := ofFile_eq_ok_iff.1 ht
      exact .file htext hs husable
    · intro h
      cases h with
      | file htext hs husable => exact ⟨s, ofFile_eq_ok_iff.2 ⟨_, _, rfl, htext, hs⟩, rfl, husable⟩

end Settings

end CodeReview
