import CodeReview.Feedback.Classifier

/-!
# The first row with a trigger decides

`FirstTriggered table line c`: the first row of the table with a pattern that stands in the line is
of category `c`. A classifier that is read from a table gives a line just that category
(`classifyLine_iff`), and the table of triggers for English can be read (`ofTable?_triggers`).
-/

set_option autoImplicit false

namespace CodeReview.Feedback

open Text

/-- One of some written patterns stands in a line. -/
def HasTrigger (patterns : List String) (line : List Char) : Prop :=
  ∃ text ∈ patterns, ∃ p, Pattern.read text = some p ∧ p.found line

/-- The first row of a table with a pattern that stands in a line is of a category. -/
def FirstTriggered (table : List (Category × List String)) (line : List Char) (c : Category) :
    Prop :=
  ∃ before patterns after, table = before ++ (c, patterns) :: after ∧ HasTrigger patterns line ∧
    ∀ row ∈ before, ¬ HasTrigger row.2 line

theorem not_firstTriggered_nil {line : List Char} {c : Category} : ¬ FirstTriggered [] line c := by
  rintro ⟨before, patterns, after, h, -⟩
  cases before <;> cases h

theorem firstTriggered_cons {row : Category × List String} {table : List (Category × List String)}
    {line : List Char} {c : Category} : FirstTriggered (row :: table) line c ↔
      HasTrigger row.2 line ∧ row.1 = c ∨ ¬ HasTrigger row.2 line ∧ FirstTriggered table line c := by
  constructor
  · rintro ⟨before, patterns, after, h, ht, hb⟩
    cases before with
    | nil =>
      cases h
      exact .inl ⟨ht, rfl⟩
    | cons first before =>
      cases h
      exact .inr ⟨hb row List.mem_cons_self, before, patterns, after, rfl, ht,
        fun r hr => hb r (List.mem_cons_of_mem _ hr)⟩
  · rintro (⟨ht, rfl⟩ | ⟨hn, before, patterns, after, rfl, ht, hb⟩)
    · exact ⟨[], row.2, table, rfl, ht, fun r hr => absurd hr List.not_mem_nil⟩
    · refine ⟨row :: before, patterns, after, rfl, ht, fun r hr => ?_⟩
      rcases List.mem_cons.1 hr with rfl | hr
      · exact hn
      · exact hb r hr

namespace Classifier

theorem isTriggered_iff {patterns : List String} {ps : List Pattern}
    (h : patterns.mapM Pattern.read = some ps) (line : List Char) :
    isTriggered ps line ↔ HasTrigger patterns line := by
  induction patterns generalizing ps with
  | nil =>
    cases h
    simp [isTriggered, HasTrigger]
  | cons text patterns ih =>
    simp only [List.mapM_cons, Option.bind_eq_bind, Option.bind_eq_some_iff, Option.pure_def,
      Option.some.injEq] at h
    obtain ⟨p, hp, qs, hqs, rfl⟩ := h
    have ih := ih hqs
    simp only [isTriggered, HasTrigger] at ih
    simp [isTriggered, HasTrigger, hp, ih]

theorem readRow_spec {row : Category × List String} {r : Category × (List Char → Bool)}
    (h : readRow? row = some r) :
    r.1 = row.1 ∧ ∀ line, r.2 line ↔ HasTrigger row.2 line := by
  obtain ⟨ps, hps, rfl⟩ := Option.map_eq_some_iff.1 h
  exact ⟨rfl, isTriggered_iff hps⟩

/-- A classifier gives a line the category of the first row of its table with a trigger in it. -/
theorem classifyLine_iff {table : List (Category × List String)} {k : Classifier}
    (h : ofTable? table = some k) (line : List Char) (c : Category) :
    k.classifyLine line = some c ↔ FirstTriggered table line c := by
  obtain ⟨rows, hrows, rfl⟩ := Option.map_eq_some_iff.1 h
  clear h
  induction table generalizing rows with
  | nil =>
    cases hrows
    simp [classifyLine, not_firstTriggered_nil]
  | cons row table ih =>
    simp only [List.mapM_cons, Option.bind_eq_bind, Option.bind_eq_some_iff, Option.pure_def,
      Option.some.injEq] at hrows
    obtain ⟨r, hr, rs, hrs, rfl⟩ := hrows
    obtain ⟨hcat, htest⟩ := readRow_spec hr
    have ih := ih rs hrs
    rw [classifyLine] at ih
    rw [firstTriggered_cons, ← htest, ← hcat, ← ih, classifyLine, List.find?_cons]
    cases r.2 line <;> simp

end Classifier

theorem ofTable?_triggers : Classifier.ofTable? triggers = some standard := by
  have h : (Classifier.ofTable? triggers).isSome := by decide +kernel
  rw [standard, Option.getD_of_ne_none]
  exact Option.isSome_iff_ne_none.1 h

end CodeReview.Feedback
