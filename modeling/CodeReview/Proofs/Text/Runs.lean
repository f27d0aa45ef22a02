import CodeReview.Rules.UnusedImport
import Mathlib.Data.List.Basic

/-!
# Runs of characters

`IsRun kind r cs` says that `r` is one of the longest runs of characters of a kind in a text, and
`runs` gives just these (`mem_runs_iff`). All that is known of `runs` follows from one equation: a
character of another kind separates the runs before it from those after it (`runs_append`).
-/

set_option autoImplicit false

namespace CodeReview.Rules

variable {kind : Char → Bool}

/-- A run of characters of a kind that cannot be made longer on either side. -/
def IsRun (kind : Char → Bool) (r cs : List Char) : Prop :=
  r ≠ [] ∧ (∀ c ∈ r, kind c) ∧ ∃ before after, cs = before ++ r ++ after ∧
    (∀ c ∈ before.getLast?, ¬ kind c) ∧ ∀ c ∈ after.head?, ¬ kind c

theorem runsFrom_append (run x : List Char) {c : Char} (hc : ¬ kind c) (y : List Char) :
    runsFrom kind run (x ++ c :: y) = runsFrom kind run x ++ runs kind y := by
  induction x generalizing run with
  | nil =>
    simp only [List.nil_append, runsFrom, if_neg hc, runs]
    split_ifs <;> rfl
  | cons d x ih =>
    rw [List.cons_append, runsFrom, runsFrom, ih, ih]
    split_ifs <;> rfl

theorem runs_append (x : List Char) {c : Char} (hc : ¬ kind c) (y : List Char) :
    runs kind (x ++ c :: y) = runs kind x ++ runs kind y :=
  runsFrom_append [] x hc y

@[simp] theorem runs_nil : runs kind [] = [] := rfl

theorem runs_cons {c : Char} (hc : ¬ kind c) (y : List Char) : runs kind (c :: y) = runs kind y :=
  runs_append [] hc y

theorem runs_skip {x : List Char} (hx : ∀ c ∈ x, ¬ kind c) (y : List Char) :
    runs kind (x ++ y) = runs kind y := by
  induction x with
  | nil => rfl
  | cons c x ih =>
    rw [List.forall_mem_cons] at hx
    rw [List.cons_append, runs_cons hx.1, ih hx.2]

theorem runsFrom_of_all (run : List Char) {x : List Char} (hx : ∀ c ∈ x, kind c) :
    runsFrom kind run x = if (x.reverse ++ run).isEmpty then [] else [run.reverse ++ x] := by
  induction x generalizing run with
  | nil => rw [runsFrom, List.reverse_nil, List.nil_append, List.append_nil]
  | cons c x ih =>
    rw [List.forall_mem_cons] at hx
    rw [runsFrom, if_pos hx.1, ih _ hx.2, List.reverse_cons, List.reverse_cons, List.append_assoc,
      List.append_assoc, List.singleton_append, List.singleton_append]

/-- A text of the kind is one run. -/
theorem runs_of_all {x : List Char} (hne : x ≠ []) (hx : ∀ c ∈ x, kind c) : runs kind x = [x] := by
  rw [runs, runsFrom_of_all [] hx, if_neg (by simpa using hne)]
  rfl

/-- The first run of a text, with a character of another kind after it. -/
theorem runs_run_append {x : List Char} (hne : x ≠ []) (hx : ∀ c ∈ x, kind c) {y : List Char}
    (hy : ∀ c ∈ y.head?, ¬ kind c) : runs kind (x ++ y) = x :: runs kind y := by
  cases y with
  | nil => rw [List.append_nil, runs_of_all hne hx, runs_nil]
  | cons c y =>
    have hc : ¬ kind c := hy c rfl
    rw [runs_append x hc, runs_of_all hne hx, runs_cons hc, List.singleton_append]

/-- A text is of a kind, or it starts with some characters of the kind and one that is not. -/
theorem runs_induction (kind : Char → Bool) {P : List Char → Prop}
    (all : ∀ x, (∀ c ∈ x, kind c) → P x)
    (append : ∀ x c y, (∀ d ∈ x, kind d) → ¬ kind c → P y → P (x ++ c :: y))
    (cs : List Char) : P cs := by
  have hall : ∀ x, (∀ c ∈ x, kind c) → P (x ++ cs) := by
    induction cs with
    | nil => exact fun x hx => by rw [List.append_nil]; exact all x hx
    | cons c cs ih =>
      intro x hx
      by_cases hc : kind c
      · rw [List.append_cons]
        exact ih (x ++ [c]) (by simpa [or_imp, forall_and] using ⟨hx, hc⟩)
      · exact append x c cs hx hc (ih [] (by simp))
  exact hall [] (by simp)

theorem isRun_of_mem_runs {r cs : List Char} (h : r ∈ runs kind cs) : IsRun kind r cs := by
  have hself : ∀ x, (∀ c ∈ x, kind c) → r ∈ runs kind x → r ≠ [] ∧ r = x := fun x hx hr => by
    rcases eq_or_ne x [] with rfl | hne
    · simp at hr
    · rw [runs_of_all hne hx, List.mem_singleton] at hr
      exact ⟨hr ▸ hne, hr⟩
  induction cs using runs_induction kind with
  | all x hx =>
    obtain ⟨hne, rfl⟩ := hself x hx h
    exact ⟨hne, hx, [], [], by simp, by simp, by simp⟩
  | append x c y hx hc ih =>
    rw [runs_append x hc, List.mem_append] at h
    rcases h with h | h
    · obtain ⟨hne, rfl⟩ := hself x hx h
      exact ⟨hne, hx, [], c :: y, rfl, by simp, by simpa using hc⟩
    · obtain ⟨hne, hr, before, after, rfl, hb, ha⟩ := ih h
      refine ⟨hne, hr, x ++ c :: before, after, by simp, fun d hd => ?_, ha⟩
      rw [Option.mem_def, List.getLast?_append, List.getLast?_cons, Option.some_or] at hd
      cases hlast : before.getLast? with
      | none =>
        rw [hlast] at hd
        exact Option.some.inj hd ▸ hc
      | some e =>
        rw [hlast] at hd
        exact Option.some.inj hd ▸ hb e hlast

theorem IsRun.mem_runs {r cs : List Char} (h : IsRun kind r cs) : r ∈ runs kind cs := by
  obtain ⟨hne, hr, before, after, rfl, hb, ha⟩ := h
  have hrest : r ∈ runs kind (r ++ after) := by
    rw [runs_run_append hne hr ha]
    exact List.mem_cons_self
  rcases List.eq_nil_or_concat before with rfl | ⟨init, c, rfl⟩
  · exact hrest
  · have hc : ¬ kind c := hb c (by simp)
    rw [List.concat_eq_append, List.append_assoc, List.append_assoc, List.singleton_append,
      runs_append init hc]
    exact List.mem_append_right _ hrest

/-- The runs of a text are all of its longest runs. -/
theorem mem_runs_iff {r cs : List Char} : r ∈ runs kind cs ↔ IsRun kind r cs :=
  ⟨isRun_of_mem_runs, IsRun.mem_runs⟩

end CodeReview.Rules
