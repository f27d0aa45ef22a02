import CodeReview.Files.Sources
import CodeReview.Proofs.ErasedRepeats
import Mathlib.Data.List.Lex
import Mathlib.Data.Prod.Lex
import Mathlib.Data.String.Basic

/-!
# The order of paths

Paths are ordered by their components (`Component.key`, `componentsLe_iff`): it is a linear order,
apart from paths with equal components. So the files that a search gives stand in strictly
ascending order (`collectSources_ascending`), and paths that already do are left as they are
(`collectSources_of_ascending`).
-/

set_option autoImplicit false

namespace CodeReview.Files

/-! ## Components -/

namespace Component

/-- The text of a component with a name. -/
def text : Component → String
  | name s => s
  | _ => ""

/-- What a component is ordered by: its kind, and then its text. -/
def key (c : Component) : Lex (Nat × String) := toLex (c.rank, c.text)

theorem key_injective {a b : Component} (h : a.key = b.key) : a = b := by
  have hpair : (a.rank, a.text) = (b.rank, b.text) := toLex.injective h
  obtain ⟨hrank, htext⟩ := Prod.mk.inj hpair
  cases a <;> cases b <;> first | rfl | (cases hrank; done) | (cases htext; rfl)

theorem before_iff {a b : Component} : a.before b ↔ a.key < b.key := by
  rw [key, key, Prod.Lex.toLex_lt_toLex]
  cases a <;> cases b <;> simp [before, rank, text]

end Component

theorem cons_le_cons_iff {a b : Lex (Nat × String)} {as bs : List (Lex (Nat × String))} :
    a :: as ≤ b :: bs ↔ a < b ∨ a = b ∧ as ≤ bs := by
  rw [le_iff_lt_or_eq, List.cons_lt_cons_iff, List.cons_eq_cons, le_iff_lt_or_eq, or_assoc,
    ← and_or_left]

theorem componentsLe_iff {as bs : List Component} :
    componentsLe as bs ↔ as.map Component.key ≤ bs.map Component.key := by
  fun_induction componentsLe as bs with
  | case1 bs =>
    rw [List.map_nil, ← not_lt]
    simp
  | case2 a as =>
    rw [List.map_nil, List.map_cons, ← not_lt]
    simp
  | case3 a as b bs h =>
    rw [List.map_cons, List.map_cons, cons_le_cons_iff]
    exact ⟨fun _ => .inl (Component.before_iff.1 h), fun _ => rfl⟩
  | case4 a as b bs h h' =>
    have hlt : b.key < a.key := Component.before_iff.1 h'
    rw [List.map_cons, List.map_cons, cons_le_cons_iff]
    refine ⟨fun hf => absurd hf Bool.false_ne_true, ?_⟩
    rintro (hab | ⟨hab, -⟩)
    · exact absurd hab (lt_asymm hlt)
    · exact absurd hab (ne_of_gt hlt)
  | case5 a as b bs h h' ih =>
    have heq : a.key = b.key := by
      rw [Component.before_iff] at h h'
      exact le_antisymm (not_lt.1 h') (not_lt.1 h)
    rw [List.map_cons, List.map_cons, cons_le_cons_iff, ih, heq]
    simp

/-! ## Paths -/

theorem pathLe_iff {p q : String} : pathLe p q ↔
    (components p).map Component.key ≤ (components q).map Component.key := componentsLe_iff

theorem pathLe_trans {p q r : String} (hpq : pathLe p q) (hqr : pathLe q r) : pathLe p r := by
  rw [pathLe_iff] at hpq hqr ⊢
  exact le_trans hpq hqr

theorem pathLe_total (p q : String) : pathLe p q ∨ pathLe q p := by
  rw [pathLe_iff, pathLe_iff]
  exact le_total _ _

/-- Paths of which each is before the other have equal components. -/
theorem components_eq_of_pathLe {p q : String} (hpq : pathLe p q) (hqp : pathLe q p) :
    components p = components q := by
  rw [pathLe_iff] at hpq hqp
  exact List.map_injective_iff.2 (fun _ _ => Component.key_injective) (le_antisymm hpq hqp)

/-- A path comes before another one, which has other components. -/
def PathBefore (p q : String) : Prop := pathLe p q ∧ components p ≠ components q

instance (p q : String) : Decidable (PathBefore p q) := inferInstanceAs (Decidable (_ ∧ _))

/-! ## Collected files -/

theorem sameComponents_iff {p q : String} :
    sameComponents p q ↔ components p = components q := beq_iff_eq

/-- Paths in order, of which some with equal components are left out, are in strictly ascending
order. -/
theorem eraseRepsBy_ascending {paths : List String} (h : paths.Pairwise fun p q => pathLe p q) :
    (paths.eraseRepsBy sameComponents).Pairwise PathBefore := by
  have hbetween : ∀ p q r, pathLe p q → pathLe q r → sameComponents p r → sameComponents p q := by
    intro p q r hpq hqr hpr
    have hqp : pathLe q p := by rwa [pathLe, sameComponents_iff.1 hpr]
    exact sameComponents_iff.2 (components_eq_of_pathLe hpq hqp)
  exact (pairwise_eraseRepsBy h hbetween).imp fun ⟨hpq, hne⟩ =>
    ⟨hpq, fun he => hne (sameComponents_iff.2 he)⟩

theorem sorted_pathLe (paths : List String) :
    (paths.mergeSort pathLe).Pairwise fun p q => pathLe p q := by
  have htrans : ∀ p q r, pathLe p q → pathLe q r → pathLe p r := fun _ _ _ => pathLe_trans
  have htotal : ∀ p q, (pathLe p q || pathLe q p) = true := fun p q =>
    (Bool.or_eq_true _ _).mpr (pathLe_total p q)
  exact List.pairwise_mergeSort htrans htotal paths

/-- A search that succeeds gives at least one file, and the files are in strictly ascending
order. -/
theorem collectSources_ascending {d : Disk} {extensions paths files : List String}
    (h : collectSources d extensions paths = .ok files) :
    files ≠ [] ∧ files.Pairwise PathBefore := by
  rw [collectSources] at h
  cases hfound : allFiles d extensions paths with
  | error fault =>
    rw [hfound] at h
    cases h
  | ok found =>
    rw [hfound] at h
    simp only [bind, Except.bind] at h
    split at h
    · cases h
    · rename_i hne
      obtain rfl := Except.ok.inj h
      exact ⟨hne, eraseRepsBy_ascending (sorted_pathLe found)⟩

/-- Files that are found in strictly ascending order are given as they are. -/
theorem collectSources_of_ascending {d : Disk} {extensions paths files : List String}
    (h : allFiles d extensions paths = .ok files) (hne : files ≠ [])
    (hasc : files.Pairwise PathBefore) : collectSources d extensions paths = .ok files := by
  have hsort : files.mergeSort pathLe = files :=
    List.mergeSort_of_pairwise (hasc.imp And.left)
  have hkept : files.eraseRepsBy sameComponents = files :=
    eraseRepsBy_of_pairwise (hasc.imp fun hbefore he => hbefore.2 (sameComponents_iff.1 he))
  rw [collectSources, h]
  simp only [bind, Except.bind, hsort, hkept]

end CodeReview.Files
