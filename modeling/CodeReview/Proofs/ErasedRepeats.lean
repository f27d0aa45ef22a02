import Mathlib.Data.List.Basic

/-!
# Lists without repeats of neighbours

`List.eraseRepsBy r` keeps the first element of a list and then each one that `r` does not relate to
the one kept last. Every element that is erased is related to one that is kept
(`exists_mem_eraseRepsBy`). In a list in order the elements kept are unrelated, whatever stands
between them (`pairwise_eraseRepsBy`).
-/

set_option autoImplicit false

namespace CodeReview

variable {α : Type} {r : α → α → Bool} {R : α → α → Prop} {a b : α} {l : List α}

/-! ## The recursion -/

theorem eraseRepsBy_loop (a : α) (l acc : List α) :
    List.eraseRepsBy.loop r a l acc = acc.reverse ++ (a :: l).eraseRepsBy r := by
  induction l generalizing a acc with
  | nil => exact List.reverse_cons
  | cons b l ih =>
    rw [List.eraseRepsBy, List.eraseRepsBy.loop, List.eraseRepsBy.loop]
    cases r a b with
    | true => exact (ih a acc).trans (congrArg _ (ih a []).symm)
    | false =>
      simp only [ih b]
      rw [List.reverse_cons, List.append_assoc]
      rfl

theorem eraseRepsBy_cons_cons (a b : α) (l : List α) :
    (a :: b :: l).eraseRepsBy r =
      if r a b then (a :: l).eraseRepsBy r else a :: (b :: l).eraseRepsBy r := by
  rw [List.eraseRepsBy, List.eraseRepsBy.loop]
  cases r a b <;> exact eraseRepsBy_loop _ _ _

/-- The first element is kept. -/
theorem exists_eraseRepsBy_cons (a : α) (l : List α) :
    ∃ rest, (a :: l).eraseRepsBy r = a :: rest := by
  induction l with
  | nil => exact ⟨[], rfl⟩
  | cons b l ih =>
    rw [eraseRepsBy_cons_cons]
    split
    · exact ih
    · exact ⟨_, rfl⟩

/-! ## What is kept -/

theorem eraseRepsBy_eq_nil_iff : l.eraseRepsBy r = [] ↔ l = [] := by
  cases l with
  | nil => exact ⟨id, id⟩
  | cons a l =>
    obtain ⟨rest, hrest⟩ := exists_eraseRepsBy_cons (r := r) a l
    simp [hrest]

theorem eraseRepsBy_sublist (l : List α) : (l.eraseRepsBy r).Sublist l := by
  cases l with
  | nil => exact .slnil
  | cons a l =>
    induction l generalizing a with
    | nil => exact .refl [a]
    | cons b l ih =>
      rw [eraseRepsBy_cons_cons]
      split
      · exact (ih a).trans (.cons_cons a (List.sublist_cons_self b l))
      · exact (ih b).cons_cons a

/-- What is erased is related to an element that is kept. -/
theorem exists_mem_eraseRepsBy (h : a ∈ l) : ∃ b ∈ l.eraseRepsBy r, b = a ∨ r b a := by
  cases l with
  | nil => cases h
  | cons x l =>
    induction l generalizing x with
    | nil => exact ⟨x, List.mem_cons_self, .inl (List.mem_singleton.1 h).symm⟩
    | cons y l ih =>
      rw [eraseRepsBy_cons_cons]
      split
      case isTrue hxy =>
        rcases List.mem_cons.1 h with rfl | h
        · exact ih a List.mem_cons_self
        · rcases List.mem_cons.1 h with rfl | h
          · obtain ⟨rest, hrest⟩ := exists_eraseRepsBy_cons (r := r) x l
            exact ⟨x, hrest ▸ List.mem_cons_self, .inr hxy⟩
          · exact ih x (List.mem_cons_of_mem x h)
      case isFalse =>
        rcases List.mem_cons.1 h with rfl | h
        · exact ⟨a, List.mem_cons_self, .inl rfl⟩
        · obtain ⟨b, hb, hba⟩ := ih y h
          exact ⟨b, List.mem_cons_of_mem x hb, hba⟩

/-- No two elements that are kept from a list in order are related, if related elements are related
to all that stands between them. -/
theorem pairwise_eraseRepsBy (h : l.Pairwise R)
    (hbetween : ∀ a b c, R a b → R b c → r a c → r a b) :
    (l.eraseRepsBy r).Pairwise fun a b => R a b ∧ ¬ r a b := by
  cases l with
  | nil => exact .nil
  | cons a l =>
    induction l generalizing a with
    | nil => exact List.pairwise_singleton _ a
    | cons b l ih =>
      rw [eraseRepsBy_cons_cons]
      obtain ⟨ha, hl⟩ := List.pairwise_cons.1 h
      split
      case isTrue => exact ih a (h.sublist (.cons_cons a (List.sublist_cons_self b l)))
      case isFalse hab =>
        refine List.pairwise_cons.2 ⟨fun c hc => ?_, ih b hl⟩
        have hc : c ∈ b :: l := (eraseRepsBy_sublist _).mem hc
        refine ⟨ha c hc, fun hac => hab ?_⟩
        -- `b` stands between `a` and `c`, or is `c`
        rcases List.mem_cons.1 hc with rfl | hc
        · exact hac
        · exact hbetween a b c (ha b List.mem_cons_self) ((List.pairwise_cons.1 hl).1 c hc) hac

/-- Unrelated elements are all kept. -/
theorem eraseRepsBy_of_pairwise (h : l.Pairwise fun a b => ¬ r a b) : l.eraseRepsBy r = l := by
  cases l with
  | nil => rfl
  | cons a l =>
    induction l generalizing a with
    | nil => rfl
    | cons b l ih =>
      obtain ⟨ha, hl⟩ := List.pairwise_cons.1 h
      rw [eraseRepsBy_cons_cons, if_neg (ha b List.mem_cons_self), ih b hl]

/-! ## Repeats of an element -/

variable [DecidableEq α]

theorem mem_eraseReps : a ∈ l.eraseReps ↔ a ∈ l := by
  refine ⟨(eraseRepsBy_sublist l).mem, fun h => ?_⟩
  obtain ⟨b, hb, rfl | hba⟩ := exists_mem_eraseRepsBy (r := (· == ·)) h
  · exact hb
  · rwa [beq_iff_eq.1 hba] at hb

theorem pairwise_eraseReps (h : l.Pairwise R) (hR : ∀ a b, R a b → R b a → a = b) :
    l.eraseReps.Pairwise fun a b => R a b ∧ a ≠ b := by
  have hbetween : ∀ a b c, R a b → R b c → (a == c) = true → (a == b) = true := by
    intro a b c hab hbc hac
    obtain rfl := beq_iff_eq.1 hac
    exact beq_iff_eq.2 (hR a b hab hbc)
  exact (pairwise_eraseRepsBy h hbetween).imp fun ⟨hab, hne⟩ => ⟨hab, fun he => hne (beq_iff_eq.2 he)⟩

end CodeReview
