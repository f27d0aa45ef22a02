import CodeReview.Proofs.Feedback.FirstTrigger
import CodeReview.Proofs.Text.PatternTransfer

/-!
# Lines within longer lines

A trigger in a line is also in a longer line that holds it between spaces (`HasTrigger.surrounded`).
So the first row with a trigger in the longer line is not below the one of the line itself
(`FirstTriggered.surrounded`): text around a line keeps its category or gives it one that comes
earlier (`classifyLine_surrounded`).
-/

set_option autoImplicit false

namespace CodeReview.Feedback

open Text

variable {table : List (Category × List String)} {row : Category × List String} {line : List Char}

theorem HasTrigger.surrounded {patterns : List String} (h : HasTrigger patterns line)
    (pre post : List Char) : HasTrigger patterns (pre ++ ' ' :: (line ++ ' ' :: post)) := by
  obtain ⟨text, htext, p, hp, hfound⟩ := h
  exact ⟨text, htext, p, hp, Pattern.found_between hfound (by decide) (by decide) pre post⟩

/-- A row with a trigger in a line is the first one or comes after it. -/
theorem exists_firstTriggered {i : Nat} (hrow : table[i]? = some row) (h : HasTrigger row.2 line) :
    ∃ j ≤ i, ∃ first, table[j]? = some first ∧ FirstTriggered table line first.1 := by
  induction table generalizing i with
  | nil => cases hrow
  | cons head table ih =>
    by_cases hhead : HasTrigger head.2 line
    · exact ⟨0, i.zero_le, head, rfl, firstTriggered_cons.2 (.inl ⟨hhead, rfl⟩)⟩
    · cases i with
      | zero =>
        obtain rfl : head = row := Option.some.inj hrow
        exact absurd h hhead
      | succ i =>
        obtain ⟨j, hj, first, hfirst, hcat⟩ := ih hrow
        exact ⟨j + 1, Nat.succ_le_succ hj, first, hfirst,
          firstTriggered_cons.2 (.inr ⟨hhead, hcat⟩)⟩

/-- Between spaces the first row with a trigger is the same or an earlier one. -/
theorem FirstTriggered.surrounded (hnodup : (table.map (·.1)).Nodup) {i : Nat}
    (hrow : table[i]? = some row) (h : FirstTriggered table line row.1) (pre post : List Char) :
    ∃ j ≤ i, ∃ first, table[j]? = some first ∧
      FirstTriggered table (pre ++ ' ' :: (line ++ ' ' :: post)) first.1 := by
  obtain ⟨before, patterns, after, rfl, htrigger, -⟩ := h
  have hfirst :
      (before ++ (row.1, patterns) :: after)[before.length]? = some (row.1, patterns) := by
    rw [List.getElem?_append_right (Nat.le_refl _), Nat.sub_self, List.getElem?_cons_zero]
  -- no category has two rows, so the first row with a trigger is the given one
  have hlt : before.length < ((before ++ (row.1, patterns) :: after).map (·.1)).length := by
    simp
  obtain rfl : before.length = i := (List.getElem?_inj hlt hnodup).1 <| by
    rw [List.getElem?_map, List.getElem?_map, hrow, hfirst, Option.map_some, Option.map_some]
  exact exists_firstTriggered hfirst (htrigger.surrounded pre post)

/-- **Text around a line never takes its category away.** If a line is of the category of some row,
then any longer line with this one between two spaces is of the category of that row or of an
earlier one. -/
theorem classifyLine_surrounded (line pre post : List Char) (i : Fin triggers.length)
    (h : standard.classifyLine line = some triggers[i].1) :
    ∃ j ≤ i,
      standard.classifyLine (pre ++ [' '] ++ line ++ [' '] ++ post) = some triggers[j].1 := by
  rw [Classifier.classifyLine_iff ofTable?_triggers] at h
  obtain ⟨j, hj, first, hfirst, hcat⟩ :=
    h.surrounded (by decide) (List.getElem?_eq_getElem i.isLt) pre post
  obtain ⟨hlt, rfl⟩ := List.getElem?_eq_some_iff.1 hfirst
  refine ⟨⟨j, hlt⟩, hj, (Classifier.classifyLine_iff ofTable?_triggers _ _).2 ?_⟩
  simpa using hcat

/-- A remark on a bug moves up to style when it comes to be about naming as well. -/
theorem classifyLine_surrounded_bug :
    let i : Fin triggers.length := ⟨1, by decide⟩
    standard.classifyLine "a bug".toList = some triggers[i].1 ∧
      ∃ j ≤ i, standard.classifyLine
        ("Bad naming:".toList ++ [' '] ++ "a bug".toList ++ [' '] ++ "!".toList) =
          some triggers[j].1 := by
  intro i
  have hbug : standard.classifyLine "a bug".toList = some triggers[i].1 := by decide +kernel
  exact ⟨hbug, classifyLine_surrounded _ _ _ _ hbug⟩

end CodeReview.Feedback
