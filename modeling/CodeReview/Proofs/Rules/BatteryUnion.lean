import CodeReview.Proofs.MergeUnion
import CodeReview.Proofs.Review.CategorizedReport
import CodeReview.Rules.Basic

/-!
# A battery of rules is merged as a set

The findings of a battery by category stand in the order of its rules, and what two rules say stands
there twice. A merge forgets both: all that counts is what some rule of the battery remarks
(`Remarks`, `mem_messages_runCategorized`), and a category has an entry iff there is a remark for it
(`contains_runCategorized`). So the order of the rules, their repetition and the way in which a
battery is divided do not show in a merge.
-/

set_option autoImplicit false

namespace CodeReview.Rule

open Categorized

variable {rules rules' first second : List Rule} {u : SourceUnit} {c : Category} {m : String}

/-- A rule of a battery has a finding of a category with a message. -/
def Remarks (rules : List Rule) (u : SourceUnit) (c : Category) (m : String) : Prop :=
  ∃ r ∈ rules, ∃ f ∈ r.check u, f.category = c ∧ f.message = m

/-- More rules remark more. -/
theorem Remarks.mono (h : Remarks rules u c m) (hsub : ∀ r ∈ rules, r ∈ rules') :
    Remarks rules' u c m := by
  obtain ⟨r, hr, hf⟩ := h
  exact ⟨r, hsub r hr, hf⟩

theorem remarks_congr (h : ∀ r, r ∈ rules ↔ r ∈ rules') :
    Remarks rules u c m ↔ Remarks rules' u c m :=
  ⟨fun hr => hr.mono fun r => (h r).1, fun hr => hr.mono fun r => (h r).2⟩

theorem remarks_append :
    Remarks (first ++ second) u c m ↔ Remarks first u c m ∨ Remarks second u c m := by
  constructor
  · rintro ⟨r, hr, hf⟩
    rcases List.mem_append.1 hr with hr | hr
    · exact .inl ⟨r, hr, hf⟩
    · exact .inr ⟨r, hr, hf⟩
  · rintro (h | h)
    · exact h.mono fun r hr => List.mem_append_left second hr
    · exact h.mono fun r hr => List.mem_append_right first hr

theorem mem_messages_runCategorized :
    m ∈ (runCategorized rules u).messages c ↔ Remarks rules u c m := by
  rw [runCategorized, mem_messages_ofFindings, run]
  constructor
  · rintro ⟨f, hf, hcm⟩
    obtain ⟨r, hr, hf⟩ := List.mem_flatMap.1 hf
    exact ⟨r, hr, f, hf, hcm⟩
  · rintro ⟨r, hr, f, hf, hcm⟩
    exact ⟨f, List.mem_flatMap.2 ⟨r, hr, hf⟩, hcm⟩

/-- A category has an entry iff there is a remark for it. -/
theorem contains_runCategorized :
    (runCategorized rules u).contains c ↔ ∃ m, Remarks rules u c m := by
  have hfilled : (runCategorized rules u).Filled := filled_ofPairs _
  constructor
  · intro hc
    obtain ⟨m, hm⟩ := hfilled.exists_mem hc
    exact ⟨m, mem_messages_runCategorized.1 hm⟩
  · rintro ⟨m, hm⟩
    have hne : (runCategorized rules u).messages c ≠ [] :=
      List.ne_nil_of_mem (mem_messages_runCategorized.2 hm)
    -- without an entry there would be no messages
    rw [contains, Option.isSome_iff_ne_none]
    intro hnone
    exact hne (by rw [messages, hnone, Option.getD_none])

/-- Batteries with the same rules are the same in a merge. -/
theorem merge_congr_rules (h : ∀ r, r ∈ rules ↔ r ∈ rules') (x : Categorized) :
    merge (runCategorized rules u) x = merge (runCategorized rules' u) x := by
  refine merge_congr (fun k => ?_) fun k m => ?_
  · have hk : (runCategorized rules u).contains k = (runCategorized rules' u).contains k := by
      rw [Bool.eq_iff_iff, contains_runCategorized, contains_runCategorized]
      exact exists_congr fun m => remarks_congr h
    rw [hk]
  · rw [mem_messages_runCategorized, mem_messages_runCategorized, remarks_congr h]

/-- Two batteries one after the other are merged like their results. -/
theorem merge_append_rules :
    merge (runCategorized (first ++ second) u) empty =
      merge (runCategorized first u) (runCategorized second u) := by
  refine merge_congr (fun k => ?_) fun k m => ?_
  · rw [contains_empty, Bool.or_false, Bool.eq_iff_iff, Bool.or_eq_true, contains_runCategorized,
      contains_runCategorized, contains_runCategorized]
    simp only [remarks_append, exists_or]
  · rw [messages_empty, mem_messages_runCategorized, mem_messages_runCategorized,
      mem_messages_runCategorized, remarks_append]
    simp

/-- **A merge knows of a battery only the set of its rules.** Batteries with the same rules give
the same merge with any result; so it makes no difference in which order the rules stand, and
neither does one more occurrence of a rule. If the rules of a battery are those of two others
together, its result, put in order, is the merge of theirs. -/
theorem merge_runCategorized (u : SourceUnit) (x : Categorized) :
    (∀ rules rules' : List Rule, (∀ r, r ∈ rules ↔ r ∈ rules') →
      merge (runCategorized rules u) x = merge (runCategorized rules' u) x) ∧
    (∀ rules rules' : List Rule, rules.Perm rules' →
      merge (runCategorized rules u) x = merge (runCategorized rules' u) x) ∧
    (∀ (before after : List Rule) (r : Rule), r ∈ before ++ after →
      merge (runCategorized (before ++ r :: after) u) x =
        merge (runCategorized (before ++ after) u) x) ∧
    ∀ rules first second : List Rule, (∀ r, r ∈ rules ↔ r ∈ first ∨ r ∈ second) →
      merge (runCategorized rules u) empty =
        merge (runCategorized first u) (runCategorized second u) := by
  refine ⟨fun rules rules' h => ?_, fun rules rules' h => ?_, fun before after r hr => ?_,
    fun rules first second h => ?_⟩
  · exact merge_congr_rules h x
  · exact merge_congr_rules (fun r => h.mem_iff) x
  · refine merge_congr_rules (fun s => ?_) x
    rw [List.mem_append, List.mem_cons, ← or_assoc, or_comm (a := s ∈ before), or_assoc,
      ← List.mem_append]
    constructor
    · rintro (rfl | hs)
      · exact hr
      · exact hs
    · exact .inr
  · have hset : ∀ r, r ∈ rules ↔ r ∈ first ++ second := fun r => by rw [h r, List.mem_append]
    rw [merge_congr_rules hset, merge_append_rules]

theorem merge_runCategorized_repeated :
    let u : SourceUnit := ⟨"Python", ["token = 'a'; eval(b)"], default⟩
    let battery := [Rules.hardcodedSecret, Rules.unsafeCall]
    let reordered := [Rules.unsafeCall, Rules.hardcodedSecret]
    let repeated := [Rules.unsafeCall, Rules.hardcodedSecret, Rules.unsafeCall]
    ((∀ r, r ∈ battery ↔ r ∈ repeated) ∧ battery.Perm reordered ∧
      Rules.unsafeCall ∈ reordered ++ [] ∧
      ∀ r, r ∈ repeated ↔ r ∈ battery ∨ r ∈ reordered) ∧
    runCategorized battery u ≠ runCategorized repeated u ∧
    merge (runCategorized battery u) empty = merge (runCategorized repeated u) empty ∧
    merge (runCategorized battery u) empty = merge (runCategorized reordered u) empty ∧
    merge (runCategorized repeated u) empty = merge (runCategorized reordered u) empty ∧
    merge (runCategorized repeated u) empty =
      merge (runCategorized battery u) (runCategorized reordered u) := by
  intro u battery reordered repeated
  have hset : ∀ r, r ∈ battery ↔ r ∈ repeated := fun r => by
    simp only [battery, repeated, List.mem_cons, List.not_mem_nil, or_false]
    tauto
  have hperm : battery.Perm reordered := .swap _ _ _
  have hmem : Rules.unsafeCall ∈ reordered ++ [] := List.mem_cons_self
  have hsplit : ∀ r, r ∈ repeated ↔ r ∈ battery ∨ r ∈ reordered := fun r => by
    rw [← hset r, hperm.mem_iff, or_self]
  obtain ⟨hcongr, hreorder, hrepeat, hunion⟩ := merge_runCategorized u empty
  exact ⟨⟨hset, hperm, hmem, hsplit⟩, by decide +kernel, hcongr battery repeated hset,
    hreorder battery reordered hperm, hrepeat reordered [] Rules.unsafeCall hmem,
    hunion repeated battery reordered hsplit⟩

end CodeReview.Rule
