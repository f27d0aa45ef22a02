import CodeReview.Categorized
import CodeReview.Proofs.ErasedRepeats
import CodeReview.Proofs.Text.ByteOrder
import Mathlib.Data.List.Sort

/-!
# Merging is union

`sortedUnion` gives the one strictly ascending list with the messages of both sides
(`sortedUnion_ascending`, `mem_sortedUnion`), so what `merge` gives a category depends only on which
messages are listed under it and on whether it has an entry (`merge_congr`). The laws of a union
follow.
-/

set_option autoImplicit false

namespace CodeReview.Categorized

open Text

/-! ## Sorted unions -/

theorem sortedUnion_nil : sortedUnion [] [] = [] := by
  rw [sortedUnion, List.append_nil, List.mergeSort_nil]
  rfl

theorem mem_sortedUnion {m : String} {xs ys : List String} :
    m ∈ sortedUnion xs ys ↔ m ∈ xs ∨ m ∈ ys := by
  rw [sortedUnion, mem_eraseReps, List.mem_mergeSort, List.mem_append]

theorem sortedUnion_ascending (xs ys : List String) : Ascending (sortedUnion xs ys) := by
  have hsorted : ((xs ++ ys).mergeSort fun x y => decide (x ≤ y)).Pairwise
      fun x y => decide (x ≤ y) = true := by
    refine List.pairwise_mergeSort (fun x y z hxy hyz => ?_) (fun x y => ?_) _
    · exact decide_eq_true (le_trans (of_decide_eq_true hxy) (of_decide_eq_true hyz))
    · simpa using le_total x y
  have hle : ∀ x y : String, decide (x ≤ y) = true → decide (y ≤ x) = true → x = y :=
    fun x y hxy hyx => le_antisymm (of_decide_eq_true hxy) (of_decide_eq_true hyx)
  exact ascending_iff.2 ((pairwise_eraseReps hsorted hle).imp fun ⟨hxy, hne⟩ =>
    lt_of_le_of_ne (of_decide_eq_true hxy) hne)

/-- Ascending lists with the same messages are equal. -/
theorem ascending_ext {xs ys : List String} (hx : Ascending xs) (hy : Ascending ys)
    (h : ∀ m, m ∈ xs ↔ m ∈ ys) : xs = ys :=
  (ascending_iff.1 hx).eq_of_mem_iff (ascending_iff.1 hy) h

/-! ## Entries of a merge -/

variable {a b c d : Categorized} {k : Category} {m : String} {ms : List String}

@[simp] theorem contains_merge : (merge a b).contains k = (a.contains k || b.contains k) := by
  rw [contains, contains, contains, merge, get?_ofFun]
  cases a.get? k <;> cases b.get? k <;> rfl

theorem messages_merge :
    (merge a b).messages k = sortedUnion (a.messages k) (b.messages k) := by
  rw [messages, messages, messages, merge, get?_ofFun]
  cases a.get? k with
  | none =>
    cases b.get? k with
    | none => exact sortedUnion_nil.symm
    | some ys => rfl
  | some xs => rfl

@[simp] theorem mem_messages_merge :
    m ∈ (merge a b).messages k ↔ m ∈ a.messages k ∨ m ∈ b.messages k := by
  rw [messages_merge, mem_sortedUnion]

theorem messages_merge_ascending : Ascending ((merge a b).messages k) := by
  rw [messages_merge]
  exact sortedUnion_ascending _ _

/-- A merge depends only on which categories have an entry, and which messages they have. -/
theorem merge_congr (hk : ∀ k, (a.contains k || b.contains k) = (c.contains k || d.contains k))
    (hm : ∀ k m, (m ∈ a.messages k ∨ m ∈ b.messages k) ↔ (m ∈ c.messages k ∨ m ∈ d.messages k)) :
    merge a b = merge c d := by
  refine ext_messages (fun k => ?_) fun k => ?_
  · rw [contains_merge, contains_merge, hk]
  · rw [messages_merge, messages_merge]
    exact ascending_ext (sortedUnion_ascending _ _) (sortedUnion_ascending _ _)
      fun m => by rw [mem_sortedUnion, mem_sortedUnion, hm]

/-! ## The laws of a union -/

/-- An entry of a merge is the ascending list of the messages of both sides. -/
theorem get?_merge_iff : (merge a b).get? k = some ms ↔
    (a.contains k ∨ b.contains k) ∧ Ascending ms ∧
      ∀ m, m ∈ ms ↔ m ∈ a.messages k ∨ m ∈ b.messages k := by
  have hkey : (merge a b).contains k ↔ a.contains k ∨ b.contains k := by simp
  constructor
  · intro h
    have hms : (merge a b).messages k = ms := messages_of_get? h
    subst hms
    exact ⟨hkey.1 (contains_iff.2 h), messages_merge_ascending, fun m => mem_messages_merge⟩
  · rintro ⟨hk, hasc, hm⟩
    rw [contains_iff.1 (hkey.2 hk)]
    exact congrArg some (ascending_ext messages_merge_ascending hasc
      fun m => mem_messages_merge.trans (hm m).symm)

theorem merge_comm (a b : Categorized) : merge a b = merge b a :=
  merge_congr (fun _ => Bool.or_comm _ _) fun _ _ => or_comm

theorem merge_assoc (a b c : Categorized) : merge (merge a b) c = merge a (merge b c) :=
  merge_congr (fun k => by simp [Bool.or_assoc]) fun k m => by simp [or_assoc]

theorem merge_merge_self (a b : Categorized) : merge (merge a b) b = merge a b :=
  merge_congr (fun k => by simp) fun k m => by simp

theorem merge_self (a : Categorized) : merge a a = merge a empty :=
  merge_congr (fun k => by simp) fun k m => by simp

/-- The result of a merge is already in order. -/
theorem merge_merge_empty (a b : Categorized) : merge (merge a b) empty = merge a b :=
  merge_congr (fun k => by simp) fun k m => by simp

/-- **Merging is union.** A category has an entry in a merge iff it has one on either side, namely
the list of the messages of both sides in strictly ascending order. So the order, the grouping and
the repetition of what is merged do not matter, and merging a result with itself puts its messages
in order, which changes nothing in the result of a merge. -/
theorem merge_union (a b c : Categorized) :
    (∀ k, (merge a b).contains k ↔ a.contains k ∨ b.contains k) ∧
    (∀ k ms, (merge a b).get? k = some ms ↔
      (a.contains k ∨ b.contains k) ∧ Ascending ms ∧
        ∀ m, m ∈ ms ↔ m ∈ a.messages k ∨ m ∈ b.messages k) ∧
    merge a b = merge b a ∧
    merge (merge a b) c = merge a (merge b c) ∧
    merge (merge a b) b = merge a b ∧
    merge a a = merge a empty ∧
    merge (merge a b) empty = merge a b :=
  ⟨fun k => by simp, fun _ _ => get?_merge_iff, merge_comm a b, merge_assoc a b c,
    merge_merge_self a b, merge_self a, merge_merge_empty a b⟩

/-- Lists that are unsorted, repeat a message or are empty are put in order. -/
example : merge { style := some ["b", "a", "b"], bug := some [] } { style := some ["B", "a"] } =
    { style := some ["B", "a", "b"], bug := some [] } := by cbv

end CodeReview.Categorized
