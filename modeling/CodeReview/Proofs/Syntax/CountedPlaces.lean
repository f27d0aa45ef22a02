import CodeReview.Proofs.Syntax.LevelOrder
import Mathlib.Algebra.BigOperators.Group.Finset.Basic
import Mathlib.Algebra.BigOperators.Group.List.Basic
import Mathlib.Algebra.Ring.Nat
import Mathlib.Data.Finset.Card

/-!
# Counting by places

What an analysis counts or adds up along a walk is counted or added up over the set of places with a
node of a kind (`Node.length_filter_walk`, `Node.sum_filter_walk`). The walk of a subtree without
its root counts the places below the place of the subtree (`Node.length_filter_tail`).
-/

set_option autoImplicit false

namespace CodeReview.Syntax

namespace Node

variable (t : Node) (P : Node → Bool)

/-- The node at a place, which has one. -/
def nodeAt (p : Place) : Node := (t.at? p).getD default

/-- The places of the nodes that have a property. -/
def placesWith : Finset Place := (t.places.filter fun p => P (t.nodeAt p)).toFinset

variable {t P}

theorem nodeAt_eq {p : Place} {n : Node} (h : t.at? p = some n) : t.nodeAt p = n := by
  rw [nodeAt, h]
  rfl

theorem mem_placesWith {p : Place} :
    p ∈ t.placesWith P ↔ ∃ n, t.at? p = some n ∧ P n = true := by
  rw [placesWith, List.mem_toFinset, List.mem_filter, mem_places, Option.isSome_iff_exists]
  constructor
  · rintro ⟨⟨n, hn⟩, hp⟩
    exact ⟨n, hn, nodeAt_eq hn ▸ hp⟩
  · rintro ⟨n, hn, hp⟩
    exact ⟨⟨n, hn⟩, by rwa [nodeAt_eq hn]⟩

variable (t P)

theorem walk_eq_map : t.walk = t.places.map t.nodeAt := by
  apply List.map_injective_iff.2 (Option.some_injective _)
  rw [walk_places, List.map_map]
  apply List.map_congr_left
  intro p hp
  obtain ⟨n, hn⟩ := Option.isSome_iff_exists.1 (mem_places.1 hp)
  rw [Function.comp_apply, nodeAt_eq hn, hn]

theorem filter_walk : t.walk.filter P = (t.places.filter fun p => P (t.nodeAt p)).map t.nodeAt := by
  rw [walk_eq_map, List.filter_map]
  rfl

theorem sum_filter_walk (f : Node → Nat) :
    ((t.walk.filter P).map f).sum = ∑ p ∈ t.placesWith P, f (t.nodeAt p) := by
  rw [placesWith, List.sum_toFinset _ (t.nodup_places.filter _), filter_walk, List.map_map]
  rfl

theorem length_filter_walk : (t.walk.filter P).length = (t.placesWith P).card := by
  rw [placesWith, List.toFinset_card_of_nodup (t.nodup_places.filter _), filter_walk,
    List.length_map]

/-- A tree counts its root and what its children count. -/
theorem length_filter_walk_eq : (t.walk.filter P).length =
    (if P t then 1 else 0) + (t.children.map fun c => (c.walk.filter P).length).sum := by
  rw [(t.walk_perm.filter P).length_eq, List.filter_cons, List.filter_flatMap]
  by_cases h : P t = true
  · rw [if_pos h, if_pos h, List.length_cons, List.length_flatMap, Nat.add_comm]
  · rw [if_neg h, if_neg h, List.length_flatMap, Nat.zero_add]

/-- Behind its root, the walk of a subtree gives what is below the place of the subtree. -/
theorem length_filter_tail {n : Node} {p : Place} (h : t.at? p = some n) :
    (n.walk.tail.filter P).length = ((t.placesWith P).filter p.Above).card := by
  have hbelow : (t.placesWith P).filter p.Above = ((n.placesWith P).erase []).image (p ++ ·) := by
    ext q
    simp only [Finset.mem_filter, Finset.mem_image, Finset.mem_erase, mem_placesWith,
      Place.above_iff_exists]
    constructor
    · rintro ⟨⟨m, hm, hP⟩, r, hr, rfl⟩
      rw [at?_append, h] at hm
      exact ⟨r, ⟨hr, m, hm, hP⟩, rfl⟩
    · rintro ⟨r, ⟨hr, m, hm, hP⟩, rfl⟩
      exact ⟨⟨m, by rw [at?_append, h]; exact hm, hP⟩, r, hr, rfl⟩
  have hroot : [] ∈ n.placesWith P ↔ P n = true := by simp [mem_placesWith]
  have hwalk := n.length_filter_walk P
  obtain ⟨rest, -, hrest⟩ := Queue.exists_walk_eq n
  rw [hrest, List.filter_cons] at hwalk
  rw [hbelow, Finset.card_image_of_injective _ (List.append_right_injective p),
    Finset.card_erase_eq_ite, ← hwalk, hrest, List.tail_cons]
  by_cases hP : P n = true
  · rw [if_pos (hroot.2 hP), if_pos hP, List.length_cons, Nat.add_sub_cancel]
  · rw [if_neg (mt hroot.1 hP), if_neg hP]

end Node

end CodeReview.Syntax
