import CodeReview.Proofs.Syntax.Place
import Mathlib.Order.Basic

/-!
# Walks go level by level

A walk takes the first tree of a queue and puts its children at the end. What carries the proof is
that such a queue holds what is left of one level and, behind it, what has come of the next
(`Queue.yields_level`): once the first part is used up the queue is the next level as a whole. So
a walk gives the levels one after another (`Node.walk_eq`) and comes to every place once
(`Node.walk_places`).
-/

set_option autoImplicit false

namespace CodeReview.Syntax

namespace Queue

/-- Steps lead from one queue to another and give some nodes on the way. -/
inductive Yields : Queue → List Node → Queue → Prop
  | none (q : Queue) : Yields q [] q
  | step {q q' q'' : Queue} {n : Node} {ns : List Node} :
      q.next? = some (n, q') → Yields q' ns q'' → Yields q (n :: ns) q''

theorem Yields.append {q q' q'' : Queue} {ns ms : List Node} (h : q.Yields ns q')
    (h' : q'.Yields ms q'') : q.Yields (ns ++ ms) q'' := by
  induction h with
  | none q => exact h'
  | step hn _ ih => exact .step hn (ih h')

theorem Yields.visited_eq {q q' : Queue} {ns : List Node} (h : q.Yields ns q') :
    q.visited = ns ++ q'.visited := by
  induction h with
  | none q => rfl
  | step hn _ ih =>
    rw [visited, List.cons_append, ← ih]
    split
    · rename_i heq
      rw [hn] at heq
      cases heq
    · rename_i heq
      rw [hn] at heq
      cases heq
      rfl

theorem next?_eq_none {q : Queue} (h : q.toList = []) : q.next? = none := by
  cases hq : q.next? with
  | none => rfl
  | some r =>
    obtain ⟨rest, hlist, -⟩ := toList_of_next? hq
    rw [h] at hlist
    cases hlist

theorem visited_eq_nil {q : Queue} (h : q.toList = []) : q.visited = [] := by
  rw [visited]
  split
  · rfl
  · rename_i heq
    rw [next?_eq_none h] at heq
    cases heq

theorem exists_next? {q : Queue} {n : Node} {rest : List Node} (h : q.toList = n :: rest) :
    ∃ q', q.next? = some (n, q') ∧ q'.toList = rest ++ n.children := by
  obtain ⟨front, back⟩ := q
  unfold next? pop?
  cases front with
  | cons m front =>
    simp only [toList, List.cons_append, List.cons.injEq] at h
    obtain ⟨rfl, rfl⟩ := h
    exact ⟨_, rfl, toList_extend _ _⟩
  | nil =>
    simp only [toList, List.nil_append] at h
    simp only [h]
    exact ⟨_, rfl, by simp [extend, toList]⟩

/-- From trees with others behind them a walk gets to the others, with the children of the first
ones behind those. -/
theorem yields_level (ns ms : List Node) {q : Queue} (h : q.toList = ns ++ ms) :
    ∃ q', q.Yields ns q' ∧ q'.toList = ms ++ ns.flatMap Node.children := by
  induction ns generalizing ms q with
  | nil => exact ⟨q, .none q, by rw [h, List.flatMap_nil, List.append_nil, List.nil_append]⟩
  | cons n ns ih =>
    obtain ⟨q1, hnext, hq1⟩ := exists_next? (h.trans List.cons_append)
    rw [List.append_assoc] at hq1
    obtain ⟨q2, hyields, hq2⟩ := ih _ hq1
    exact ⟨q2, .step hnext hyields, by rw [hq2, List.flatMap_cons, List.append_assoc]⟩

theorem exists_walk_eq (n : Node) :
    ∃ q : Queue, q.toList = n.children ∧ n.walk = n :: q.visited := by
  obtain ⟨q, hnext, hq⟩ := exists_next? (show toList ⟨[n], []⟩ = [n] from rfl)
  exact ⟨q, hq, (Yields.step hnext (.none q)).visited_eq⟩

/-- The nodes that a walk visits from a queue on are those of its trees, in another order. -/
theorem visited_perm (q : Queue) : q.visited.Perm (q.toList.flatMap Node.walk) := by
  induction hk : Node.sizes q.toList using Nat.strong_induction_on generalizing q with
  | _ k ih =>
    subst hk
    cases hq : q.toList with
    | nil =>
      rw [visited_eq_nil hq]
      exact .nil
    | cons n rest =>
      obtain ⟨q1, hnext, hq1⟩ := exists_next? hq
      have hvisited : q.visited = n :: q1.visited := (Yields.step hnext (.none q1)).visited_eq
      -- the walk of the first tree alone goes on with its children
      obtain ⟨q2, hq2, hwalk⟩ := exists_walk_eq n
      have hsize : Node.sizes q2.toList < Node.sizes q.toList := by
        have := Node.sizes_children_lt n
        rw [hq2, hq, Node.sizes]
        omega
      have h1 := ih _ (sizes_of_next? hnext) q1 rfl
      have h2 := ih _ hsize q2 rfl
      rw [hq1, List.flatMap_append] at h1
      rw [hq2] at h2
      rw [hvisited, List.flatMap_cons, hwalk, List.cons_append]
      exact .cons n (h1.trans (List.perm_append_comm.trans (h2.symm.append_right _)))

end Queue

namespace Node

/-! ## The order of a walk -/

theorem walk_perm (t : Node) : t.walk.Perm (t :: t.children.flatMap walk) := by
  obtain ⟨q, hq, hwalk⟩ := Queue.exists_walk_eq t
  rw [hwalk, ← hq]
  exact .cons t q.visited_perm

/-- From one level of a tree a walk gets to any later one and gives the levels between them. -/
theorem yields_levels (t : Node) (d k : Nat) {q : Queue} (h : q.toList = t.level d) :
    ∃ q', q.Yields ((List.range' d k).flatMap t.level) q' ∧ q'.toList = t.level (d + k) := by
  induction k generalizing d q with
  | zero => exact ⟨q, .none q, h⟩
  | succ k ih =>
    rw [← List.append_nil (t.level d)] at h
    obtain ⟨q1, hlevel, hq1⟩ := Queue.yields_level _ _ h
    obtain ⟨q2, hrest, hq2⟩ := ih (d + 1) hq1
    refine ⟨q2, ?_, by rw [hq2, Nat.add_assoc, Nat.add_comm 1 k]⟩
    rw [List.range'_succ, List.flatMap_cons]
    exact hlevel.append hrest

theorem yields_all_levels (t : Node) :
    ∃ last, Queue.Yields ⟨[t], []⟩ ((List.range t.height).flatMap t.level) last ∧
      last.toList = [] := by
  obtain ⟨last, hyields, hlast⟩ := t.yields_levels 0 t.height (q := ⟨[t], []⟩) rfl
  rw [← List.range_eq_range'] at hyields
  refine ⟨last, hyields, ?_⟩
  rw [hlast, Nat.zero_add, level_eq_nil_iff]

theorem walk_eq (t : Node) : t.walk = (List.range t.height).flatMap t.level := by
  obtain ⟨last, hyields, hlast⟩ := t.yields_all_levels
  rw [walk, hyields.visited_eq, Queue.visited_eq_nil hlast, List.append_nil]

theorem walk_places (t : Node) : t.walk.map some = t.places.map t.at? := by
  rw [walk_eq, places, List.map_flatMap, List.map_flatMap]
  simp only [placesAt_map]

theorem mem_walk {t n : Node} : n ∈ t.walk ↔ ∃ p, t.at? p = some n := by
  have hmem : n ∈ t.walk ↔ some n ∈ t.walk.map some := by simp
  rw [hmem, walk_places, List.mem_map]
  constructor
  · rintro ⟨p, -, hp⟩
    exact ⟨p, hp⟩
  · rintro ⟨p, hp⟩
    exact ⟨p, mem_places.2 (Option.isSome_of_eq_some hp), hp⟩

theorem walk_child_sublist {t c : Node} {i : Nat} (h : t.children[i]? = some c) :
    c.walk.Sublist t.walk := by
  have hplaces := (places_child_sublist h).map t.at?
  have hchild : (c.places.map (i :: ·)).map t.at? = c.walk.map some := by
    rw [walk_places, List.map_map]
    refine List.map_congr_left fun p _ => ?_
    rw [Function.comp_apply, at?_cons, h]
    rfl
  rw [hchild, ← walk_places] at hplaces
  simpa [List.filterMap_map] using hplaces.filterMap id

/-! ## The last line -/

mutual

/-- The largest line that a node of the tree starts on, by recursion. -/
def maxLine : Node → Nat
  | mk _ _ l cs => max l (maxLines cs)

/-- The largest line that a node of some trees starts on; zero if there is none. -/
def maxLines : List Node → Nat
  | [] => 0
  | n :: ns => max n.maxLine (maxLines ns)

end

theorem maxLines_le_iff {ns : List Node} {b : Nat} :
    maxLines ns ≤ b ↔ ∀ n ∈ ns, n.maxLine ≤ b := by
  induction ns with
  | nil => simp [maxLines]
  | cons n ns ih => rw [maxLines, Nat.max_le, ih, List.forall_mem_cons]

theorem maxLine_le_children_iff {t : Node} {b : Nat} :
    t.maxLine ≤ b ↔ t.line ≤ b ∧ ∀ c ∈ t.children, c.maxLine ≤ b := by
  obtain ⟨k, name, l, cs⟩ := t
  rw [maxLine, Nat.max_le, maxLines_le_iff]
  rfl

theorem maxLine_le_iff {t : Node} {b : Nat} :
    t.maxLine ≤ b ↔ ∀ p n, t.at? p = some n → n.line ≤ b := by
  induction t using children_induction with
  | step t ih =>
    rw [maxLine_le_children_iff]
    constructor
    · rintro ⟨hline, hchildren⟩ p n hp
      cases p with
      | nil =>
        cases hp
        exact hline
      | cons i p =>
        obtain ⟨c, hc, hn⟩ := Option.bind_eq_some_iff.1 hp
        have hmem := List.mem_of_getElem? hc
        exact (ih c hmem).1 (hchildren c hmem) p n hn
    · intro h
      refine ⟨h [] t rfl, fun c hc => (ih c hc).2 fun p n hn => ?_⟩
      obtain ⟨i, hi⟩ := List.mem_iff_getElem?.1 hc
      exact h (i :: p) n (by rw [at?_cons, hi]; exact hn)

theorem foldl_max_le_iff (ns : List Node) (a b : Nat) :
    ns.foldl (fun m x => max m x.line) a ≤ b ↔ a ≤ b ∧ ∀ n ∈ ns, n.line ≤ b := by
  induction ns generalizing a with
  | nil => simp
  | cons n ns ih => rw [List.foldl_cons, ih, Nat.max_le, List.forall_mem_cons, and_assoc]

theorem lastLine_eq (t : Node) : t.lastLine = t.maxLine := by
  apply eq_of_forall_ge_iff
  intro b
  rw [lastLine, foldl_max_le_iff, maxLine_le_iff]
  constructor
  · rintro ⟨-, h⟩ p n hp
    exact h n (mem_walk.2 ⟨p, hp⟩)
  · intro h
    refine ⟨h [] t rfl, fun n hn => ?_⟩
    obtain ⟨p, hp⟩ := mem_walk.1 hn
    exact h p n hp

/-- **A walk is in level order.** It comes to an end, and until then it gives the levels of the tree
one after another, each in the order of the parents and of the children of one parent. So it comes
to every place with a node in it and to each of them once: nearer ones first, and those of one depth
from left to right. The largest start line that it meets is the one found by recursion. The walk
of a child is a part of the walk of its parent, in the same order. -/
theorem walk_level_order (t : Node) :
    (∃ last, Queue.Yields ⟨[t], []⟩ t.walk last ∧ last.next? = none) ∧
    t.walk = (List.range t.height).flatMap t.level ∧ (∀ d, t.height ≤ d → t.level d = []) ∧
    t.walk.map some = t.places.map t.at? ∧ (∀ p, p ∈ t.places ↔ (t.at? p).isSome) ∧
    t.places.Nodup ∧ t.places.Pairwise Place.Before ∧
    t.lastLine = t.maxLine ∧
    ∀ (i : Nat) (c : Node), t.children[i]? = some c →
      (c.places.map (i :: ·)).Sublist t.places ∧ c.walk.Sublist t.walk := by
  obtain ⟨last, hyields, hlast⟩ := t.yields_all_levels
  rw [← walk_eq] at hyields
  exact ⟨⟨last, hyields, Queue.next?_eq_none hlast⟩, t.walk_eq,
    fun d hd => (t.level_eq_nil_iff d).2 hd, t.walk_places, fun _ => mem_places, t.nodup_places,
    t.places_ascending, t.lastLine_eq,
    fun _ _ h => ⟨places_child_sublist h, walk_child_sublist h⟩⟩

/-- A function on line 2 with a loop in it, and a condition beside it. -/
example : ((mk .other none 1 [mk .function none 2 [mk .loop none 3 []],
    mk .conditional none 5 []]).walk.map kind) = [.other, .function, .conditional, .loop] := by
  decide +kernel

end Node

end CodeReview.Syntax
