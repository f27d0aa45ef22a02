import CodeReview.Proofs.MetricOrder
import CodeReview.Proofs.Syntax.CountedPlaces
import Mathlib.Combinatorics.Enumerative.DoubleCounting

/-!
# Complexities count branches by the functions around them

The complexity of a function is one more than the number of branches below its place
(`Node.complexityOf_eq`). Added up over the functions, a branch counts once for every function above
it: the pairs of a function and a branch below it are counted by their branches instead
(`Node.sum_branchesBelow`).
-/

set_option autoImplicit false

namespace CodeReview

open Syntax

namespace Syntax.Node

variable (t : Node)

/-- The places of the functions. -/
def functionPlaces : Finset Place := t.placesWith fun n => n.kind == .function

/-- The places of the functions of a name. -/
def functionsNamed (name : String) : Finset Place :=
  t.placesWith fun n => functionName n == name && n.kind == .function

/-- The places of the branches. -/
def branchPlaces : Finset Place := t.placesWith fun n => n.kind.isBranch

/-- The branches strictly below a place. -/
def branchesBelow (p : Place) : Finset Place := t.branchPlaces.filter p.Above

/-- The functions strictly above a place. -/
def functionsAbove (q : Place) : Finset Place := t.functionPlaces.filter (·.Above q)

/-! ## Branches below functions -/

variable {t} in
theorem complexityOf_eq {p : Place} {n : Node} (h : t.at? p = some n) :
    complexityOf n = 1 + (t.branchesBelow p).card := by
  rw [complexityOf, t.length_filter_tail _ h]
  rfl

theorem complexityOf_nodeAt {p : Place} (h : p ∈ t.functionPlaces) :
    complexityOf (t.nodeAt p) = 1 + (t.branchesBelow p).card := by
  obtain ⟨n, hn, -⟩ := mem_placesWith.1 h
  rw [nodeAt_eq hn, complexityOf_eq hn]

/-- Each branch is below as many functions as there are above it. -/
theorem sum_branchesBelow : ∑ p ∈ t.functionPlaces, (t.branchesBelow p).card =
    ∑ q ∈ t.branchPlaces, (t.functionsAbove q).card :=
  Finset.sum_card_bipartiteAbove_eq_sum_card_bipartiteBelow Place.Above

/-- What is below one of two places and below the other is below places one of which is above the
other. -/
theorem disjoint_branchesBelow {p q : Place} (hne : p ≠ q) (hpq : ¬ p.Above q)
    (hqp : ¬ q.Above p) : Disjoint (t.branchesBelow p) (t.branchesBelow q) := by
  rw [Finset.disjoint_left]
  intro b hp hq
  obtain ⟨-, hpb, -⟩ := Finset.mem_filter.1 hp
  obtain ⟨-, hqb, -⟩ := Finset.mem_filter.1 hq
  rcases List.prefix_or_prefix_of_prefix hpb hqb with h | h
  · exact hpq ⟨h, hne⟩
  · exact hqp ⟨h, hne.symm⟩

theorem sum_branchesBelow_le {p : Place} {s : Finset Place} (hs : ∀ q ∈ s, p.Above q)
    (hnested : ∀ q ∈ s, ∀ r ∈ s, ¬ q.Above r) :
    ∑ q ∈ s, (t.branchesBelow q).card ≤ (t.branchesBelow p).card := by
  have hdisjoint : (s : Set Place).PairwiseDisjoint t.branchesBelow := by
    intro q hq r hr hne
    exact t.disjoint_branchesBelow hne (hnested q hq r hr) (hnested r hr q hq)
  rw [← Finset.card_biUnion hdisjoint]
  apply Finset.card_le_card
  intro b hb
  obtain ⟨q, hq, hbq⟩ := Finset.mem_biUnion.1 hb
  obtain ⟨hbranch, hqb⟩ := Finset.mem_filter.1 hbq
  exact Finset.mem_filter.2 ⟨hbranch, (hs q hq).trans hqb⟩

end Syntax.Node

/-! ## Numbers that are added up -/

namespace Metric

theorem sum_add (m : Metric) (name : String) (n : Nat) :
    ((m.add name n).map (·.2)).sum = (m.map (·.2)).sum + n := by
  unfold add
  induction m with
  | nil => simp [alter]
  | cons d m ih =>
    obtain ⟨k, v⟩ := d
    unfold alter
    split_ifs with hlt heq
    · simp [Nat.add_comm]
    · simp only [List.map_cons, List.sum_cons, Option.getD_some]
      omega
    · simp only [List.map_cons, List.sum_cons] at ih ⊢
      omega

theorem sum_foldl_add {α : Type} (name : α → String) (f : α → Nat) (xs : List α) (m : Metric) :
    ((xs.foldl (fun m x => m.add (name x) (f x)) m).map (·.2)).sum =
      (m.map (·.2)).sum + (xs.map f).sum := by
  induction xs generalizing m with
  | nil => rfl
  | cons x xs ih => rw [List.foldl_cons, ih, sum_add, List.map_cons, List.sum_cons, Nat.add_assoc]

theorem foldl_add_some {α : Type} (f : α → Nat) (xs : List α) (n : Nat) :
    xs.foldl (fun v x => some (v.getD 0 + f x)) (some n) = some (n + (xs.map f).sum) := by
  induction xs generalizing n with
  | nil => rfl
  | cons x xs ih =>
    rw [List.foldl_cons, Option.getD_some, ih, List.map_cons, List.sum_cons, Nat.add_assoc]

/-- Under a name stands the sum of what was added there, if anything was. -/
theorem get?_foldl_add {α : Type} (name : α → String) (f : α → Nat) (xs : List α) (k : String) :
    (xs.foldl (fun m x => Metric.add m (name x) (f x)) []).get? k =
      if xs.filter (fun x => name x == k) = [] then none
      else some ((xs.filter fun x => name x == k).map f).sum := by
  have h := get?_foldl_alter name (fun x v => v.getD 0 + f x) xs ascending_nil k
  refine h.trans ?_
  cases xs.filter fun x => name x == k with
  | nil => rfl
  | cons x ys =>
    rw [if_neg (List.cons_ne_nil x ys), List.foldl_cons]
    exact (foldl_add_some f ys _).trans (by simp [get?])

end Metric

namespace SourceUnit

variable (u : SourceUnit)

/-- The complexities of all functions together. -/
def totalComplexity : Nat := (u.functions.map complexityOf).sum

/-- The complexities added up so far when the given number of functions has been visited. -/
def complexityAfter (k : Nat) : Metric :=
  (u.functions.take k).foldl (fun m n => m.add (functionName n) (complexityOf n)) []

theorem complexityAfter_length : u.complexityAfter u.functions.length = u.cyclomaticComplexity := by
  rw [complexityAfter, List.take_length]
  rfl

theorem sum_complexityAfter_le (k : Nat) :
    ((u.complexityAfter k).map (·.2)).sum ≤ u.totalComplexity := by
  rw [complexityAfter, Metric.sum_foldl_add, totalComplexity, List.map_take]
  simpa using (List.take_sublist k (u.functions.map complexityOf)).sum_le_sum
    (fun _ _ => Nat.zero_le _)

/-- No number on the way is larger than the total. -/
theorem le_totalComplexity_of_mem {k : Nat} {e : String × Nat} (h : e ∈ u.complexityAfter k) :
    e.2 ≤ u.totalComplexity :=
  (List.le_sum_of_mem (List.mem_map_of_mem h)).trans (u.sum_complexityAfter_le k)

theorem functions_of_name (name : String) :
    u.functions.filter (fun n => functionName n == name) =
      u.tree.walk.filter fun n => functionName n == name && n.kind == .function := by
  rw [functions, List.filter_filter]

theorem sum_functions_of_name (name : String) :
    ((u.functions.filter fun n => functionName n == name).map complexityOf).sum =
      ∑ p ∈ u.tree.functionsNamed name, (1 + (u.tree.branchesBelow p).card) := by
  rw [functions_of_name, Node.sum_filter_walk]
  apply Finset.sum_congr rfl
  intro p hp
  obtain ⟨n, hn, -⟩ := Node.mem_placesWith.1 hp
  rw [Node.nodeAt_eq hn, Node.complexityOf_eq hn]

theorem get?_cyclomaticComplexity (name : String) : u.cyclomaticComplexity.get? name =
    if (u.tree.functionsNamed name).Nonempty then
      some (∑ p ∈ u.tree.functionsNamed name, (1 + (u.tree.branchesBelow p).card))
    else none := by
  have hlength : (u.functions.filter fun n => functionName n == name).length =
      (u.tree.functionsNamed name).card := by
    rw [functions_of_name, Node.length_filter_walk, Node.functionsNamed]
  rw [cyclomaticComplexity, Metric.get?_foldl_add, sum_functions_of_name]
  by_cases h : (u.tree.functionsNamed name).Nonempty
  · have hpos := Finset.card_pos.2 h
    rw [if_pos h, if_neg (List.ne_nil_of_length_pos (by omega))]
  · have hzero := Finset.card_eq_zero.2 (Finset.not_nonempty_iff_eq_empty.1 h)
    rw [if_neg h, if_pos (List.eq_nil_of_length_eq_zero (by omega))]

theorem sum_cyclomaticComplexity :
    (u.cyclomaticComplexity.map (·.2)).sum = u.totalComplexity := by
  rw [cyclomaticComplexity, Metric.sum_foldl_add]
  exact Nat.zero_add _

theorem totalComplexity_eq : u.totalComplexity =
    u.tree.functionPlaces.card + ∑ q ∈ u.tree.branchPlaces, (u.tree.functionsAbove q).card := by
  have hsum : u.totalComplexity =
      ∑ p ∈ u.tree.functionPlaces, (1 + (u.tree.branchesBelow p).card) := by
    rw [totalComplexity, functions, Node.sum_filter_walk]
    exact Finset.sum_congr rfl fun p hp => u.tree.complexityOf_nodeAt hp
  rw [hsum, Finset.sum_add_distrib, ← Finset.card_eq_sum_ones, Node.sum_branchesBelow]

/-- **Complexities count each branch once for every function around it.** Under a name stands, for
each function of this name anywhere in the tree, one and the number of branches strictly below it;
other names are not there. All numbers together are the number of functions and, for each branch,
the number of functions strictly above it: a branch outside of all functions adds nothing. Functions
within a function, none of which is within another, have together no more branches than the function
itself. If the total fits in a word, so does every number on the way to it. -/
theorem cyclomaticComplexity_counts :
    (∀ name, u.cyclomaticComplexity.get? name =
      if (u.tree.functionsNamed name).Nonempty then
        some (∑ p ∈ u.tree.functionsNamed name, (1 + (u.tree.branchesBelow p).card))
      else none) ∧
    (u.cyclomaticComplexity.map (·.2)).sum =
      u.tree.functionPlaces.card + ∑ q ∈ u.tree.branchPlaces, (u.tree.functionsAbove q).card ∧
    (∀ p ∈ u.tree.functionPlaces,
      complexityOf (u.tree.nodeAt p) = 1 + (u.tree.branchesBelow p).card) ∧
    (∀ p ∈ u.tree.functionPlaces, ∀ s ⊆ u.tree.functionPlaces, (∀ q ∈ s, p.Above q) →
      (∀ q ∈ s, ∀ r ∈ s, ¬ q.Above r) →
      ∑ q ∈ s, (complexityOf (u.tree.nodeAt q) - 1) ≤ complexityOf (u.tree.nodeAt p) - 1) ∧
    u.complexityAfter u.functions.length = u.cyclomaticComplexity ∧
    (u.totalComplexity < UInt32.size →
      (∀ n ∈ u.functions, complexityOf n < UInt32.size) ∧
      ∀ k, ∀ e ∈ u.complexityAfter k, e.2 < UInt32.size) := by
  refine ⟨u.get?_cyclomaticComplexity, ?_, fun _ => u.tree.complexityOf_nodeAt, ?_,
    u.complexityAfter_length, ?_⟩
  · rw [sum_cyclomaticComplexity, totalComplexity_eq]
  · intro p hp s hs hbelow hnested
    have hbranches : ∑ q ∈ s, (complexityOf (u.tree.nodeAt q) - 1) =
        ∑ q ∈ s, (u.tree.branchesBelow q).card := by
      apply Finset.sum_congr rfl
      intro q hq
      rw [u.tree.complexityOf_nodeAt (hs hq), Nat.add_sub_cancel_left]
    rw [hbranches, u.tree.complexityOf_nodeAt hp, Nat.add_sub_cancel_left]
    exact u.tree.sum_branchesBelow_le hbelow hnested
  · intro htotal
    constructor
    · intro n hn
      exact (List.le_sum_of_mem (List.mem_map_of_mem hn)).trans_lt htotal
    · intro k e he
      exact (u.le_totalComplexity_of_mem he).trans_lt htotal

/-- The loop counts once and the condition in the inner function twice. -/
example : cyclomaticComplexity ⟨"Python", [], .mk .function (some "outer") 1
    [.mk .loop none 2 [], .mk .function (some "inner") 3 [.mk .conditional none 4 []]]⟩ =
      [("inner", 2), ("outer", 3)] := by
  decide +kernel

end SourceUnit

end CodeReview
