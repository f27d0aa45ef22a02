import CodeReview.Proofs.Python.OutlineRecursion
import CodeReview.Proofs.Syntax.CountedPlaces
import CodeReview.Proofs.Syntax.LinkedPlaces

/-!
# Logical operators count by groups

The outline gives a logical operator a kind of its own unless the same operator is directly above it
(`kindOf_eq_operatorKind_iff`). The nodes of an operator that are linked as parent and child make
groups, and the one that has no such operator above it is the head of its group. So what is counted
for an operator are the heads (`mem_placesWith_iff`), one for each group.
-/

set_option autoImplicit false

namespace CodeReview.Python

open Syntax

/-- The kind of a node that counts for an operator. -/
def operatorKind : Logical → NodeKind
  | .and => .logicalAnd
  | .or => .logicalOr

/-- The number of nodes that count for an operator. -/
def operatorCount (op : Logical) (n : Node) : Nat :=
  (n.walk.filter fun m => m.kind == operatorKind op).length

theorem kindOf_of_operatorOf_eq {t : ParseTree} {op : Logical} (h : operatorOf t = some op)
    (above : Option Logical) :
    kindOf t above = if above = some op then .other else operatorKind op := by
  unfold operatorOf at h
  unfold kindOf
  cases hl : t.label with
  | booleanOperator op' =>
    rw [hl] at h
    cases h
    cases op <;> rfl
  | _ =>
    rw [hl] at h
    cases h

/-- A node counts for its operator unless the same operator is above it. -/
theorem kindOf_eq_operatorKind_iff {t : ParseTree} {above : Option Logical} {op : Logical} :
    kindOf t above = operatorKind op ↔ operatorOf t = some op ∧ above ≠ some op := by
  cases hop : operatorOf t with
  | some op' =>
    rw [kindOf_of_operatorOf_eq hop]
    by_cases h : above = some op'
    · cases op <;> simp [h, operatorKind]
    · cases op <;> cases op' <;> simp [h, operatorKind]
  | none =>
    unfold operatorOf at hop
    unfold kindOf
    cases hl : t.label with
    | booleanOperator op' =>
      rw [hl] at hop
      cases hop
    | construct c => cases op <;> simp only [operatorKind] <;> split <;> simp
    | _ => cases op <;> simp [operatorKind]

/-! ## Places in the outline -/

/-- The node at a place, where the steps go to the children that the outline keeps. -/
def keptAt? : ParseTree → Place → Option ParseTree
  | t, [] => some t
  | t, i :: p => (keptChildren t)[i]?.bind (keptAt? · p)

/-- The operator at a place. -/
def operatorAt (t : ParseTree) (p : Place) : Option Logical := (keptAt? t p).bind operatorOf

/-- The operator directly above a place. -/
def aboveAt (t : ParseTree) (p : Place) : Option Logical :=
  if p = [] then none else operatorAt t p.dropLast

theorem aboveAt_nil (t : ParseTree) : aboveAt t [] = none := rfl

theorem aboveAt_concat (t : ParseTree) (p : Place) (i : Nat) :
    aboveAt t (p ++ [i]) = operatorAt t p := by
  rw [aboveAt, if_neg (by simp), List.dropLast_concat]

theorem children_outlineUnder (above : Option Logical) (t : ParseTree) :
    (outlineUnder above t).children = (keptChildren t).map (outlineUnder (operatorOf t)) := by
  rw [outlineUnder_eq, Node.children]

theorem kind_outlineUnder (above : Option Logical) (t : ParseTree) :
    (outlineUnder above t).kind = kindOf t above := by
  rw [outlineUnder_eq, Node.kind]

theorem at?_outlineUnder_concat (above : Option Logical) (t : ParseTree) (p : Place) (i : Nat) :
    (outlineUnder above t).at? (p ++ [i]) =
      (keptAt? t (p ++ [i])).map (outlineUnder (operatorAt t p)) := by
  induction p generalizing above t with
  | nil =>
    rw [List.nil_append, Node.at?_cons, children_outlineUnder, List.getElem?_map, operatorAt,
      keptAt?, keptAt?]
    cases (keptChildren t)[i]? <;> rfl
  | cons j p ih =>
    rw [List.cons_append, Node.at?_cons, children_outlineUnder, List.getElem?_map, operatorAt,
      keptAt?, keptAt?]
    cases (keptChildren t)[j]? with
    | none => rfl
    | some c => exact ih (operatorOf t) c

theorem at?_outline (t : ParseTree) (p : Place) :
    (outline t).at? p = (keptAt? t p).map (outlineUnder (aboveAt t p)) := by
  rw [outline, assemble_flatten]
  rcases List.eq_nil_or_concat p with rfl | ⟨q, i, rfl⟩
  · rfl
  · rw [List.concat_eq_append, at?_outlineUnder_concat, aboveAt_concat]

/-! ## Groups -/

/-- The places of an operator among the nodes that the outline keeps. -/
def operatorPlaces (t : ParseTree) (op : Logical) : Set Place := {p | operatorAt t p = some op}

theorem mem_heads_iff {t : ParseTree} {op : Logical} {p : Place} :
    p ∈ Place.heads (operatorPlaces t op) ↔ operatorAt t p = some op ∧ aboveAt t p ≠ some op := by
  apply and_congr_right
  intro _
  rcases List.eq_nil_or_concat p with rfl | ⟨q, i, rfl⟩
  · rw [aboveAt_nil]
    constructor
    · intro _ h
      cases h
    · rintro - q - ⟨i, hi⟩
      simp at hi
  · rw [List.concat_eq_append, aboveAt_concat]
    constructor
    · intro h hq
      exact h q hq ⟨i, rfl⟩
    · intro h q' hq' hc
      rw [hc.parent_unique ⟨i, rfl⟩] at hq'
      exact h hq'

/-- What counts for an operator are the heads of its groups. -/
theorem mem_placesWith_iff {t : ParseTree} {op : Logical} {p : Place} :
    p ∈ (outline t).placesWith (fun n => n.kind == operatorKind op) ↔
      p ∈ Place.heads (operatorPlaces t op) := by
  rw [Node.mem_placesWith, mem_heads_iff, at?_outline, operatorAt]
  cases keptAt? t p with
  | none => simp
  | some u =>
    simp [kind_outlineUnder, kindOf_eq_operatorKind_iff]

theorem operatorCount_eq (t : ParseTree) (op : Logical) :
    operatorCount op (outline t) = (Place.heads (operatorPlaces t op)).ncard := by
  have hheads : Place.heads (operatorPlaces t op) =
      (outline t).placesWith fun n => n.kind == operatorKind op := by
    ext p
    exact mem_placesWith_iff.symm
  rw [hheads, Set.ncard_coe_finset, operatorCount, Node.length_filter_walk]

theorem finite_operatorPlaces (t : ParseTree) (op : Logical) : (operatorPlaces t op).Finite := by
  apply ((outline t).places.finite_toSet).subset
  intro p hp
  show p ∈ (outline t).places
  obtain ⟨u, hu, -⟩ := Option.bind_eq_some_iff.1 hp
  rw [Node.mem_places, at?_outline, hu]
  rfl

/-! ## Chains -/

/-- A tree joins operands by an operator, nested directly in any shape. -/
inductive Joins (op : Logical) : ParseTree → List ParseTree → Prop
  | operand {t : ParseTree} : operatorOf t ≠ some op → Joins op t [t]
  | operator {t l r : ParseTree} {ls rs : List ParseTree} :
      operatorOf t = some op → keptChildren t = [l, r] → Joins op l ls → Joins op r rs →
      Joins op t (ls ++ rs)

theorem operatorCount_outlineUnder (op : Logical) (above : Option Logical) (t : ParseTree) :
    operatorCount op (outlineUnder above t) =
      (if operatorOf t = some op ∧ above ≠ some op then 1 else 0) +
        ((keptChildren t).map fun c => operatorCount op (outlineUnder (operatorOf t) c)).sum := by
  rw [operatorCount, Node.length_filter_walk_eq, children_outlineUnder, kind_outlineUnder,
    List.map_map]
  congr 1
  simp only [beq_iff_eq, kindOf_eq_operatorKind_iff]

/-- Below an operator a node of another kind is what it is anywhere. -/
theorem outlineUnder_of_operatorOf_ne {t : ParseTree} {op : Logical}
    (h : operatorOf t ≠ some op) : outlineUnder (some op) t = outline t := by
  have hkind : kindOf t (some op) = kindOf t none := by
    unfold operatorOf at h
    unfold kindOf
    cases hl : t.label with
    | booleanOperator op' =>
      have hne : some op ≠ some op' := fun heq => h (by rw [hl, heq])
      simp only [if_neg hne, reduceCtorEq, ↓reduceIte]
    | _ => rfl
  rw [outline, assemble_flatten, outlineUnder_eq, outlineUnder_eq, hkind]

theorem Joins.operatorCount_eq {op : Logical} {t : ParseTree} {xs : List ParseTree}
    (h : Joins op t xs) : operatorCount op (outlineUnder (some op) t) =
      (xs.map fun x => operatorCount op (outline x)).sum := by
  induction h with
  | operand hne => rw [outlineUnder_of_operatorOf_ne hne, List.map_singleton, List.sum_singleton]
  | operator hop hkept _ _ ihl ihr =>
    rw [operatorCount_outlineUnder, hop, hkept, if_neg (fun h => h.2 rfl), Nat.zero_add,
      List.map_cons, List.map_singleton, List.sum_cons, List.sum_singleton, ihl, ihr,
      List.map_append, List.sum_append]

/-- A chain of an operator counts once, beside what its operands count. -/
theorem Joins.operatorCount_chain {op : Logical} {t : ParseTree} {xs : List ParseTree}
    (h : Joins op t xs) (hop : operatorOf t = some op) : operatorCount op (outline t) =
      1 + (xs.map fun x => operatorCount op (outline x)).sum := by
  rw [← h.operatorCount_eq, outline, assemble_flatten, operatorCount_outlineUnder,
    operatorCount_outlineUnder, if_pos ⟨hop, fun h => by cases h⟩, if_neg (fun h => h.2 rfl),
    Nat.zero_add]

theorem kind_at?_outline {t u c : ParseTree} {p : Place} {i : Nat} {op : Logical}
    (hu : keptAt? t p = some u) (hc : keptAt? t (p ++ [i]) = some c)
    (hop : operatorOf c = some op) : ((outline t).at? (p ++ [i])).map Node.kind =
      some (if operatorOf u = some op then .other else operatorKind op) := by
  rw [at?_outline, hc, Option.map_some, Option.map_some, kind_outlineUnder, aboveAt_concat,
    operatorAt, hu, Option.bind_some]
  rw [kindOf_of_operatorOf_eq hop]

/-- **Logical operators count by groups.** What the outline counts for an operator are the groups of
its nodes that are linked as parent and child, among the nodes that the outline keeps; that is the
number of these nodes less the number of pairs of a parent and a child. So a chain of one operator
over any operands counts once, in whatever shape it is nested, beside what the operands count; and
an operator below a node that is not the same operator, another one or a parenthesis, counts
anew. -/
theorem outline_counts_groups (t : ParseTree) (op : Logical) :
    (operatorPlaces t op).Finite ∧
    operatorCount op (outline t) =
      Nat.card (Place.linked (operatorPlaces t op)).ConnectedComponent ∧
    operatorCount op (outline t) + (Place.links (operatorPlaces t op)).ncard =
      (operatorPlaces t op).ncard ∧
    (∀ xs, Joins op t xs → operatorOf t = some op →
      operatorCount op (outline t) = 1 + (xs.map fun x => operatorCount op (outline x)).sum) ∧
    ∀ p i u c, keptAt? t p = some u → keptAt? t (p ++ [i]) = some c → operatorOf c = some op →
      ((outline t).at? (p ++ [i])).map Node.kind =
        some (if operatorOf u = some op then .other else operatorKind op) := by
  refine ⟨finite_operatorPlaces t op, ?_, ?_, fun _ h hop => h.operatorCount_chain hop,
    fun _ _ _ _ hu hc hop => kind_at?_outline hu hc hop⟩
  · rw [operatorCount_eq, Place.card_groups]
  · rw [operatorCount_eq, Place.heads_add_links _ (finite_operatorPlaces t op)]

end CodeReview.Python
