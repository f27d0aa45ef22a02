import CodeReview.Syntax.Node
import Mathlib.Data.List.Sort

/-!
# Places in syntax trees

A node value can stand in a tree many times, so what is said about each node of a tree is said about
its place: the way down from the root. `Node.level` lists the nodes of one depth from left to right
and `Node.places` all places, depth by depth. Every place with a node in it is listed once
(`Node.mem_places`, `Node.nodup_places`), in the order `Place.Before`.
-/

set_option autoImplicit false

namespace CodeReview.Syntax

/-- The way to a node: which child to go to at each step from the root. -/
abbrev Place := List Nat

namespace Place

/-- The first place is on the way to the second and is not the second itself. -/
def Above (p q : Place) : Prop := p <+: q ∧ p ≠ q

instance (p q : Place) : Decidable (Above p q) := inferInstanceAs (Decidable (_ ∧ _))

/-- Places nearer to the root come first, and places of one depth from left to right. -/
def Before (p q : Place) : Prop := p.length < q.length ∨ p.length = q.length ∧ p < q

theorem above_iff_exists {p q : Place} : p.Above q ↔ ∃ r ≠ [], q = p ++ r := by
  constructor
  · rintro ⟨⟨r, rfl⟩, hne⟩
    exact ⟨r, fun hr => hne (by rw [hr, List.append_nil]), rfl⟩
  · rintro ⟨r, hr, rfl⟩
    exact ⟨List.prefix_append p r, fun h => hr (List.append_right_eq_self.1 h.symm)⟩

theorem Above.trans {p q r : Place} (h : p.Above q) (h' : q.Above r) : p.Above r := by
  obtain ⟨a, ha, rfl⟩ := above_iff_exists.1 h
  obtain ⟨b, hb, rfl⟩ := above_iff_exists.1 h'
  exact above_iff_exists.2 ⟨a ++ b, by simp [ha], List.append_assoc p a b⟩

theorem before_irrefl (p : Place) : ¬ p.Before p := by
  rintro (h | ⟨-, h⟩)
  · omega
  · exact List.lt_irrefl _ h

theorem Before.ne {p q : Place} (h : p.Before q) : p ≠ q := by
  rintro rfl
  exact before_irrefl p h

theorem before_asymm {p q : Place} (h : p.Before q) : ¬ q.Before p := by
  rintro (h' | ⟨hl', h'⟩) <;> rcases h with h | ⟨hl, h⟩
  · omega
  · omega
  · omega
  · exact List.lt_asymm h h'

instance : Std.Antisymm Before := ⟨fun _ _ h h' => absurd h' (before_asymm h)⟩

theorem concat_lt_concat {p q : Place} (i j : Nat) (hl : p.length = q.length) (h : p < q) :
    p ++ [i] < q ++ [j] := by
  induction p generalizing q with
  | nil =>
    obtain rfl := List.eq_nil_of_length_eq_zero hl.symm
    exact absurd h (List.lt_irrefl _)
  | cons a p ih =>
    cases q with
    | nil => cases hl
    | cons b q =>
      rw [List.cons_append, List.cons_append, List.cons_lt_cons_iff]
      rcases List.cons_lt_cons_iff.1 h with hab | ⟨hab, hpq⟩
      · exact .inl hab
      · exact .inr ⟨hab, ih (Nat.succ.inj hl) hpq⟩

theorem append_lt_append (p : Place) {q r : Place} (h : q < r) : p ++ q < p ++ r := by
  induction p with
  | nil => exact h
  | cons a p ih => exact List.cons_lt_cons_iff.2 (.inr ⟨rfl, ih⟩)

theorem before_cons {p q : Place} (i : Nat) (h : p.Before q) : Before (i :: p) (i :: q) := by
  rcases h with h | ⟨hl, h⟩
  · exact .inl (Nat.succ_lt_succ h)
  · exact .inr ⟨congrArg Nat.succ hl, append_lt_append [i] h⟩

end Place

namespace Node

/-! ## Nodes at places -/

/-- The node at a place. -/
def at? : Node → Place → Option Node
  | n, [] => some n
  | n, i :: p => n.children[i]?.bind (at? · p)

@[simp] theorem at?_nil (n : Node) : n.at? [] = some n := rfl

theorem at?_cons (n : Node) (i : Nat) (p : Place) :
    n.at? (i :: p) = n.children[i]?.bind (·.at? p) := rfl

theorem at?_append (n : Node) (p q : Place) : n.at? (p ++ q) = (n.at? p).bind (·.at? q) := by
  induction p generalizing n with
  | nil => rfl
  | cons i p ih =>
    rw [List.cons_append, at?_cons, at?_cons, Option.bind_assoc]
    simp only [ih]

theorem at?_concat (n : Node) (p : Place) (i : Nat) :
    n.at? (p ++ [i]) = (n.at? p).bind (·.children[i]?) := by
  rw [at?_append]
  simp [at?_cons]

/-! ## Levels -/

mutual

/-- The number of levels of a tree. -/
def height : Node → Nat
  | mk _ _ _ cs => heights cs + 1

/-- The number of levels of some trees side by side. -/
def heights : List Node → Nat
  | [] => 0
  | n :: ns => max n.height (heights ns)

end

/-- The nodes of a depth from left to right: in the order of their parents, and below one parent in
the order of its children. -/
def level (t : Node) : Nat → List Node
  | 0 => [t]
  | d + 1 => (t.level d).flatMap children

/-- The places of the children of a node, in their order. -/
def childPlaces (t : Node) (p : Place) : List Place :=
  match t.at? p with
  | some n => (List.range n.children.length).map fun i => p ++ [i]
  | none => []

/-- The places of a depth from left to right. -/
def placesAt (t : Node) : Nat → List Place
  | 0 => [[]]
  | d + 1 => (t.placesAt d).flatMap t.childPlaces

/-- The places of a tree, depth by depth. -/
def places (t : Node) : List Place := (List.range t.height).flatMap t.placesAt

theorem height_eq (n : Node) : n.height = heights n.children + 1 := by
  obtain ⟨k, name, l, cs⟩ := n
  rw [height]
  rfl

theorem heights_append (ns ms : List Node) :
    heights (ns ++ ms) = max (heights ns) (heights ms) := by
  induction ns with
  | nil => rw [List.nil_append, heights, Nat.zero_max]
  | cons n ns ih => rw [List.cons_append, heights, heights, ih, Nat.max_assoc]

theorem heights_children (ns : List Node) : heights (ns.flatMap children) = heights ns - 1 := by
  induction ns with
  | nil => rfl
  | cons n ns ih =>
    rw [List.flatMap_cons, heights_append, ih, heights, height_eq]
    omega

theorem heights_level (t : Node) (d : Nat) : heights (t.level d) = t.height - d := by
  induction d with
  | zero => rw [level, heights, heights, Nat.max_zero, Nat.sub_zero]
  | succ d ih => rw [level, heights_children, ih, Nat.sub_sub]

/-- There is a node at every depth below the height of a tree, and at no other. -/
theorem level_eq_nil_iff (t : Node) (d : Nat) : t.level d = [] ↔ t.height ≤ d := by
  rw [← Nat.sub_eq_zero_iff_le, ← heights_level]
  cases t.level d with
  | nil => exact ⟨fun _ => rfl, fun _ => rfl⟩
  | cons n ns =>
    rw [heights, height_eq]
    constructor
    · intro h
      cases h
    · intro h
      omega

/-! ## The places of a tree -/

theorem childPlaces_map (t : Node) (p : Place) :
    (t.childPlaces p).map t.at? = ((t.at? p).toList.flatMap children).map some := by
  unfold childPlaces
  cases hp : t.at? p with
  | none => rfl
  | some n =>
    apply List.ext_getElem?
    intro i
    simp only [List.map_map, List.getElem?_map, Option.toList_some, List.flatMap_singleton]
    by_cases hi : i < n.children.length
    · rw [List.getElem?_range hi, List.getElem?_eq_getElem hi]
      simp [at?_concat, hp, hi]
    · rw [List.getElem?_eq_none (by simpa using hi), List.getElem?_eq_none (by omega)]
      rfl

/-- The places of a depth are those of the nodes of this depth, in the same order. -/
theorem placesAt_map (t : Node) (d : Nat) :
    (t.placesAt d).map t.at? = (t.level d).map some := by
  induction d with
  | zero => rfl
  | succ d ih =>
    -- the nodes below a place depend only on the node there
    have hsplit : ∀ ps : List Place, (ps.flatMap t.childPlaces).map t.at? =
        ((ps.map t.at?).flatMap fun n => n.toList.flatMap children).map some := by
      intro ps
      rw [List.map_flatMap, List.flatMap_map, List.map_flatMap]
      simp only [childPlaces_map]
    rw [placesAt, hsplit, ih, level, List.flatMap_map]
    simp only [Option.toList_some, List.flatMap_singleton]

theorem length_placesAt (t : Node) (d : Nat) : (t.placesAt d).length = (t.level d).length := by
  have h := congrArg List.length (t.placesAt_map d)
  rwa [List.length_map, List.length_map] at h

theorem mem_childPlaces {t : Node} {p q : Place} :
    q ∈ t.childPlaces p ↔ ∃ i, q = p ++ [i] ∧ (t.at? q).isSome := by
  unfold childPlaces
  cases hp : t.at? p with
  | none =>
    simp only [List.not_mem_nil, false_iff, not_exists, not_and]
    rintro i rfl
    simp [at?_concat, hp]
  | some n =>
    simp only [List.mem_map, List.mem_range]
    constructor
    · rintro ⟨i, hi, rfl⟩
      exact ⟨i, rfl, by simp [at?_concat, hp, hi]⟩
    · rintro ⟨i, rfl, hi⟩
      exact ⟨i, by simpa [at?_concat, hp] using hi, rfl⟩

theorem mem_placesAt {t : Node} {d : Nat} {p : Place} :
    p ∈ t.placesAt d ↔ p.length = d ∧ (t.at? p).isSome := by
  induction d generalizing p with
  | zero =>
    rw [placesAt, List.mem_singleton]
    constructor
    · rintro rfl
      exact ⟨rfl, rfl⟩
    · intro h
      exact List.eq_nil_of_length_eq_zero h.1
  | succ d ih =>
    simp only [placesAt, List.mem_flatMap, ih, mem_childPlaces]
    constructor
    · rintro ⟨q, ⟨hl, -⟩, i, rfl, hi⟩
      exact ⟨by rw [List.length_append, hl, List.length_singleton], hi⟩
    · rintro ⟨hl, hp⟩
      rcases List.eq_nil_or_concat p with rfl | ⟨q, i, rfl⟩
      · cases hl
      · rw [List.concat_eq_append] at hl hp ⊢
        rw [List.length_append, List.length_singleton] at hl
        refine ⟨q, ⟨Nat.succ.inj hl, ?_⟩, i, rfl, hp⟩
        rw [at?_concat] at hp
        cases hq : t.at? q with
        | none => rw [hq] at hp; cases hp
        | some n => rfl

/-- A place is listed iff there is a node in it. -/
theorem mem_places {t : Node} {p : Place} : p ∈ t.places ↔ (t.at? p).isSome := by
  simp only [places, List.mem_flatMap, List.mem_range, mem_placesAt]
  constructor
  · rintro ⟨d, -, -, hp⟩
    exact hp
  · intro hp
    refine ⟨p.length, ?_, rfl, hp⟩
    -- the depth of the place has a node, so it is below the height
    rw [← Nat.not_le, ← level_eq_nil_iff, ← List.length_eq_zero_iff, ← length_placesAt]
    exact fun h => List.ne_nil_of_mem (mem_placesAt.2 ⟨rfl, hp⟩) (List.eq_nil_of_length_eq_zero h)

theorem childPlaces_ascending (t : Node) (p : Place) : (t.childPlaces p).Pairwise (· < ·) := by
  unfold childPlaces
  cases t.at? p with
  | none => exact List.Pairwise.nil
  | some n =>
    rw [List.pairwise_map]
    exact List.pairwise_lt_range.imp fun h =>
      Place.append_lt_append p (List.cons_lt_cons_iff.2 (.inl h))

theorem placesAt_ascending (t : Node) (d : Nat) : (t.placesAt d).Pairwise (· < ·) := by
  induction d with
  | zero => exact List.pairwise_singleton _ _
  | succ d ih =>
    rw [placesAt, List.pairwise_flatMap]
    refine ⟨fun p _ => t.childPlaces_ascending p, ?_⟩
    apply ih.imp_of_mem
    intro p q hp hq hlt x hx y hy
    obtain ⟨i, rfl, -⟩ := mem_childPlaces.1 hx
    obtain ⟨j, rfl, -⟩ := mem_childPlaces.1 hy
    have hl : p.length = q.length := (mem_placesAt.1 hp).1.trans (mem_placesAt.1 hq).1.symm
    exact Place.concat_lt_concat i j hl hlt

theorem places_ascending (t : Node) : t.places.Pairwise Place.Before := by
  rw [places, List.pairwise_flatMap]
  constructor
  · intro d _
    apply (t.placesAt_ascending d).imp_of_mem
    intro p q hp hq hlt
    exact .inr ⟨(mem_placesAt.1 hp).1.trans (mem_placesAt.1 hq).1.symm, hlt⟩
  · apply List.pairwise_lt_range.imp
    intro d e hlt p hp q hq
    rw [← (mem_placesAt.1 hp).1, ← (mem_placesAt.1 hq).1] at hlt
    exact .inl hlt

theorem nodup_places (t : Node) : t.places.Nodup := t.places_ascending.imp Place.Before.ne

/-- The places of a child, seen from its parent, are places of the parent in the same order. -/
theorem places_child_sublist {t c : Node} {i : Nat} (h : t.children[i]? = some c) :
    (c.places.map (i :: ·)).Sublist t.places := by
  have hmap : (c.places.map (i :: ·)).Pairwise Place.Before :=
    List.pairwise_map.2 (c.places_ascending.imp (Place.before_cons i))
  refine List.sublist_of_subperm_of_pairwise (List.subperm_of_subset ?_ ?_) hmap t.places_ascending
  · exact hmap.imp Place.Before.ne
  · intro p hp
    obtain ⟨q, hq, rfl⟩ := List.mem_map.1 hp
    rw [mem_places, at?_cons, h]
    exact mem_places.1 hq

end Node

end CodeReview.Syntax
