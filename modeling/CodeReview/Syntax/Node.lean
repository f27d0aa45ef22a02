/-!
# Syntax trees

The analyses see a program as a tree of a few kinds of construct, the same for every language.
`Node.walk` lists a tree level by level, each level from left to right.
-/

set_option autoImplicit false

namespace CodeReview.Syntax

/-- The constructs that the analyses tell apart. -/
inductive NodeKind
  | function
  | conditional
  | loop
  | exceptionHandler
  | resourceScope
  | logicalAnd
  | logicalOr
  | other
deriving DecidableEq, Repr

/-- Whether a construct adds a path through the program. -/
def NodeKind.isBranch : NodeKind → Bool
  | .conditional | .loop | .exceptionHandler | .resourceScope | .logicalAnd | .logicalOr => true
  | .function | .other => false

/-- A construct with the name it declares, the line it starts on, counted from one, and the
constructs within it. -/
inductive Node
  | mk (kind : NodeKind) (name : Option String) (line : Nat) (children : List Node)
deriving Repr

namespace Node

instance : Inhabited Node := ⟨mk .other none 1 []⟩

/-- The kind of the construct. -/
def kind : Node → NodeKind
  | mk k _ _ _ => k

/-- The name that the construct declares. -/
def name : Node → Option String
  | mk _ n _ _ => n

/-- The line the construct starts on. -/
def line : Node → Nat
  | mk _ _ l _ => l

/-- The constructs directly within it. -/
def children : Node → List Node
  | mk _ _ _ cs => cs

mutual

/-- The number of nodes of a tree. -/
def size : Node → Nat
  | mk _ _ _ cs => sizes cs + 1

/-- The number of nodes of some trees. -/
def sizes : List Node → Nat
  | [] => 0
  | n :: ns => n.size + sizes ns

end

theorem sizes_append (ns ms : List Node) : sizes (ns ++ ms) = sizes ns + sizes ms := by
  induction ns with
  | nil => rw [List.nil_append, sizes, Nat.zero_add]
  | cons n ns ih => rw [List.cons_append, sizes, sizes, ih, Nat.add_assoc]

theorem sizes_children_lt (n : Node) : sizes n.children < n.size := by
  obtain ⟨k, name, l, cs⟩ := n
  rw [size]
  exact Nat.lt_succ_self _

theorem size_le_sizes {n : Node} {ns : List Node} (h : n ∈ ns) : n.size ≤ sizes ns := by
  induction ns with
  | nil => cases h
  | cons m ns ih =>
    rw [sizes]
    rcases List.mem_cons.1 h with rfl | h
    · omega
    · have := ih h
      omega

/-- What passes from the children of every node to the node itself holds of all nodes. -/
@[elab_as_elim]
theorem children_induction {P : Node → Prop}
    (step : ∀ n : Node, (∀ c ∈ n.children, P c) → P n) (n : Node) : P n :=
  step n fun c _ => children_induction step c
termination_by n.size
decreasing_by exact Nat.lt_of_le_of_lt (size_le_sizes (by assumption)) (sizes_children_lt n)

end Node

/-- The trees that a walk has still to visit: a queue, kept as its front and its back, the latter
reversed. -/
structure Queue where
  front : List Node
  back : List Node

namespace Queue

/-- The trees of a queue, the first one first. -/
def toList (q : Queue) : List Node := q.front ++ q.back.reverse

/-- Puts trees at the end. -/
def extend (q : Queue) (ns : List Node) : Queue := ⟨q.front, ns.reverse ++ q.back⟩

/-- Takes the first tree. -/
def pop? (q : Queue) : Option (Node × Queue) :=
  match q.front with
  | n :: front => some (n, ⟨front, q.back⟩)
  | [] =>
    match q.back.reverse with
    | n :: front => some (n, ⟨front, []⟩)
    | [] => none

/-- One step of a walk: the first tree gives its root, and its children come to the end. -/
def next? (q : Queue) : Option (Node × Queue) :=
  q.pop?.map fun (n, rest) => (n, rest.extend n.children)

theorem toList_extend (q : Queue) (ns : List Node) : (q.extend ns).toList = q.toList ++ ns := by
  simp [extend, toList]

theorem toList_of_pop? {q rest : Queue} {n : Node} (h : q.pop? = some (n, rest)) :
    q.toList = n :: rest.toList := by
  obtain ⟨front, back⟩ := q
  unfold pop? at h
  cases front with
  | cons m front =>
    cases h
    rfl
  | nil =>
    cases hb : back.reverse with
    | nil => simp [hb] at h
    | cons m front =>
      simp only [hb, Option.some.injEq, Prod.mk.injEq] at h
      obtain ⟨rfl, rfl⟩ := h
      simp [toList, hb]

theorem toList_of_next? {q q' : Queue} {n : Node} (h : q.next? = some (n, q')) :
    ∃ rest, q.toList = n :: rest ∧ q'.toList = rest ++ n.children := by
  unfold next? at h
  obtain ⟨⟨m, rest⟩, hpop, heq⟩ := Option.map_eq_some_iff.1 h
  simp only [Prod.mk.injEq] at heq
  obtain ⟨rfl, rfl⟩ := heq
  exact ⟨rest.toList, toList_of_pop? hpop, toList_extend rest m.children⟩

theorem sizes_of_next? {q q' : Queue} {n : Node} (h : q.next? = some (n, q')) :
    Node.sizes q'.toList < Node.sizes q.toList := by
  obtain ⟨rest, hq, hq'⟩ := toList_of_next? h
  have := Node.sizes_children_lt n
  rw [hq, hq', Node.sizes_append, Node.sizes]
  omega

/-- The nodes that a walk visits from a queue on. -/
def visited (q : Queue) : List Node :=
  match _h : q.next? with
  | none => []
  | some (n, q') => n :: q'.visited
termination_by Node.sizes q.toList
decreasing_by exact sizes_of_next? _h

end Queue

namespace Node

/-- All nodes of the tree, breadth first, the root included. -/
def walk (n : Node) : List Node := Queue.visited ⟨[n], []⟩

/-- The largest line that a node of the tree starts on. -/
def lastLine (n : Node) : Nat := n.walk.foldl (fun m x => max m x.line) n.line

end Node

end CodeReview.Syntax
