import CodeReview.Syntax.Concrete
import CodeReview.Syntax.Node

/-!
# Outlines

The outline of a concrete tree is the syntax tree of its named nodes. Comments are left out and
strings have no inner structure. A chain of one logical operator counts as one construct, so an
operator directly below the same operator is of no kind of its own.

`flatten` lists the nodes in document order, each with its index and that of its parent; `assemble`
puts them together from the back, where every subtree is complete before it is attached. Neither
needs more room on the call stack for a deeper tree.
-/

set_option autoImplicit false

namespace CodeReview.Python

open Syntax

/-- The logical operator at a node. -/
def operatorOf (t : ParseTree) : Option Logical :=
  match t.label with
  | .booleanOperator op => some op
  | _ => none

/-- The kind of a node that stands directly below the given operator. -/
def kindOf (t : ParseTree) (above : Option Logical) : NodeKind :=
  match t.label with
  | .functionDefinition _ => .function
  | .booleanOperator op =>
    if above = some op then .other
    else
      match op with
      | .and => .logicalAnd
      | .or => .logicalOr
  | .construct c =>
    match c with
    | .ifStatement | .elifClause => .conditional
    | .forStatement | .whileStatement => .loop
    | .tryStatement => .exceptionHandler
    | .withStatement => .resourceScope
    | _ => .other
  | _ => .other

/-- The name that a node declares. -/
def nameOf (t : ParseTree) : Option String :=
  match t.label with
  | .functionDefinition name => name
  | _ => none

/-- The children that the outline keeps. -/
def keptChildren (t : ParseTree) : List ParseTree :=
  if t.is .string || t.is .concatenatedString then []
  else t.children.filter fun c => c.label.named && !c.is .comment

/-- A node without its children: what it is, its index in document order and that of its parent. -/
structure Entry where
  kind : NodeKind
  name : Option String
  line : Nat
  index : Nat
  parent : Option Nat
deriving DecidableEq, Repr

/-- The node of an entry with the given children. -/
def Entry.node (e : Entry) (children : List Node) : Node := .mk e.kind e.name e.line children

/-- A tree whose entry is still to be listed, with the index of its parent and the operator
there. -/
structure Pending where
  tree : ParseTree
  parent : Option Nat
  above : Option Logical

/-- The entry with the given index for the root of a pending tree. -/
def Pending.entry (p : Pending) (index : Nat) : Entry :=
  ⟨kindOf p.tree p.above, nameOf p.tree, p.tree.start.row + 1, index, p.parent⟩

/-- What is pending below the root of a tree whose entry has the given index. -/
def Pending.below (p : Pending) (index : Nat) : List Pending :=
  (keptChildren p.tree).map fun c => ⟨c, some index, operatorOf p.tree⟩

theorem below_size_lt (p : Pending) (index : Nat) :
    ParseTree.sizes ((p.below index).map (·.tree)) < p.tree.size := by
  obtain ⟨⟨l, q, cs⟩, parent, above⟩ := p
  have hkept : (Pending.below ⟨.node l q cs, parent, above⟩ index).map (·.tree) =
      keptChildren (.node l q cs) := by
    rw [Pending.below, List.map_map]
    exact List.map_id _
  have hle : ParseTree.sizes (keptChildren (.node l q cs)) ≤ ParseTree.sizes cs := by
    rw [keptChildren, ParseTree.children]
    split
    · exact Nat.zero_le _
    · exact ParseTree.sizes_filter_le _ cs
  rw [hkept, ParseTree.size]
  exact Nat.lt_succ_of_le hle

/-- Lists the entries of the pending trees in document order, the latest first; `count` entries are
listed already. -/
def flattenFrom : List Pending → Nat → List Entry → List Entry
  | [], _, done => done
  | p :: pending, count, done =>
    flattenFrom (p.below count ++ pending) (count + 1) (p.entry count :: done)
termination_by pending => ParseTree.sizes (pending.map (·.tree))
decreasing_by
  have := below_size_lt p count
  rw [List.map_append, ParseTree.sizes_append, List.map_cons, ParseTree.sizes]
  omega

/-- The entries of a tree in document order, the latest first. -/
def flatten (t : ParseTree) : List Entry := flattenFrom [⟨t, none, none⟩] 0 []

/-- Attaches the entries, the latest first, to their parents; `children` holds at each index the
children found so far of the entry with that index, the first one first. -/
def assembleFrom : List Entry → Array (List Node) → Node → Node
  | [], _, root => root
  | e :: rest, children, root =>
    let n := e.node (children[e.index]?.getD [])
    match e.parent with
    | none => assembleFrom rest children n
    | some p => assembleFrom rest (children.modify p (n :: ·)) root

/-- The syntax tree for entries that are listed the latest first. -/
def assemble (entries : List Entry) : Node :=
  assembleFrom entries (Array.replicate entries.length []) default

/-- The outline of a concrete tree. -/
def outline (t : ParseTree) : Node := assemble (flatten t)

end CodeReview.Python
