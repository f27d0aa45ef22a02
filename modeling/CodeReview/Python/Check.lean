import CodeReview.Syntax.Concrete
import CodeReview.Syntax.Fault

/-!
# Checks on a concrete tree

The grammar takes more than the language does. `check` walks a tree in document order and refuses
it at the first node that offends: an error, a statement of an old form, a bracket within too many
others, or a node too far down. A tree without offence gives the places where its statements start.

A walk moves a cursor to the first child, to the next sibling or up, and counts the levels it is
down. It comes to an end because each node is looked at once and left once (`Walk.left`).
-/

set_option autoImplicit false

namespace CodeReview.Python

open Syntax

/-- The number of brackets that may be open at once. -/
def maxBrackets : Nat := 200

/-- The number of nodes that may lie above a node. -/
def maxDepth : Nat := 1000

/-- A fault at a node. -/
def faultAt (t : ParseTree) (cause : FaultCause) : Fault :=
  ⟨t.start.row + 1, t.start.column + 1, cause⟩

/-- Constructs that start a statement line without being a statement of a body. -/
def isStatementHead : Label → Bool
  | .functionDefinition _ => true
  | .construct c =>
    match c with
    | .elifClause | .elseClause | .exceptClause | .exceptGroupClause | .finallyClause
    | .caseClause | .classDefinition => true
    | _ => false
  | _ => false

/-- Whether the node holds a sequence of statements. -/
def isBody (t : ParseTree) : Bool := t.is .module || t.is .block

/-- The places of the statements of a body. -/
def bodyStarts (t : ParseTree) : List Position :=
  (t.children.filter fun s => s.label.named && !s.is .comment).map ParseTree.start

/-- The statement starts that a node gives. -/
def startsOf (t : ParseTree) : List Position :=
  if isBody t then bodyStarts t else if isStatementHead t.label then [t.start] else []

/-- Whether the node is an opening bracket. -/
def opensBracket (t : ParseTree) : Bool := t.isToken "(" || t.isToken "[" || t.isToken "\x7b"

/-- Whether the node is a closing bracket. -/
def closesBracketNode (t : ParseTree) : Bool := t.isToken ")" || t.isToken "]" || t.isToken "\x7d"

/-- The number of open brackets after a node, before which `open_` were open. -/
def bracketsAfter (t : ParseTree) (open_ : Nat) : Nat :=
  if opensBracket t then open_ + 1 else if closesBracketNode t then open_ - 1 else open_

/-- Why the node is refused, where it has `depth` nodes above it and `open_` brackets are open
before it. -/
def offence (t : ParseTree) (depth open_ : Nat) : Option FaultCause :=
  match t.label with
  | .missing what => some (.missing what)
  | .error => some .invalidSyntax
  | _ =>
    if t.is .printStatement then some .printStatement
    else if t.is .execStatement then some .execStatement
    else if opensBracket t && maxBrackets < open_ + 1 then some .tooManyBrackets
    else if maxDepth < depth then some .tooDeep
    else none

/-- A place in a tree: a node and the siblings after it, and the same for each node above it, the
nearest first. -/
structure TreeCursor where
  node : ParseTree
  later : List ParseTree
  above : List (ParseTree × List ParseTree)

namespace TreeCursor

/-- The root of a tree. -/
def root (t : ParseTree) : TreeCursor := ⟨t, [], []⟩

/-- The first child of the node. -/
def firstChild? (c : TreeCursor) : Option TreeCursor :=
  match c.node.children with
  | [] => none
  | t :: ts => some ⟨t, ts, (c.node, c.later) :: c.above⟩

/-- The sibling after the node. -/
def nextSibling? (c : TreeCursor) : Option TreeCursor :=
  match c.later with
  | [] => none
  | t :: ts => some ⟨t, ts, c.above⟩

/-- The node directly above. -/
def parent? (c : TreeCursor) : Option TreeCursor :=
  match c.above with
  | [] => none
  | (t, ts) :: above => some ⟨t, ts, above⟩

/-- The number of nodes that come after the subtree of the node. -/
def pending (c : TreeCursor) : Nat :=
  ParseTree.sizes (c.later ++ c.above.flatMap Prod.snd)

end TreeCursor

/-- A walk through a tree: where it is, whether it is on its way out of the subtree there or has
still to look at the node, the number of levels it is down, the brackets open and the statement
starts found, the latest first. -/
structure Walk where
  cursor : TreeCursor
  leaving : Bool
  depth : Nat
  brackets : Nat
  starts : List Position

/-- What a walk comes to next. -/
inductive WalkStep
  | refused (fault : Fault)
  | finished
  | next (w : Walk)

namespace Walk

/-- A walk before the first node. -/
def start (t : ParseTree) : Walk := ⟨.root t, false, 0, 0, []⟩

/-- Looks at the node and goes on to its first child, or turns to leave a node without children. -/
def visit (w : Walk) : WalkStep :=
  let t := w.cursor.node
  match offence t w.depth w.brackets with
  | some cause => .refused (faultAt t cause)
  | none =>
    let brackets := bracketsAfter t w.brackets
    let starts := (startsOf t).reverse ++ w.starts
    match w.cursor.firstChild? with
    | some c => .next ⟨c, false, w.depth + 1, brackets, starts⟩
    | none => .next ⟨w.cursor, true, w.depth, brackets, starts⟩

/-- Leaves the subtree for the next sibling of its root, or for the node above. -/
def leave (w : Walk) : WalkStep :=
  match w.cursor.nextSibling? with
  | some c => .next { w with cursor := c, leaving := false }
  | none =>
    match w.cursor.parent? with
    | some c => .next { w with cursor := c, depth := w.depth - 1 }
    | none => .finished

/-- One step of a walk. -/
def step (w : Walk) : WalkStep := if w.leaving then w.leave else w.visit

/-- A bound on the steps still to be made: each node is looked at once and left once. -/
def left (w : Walk) : Nat :=
  if w.leaving then 2 * w.cursor.pending + w.cursor.above.length + 1
  else 2 * (w.cursor.node.size + w.cursor.pending) + w.cursor.above.length

theorem visit_left_lt {w w' : Walk} (h : w.visit = .next w') :
    w'.left < 2 * (w.cursor.node.size + w.cursor.pending) + w.cursor.above.length := by
  obtain ⟨⟨⟨l, p, cs⟩, later, above⟩, leaving, depth, brackets, starts⟩ := w
  simp only [visit] at h
  split at h
  · cases h
  · cases cs with
    | nil =>
      cases h
      simp only [left, ↓reduceIte, ParseTree.size]
      omega
    | cons c cs =>
      cases h
      simp only [left, Bool.false_eq_true, ↓reduceIte, TreeCursor.pending, List.flatMap_cons,
        ParseTree.sizes_append, ParseTree.size, ParseTree.sizes, List.length_cons]
      omega

theorem leave_left_lt {w w' : Walk} (hl : w.leaving = true) (h : w.leave = .next w') :
    w'.left < 2 * w.cursor.pending + w.cursor.above.length + 1 := by
  obtain ⟨⟨t, later, above⟩, leaving, depth, brackets, starts⟩ := w
  simp only at hl
  subst hl
  cases later with
  | cons s later =>
    cases h
    simp only [left, Bool.false_eq_true, ↓reduceIte, TreeCursor.pending, List.cons_append,
      ParseTree.sizes]
    omega
  | nil =>
    cases above with
    | nil => cases h
    | cons a above =>
      cases h
      simp only [left, ↓reduceIte, TreeCursor.pending, List.nil_append, List.flatMap_cons,
        List.length_cons]
      omega

theorem step_left_lt {w w' : Walk} (h : w.step = .next w') : w'.left < w.left := by
  unfold step at h
  split at h
  · rename_i hl
    have := leave_left_lt hl h
    simpa [left, hl] using this
  · rename_i hl
    have := visit_left_lt h
    simpa [left, hl] using this

/-- Goes on until a node is refused or all of them have been left. -/
def run (w : Walk) : Except Fault (List Position) :=
  match _h : w.step with
  | .refused f => .error f
  | .finished => .ok w.starts
  | .next w' => run w'
termination_by w.left
decreasing_by exact step_left_lt _h

end Walk

/-- Checks a tree that is marked as having an error in it or not; the statement starts are in
document order, each once. -/
def checkMarked (hasError : Bool) (t : ParseTree) : Except Fault (List Position) :=
  match (Walk.start t).run with
  | .error f => .error f
  | .ok starts =>
    if hasError then .error (faultAt t .invalidSyntax)
    else .ok (starts.mergeSort fun p q => !q.before p).eraseReps

/-- Checks a tree. -/
def check (t : ParseTree) : Except Fault (List Position) := checkMarked t.hasError t

end CodeReview.Python
