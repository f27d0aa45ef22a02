import CodeReview.Python.Check
import CodeReview.Python.Outline

/-!
# Classes of labels

What the check and the outline ask of a node depends on its label. The classes of labels are given
here by lists and clauses of their own, and the tests of the two passes are tied to them, so that
what is said about a tree is said about the labels of its nodes.
-/

set_option autoImplicit false

namespace CodeReview.Python

open Syntax

/-- Labels of nodes that do not stand for any text that the grammar derives. -/
inductive Faulty : Label → Prop
  | error : Faulty .error
  | missing (what : String) : Faulty (.missing what)

theorem isFaulty_iff {l : Label} : l.isFaulty = true ↔ Faulty l := by
  constructor
  · intro h
    cases l with
    | error => exact .error
    | missing what => exact .missing what
    | _ => cases h
  · rintro (_ | _) <;> rfl

/-- The opening brackets. -/
def openings : List Label := [.token "(", .token "[", .token "\x7b"]

/-- The closing brackets. -/
def closings : List Label := [.token ")", .token "]", .token "\x7d"]

theorem opensBracket_iff {t : ParseTree} : opensBracket t = true ↔ t.label ∈ openings := by
  simp [opensBracket, ParseTree.isToken, openings, or_assoc]

theorem closesBracketNode_iff {t : ParseTree} :
    closesBracketNode t = true ↔ t.label ∈ closings := by
  simp [closesBracketNode, ParseTree.isToken, closings, or_assoc]

/-- The constructs that hold a sequence of statements. -/
def bodies : List Construct := [.module, .block]

theorem isBody_iff {t : ParseTree} : isBody t = true ↔ ∃ c ∈ bodies, t.label = .construct c := by
  simp [isBody, ParseTree.is, bodies]

/-- The constructs that start a line of their own without being a statement of a body. -/
def headClauses : List Construct :=
  [.elifClause, .elseClause, .exceptClause, .exceptGroupClause, .finallyClause, .caseClause,
    .classDefinition]

/-- Labels of the nodes that have their start noted wherever they stand. -/
inductive StatementHead : Label → Prop
  | function (name : Option String) : StatementHead (.functionDefinition name)
  | clause {c : Construct} (h : c ∈ headClauses) : StatementHead (.construct c)

theorem isStatementHead_iff {l : Label} : isStatementHead l = true ↔ StatementHead l := by
  constructor
  · intro h
    cases l with
    | functionDefinition name => exact .function name
    | construct c =>
      refine .clause ?_
      simp only [isStatementHead] at h
      split at h <;> simp_all [headClauses]
    | _ => cases h
  · rintro (name | hc)
    · rfl
    · simp only [headClauses, List.mem_cons, List.not_mem_nil, or_false] at hc
      rcases hc with rfl | rfl | rfl | rfl | rfl | rfl | rfl <;> rfl

/-- Whether a label is neither that of a token nor that of a comment. -/
def substantial : Label → Bool
  | .token _ => false
  | .construct c => c ≠ .comment
  | .functionDefinition _ | .booleanOperator _ | .error | .missing _ => true

theorem named_and_not_comment (t : ParseTree) :
    (t.label.named && !t.is .comment) = substantial t.label := by
  obtain ⟨l, p, cs⟩ := t
  cases l with
  | construct c =>
    by_cases h : c = .comment <;> simp [ParseTree.is, ParseTree.label, Label.named, substantial, h]
  | _ => rfl

/-- The constructs that have a kind of their own in the outline. -/
def constructKinds : List (Construct × NodeKind) :=
  [(.ifStatement, .conditional), (.elifClause, .conditional), (.forStatement, .loop),
    (.whileStatement, .loop), (.tryStatement, .exceptionHandler), (.withStatement, .resourceScope)]

theorem kindOf_construct (c : Construct) (p : Position) (cs : List ParseTree)
    (above : Option Logical) :
    kindOf (.node (.construct c) p cs) above = (constructKinds.lookup c).getD .other := by
  cases c <;> rfl

/-- The constructs without inner structure in the outline. -/
def strings : List Construct := [.string, .concatenatedString]

theorem keptChildren_eq (t : ParseTree) :
    keptChildren t =
      if ∃ c ∈ strings, t.label = .construct c then []
      else t.children.filter fun c => substantial c.label := by
  simp only [keptChildren, named_and_not_comment]
  congr 1
  simp [ParseTree.is, strings]

end CodeReview.Python
