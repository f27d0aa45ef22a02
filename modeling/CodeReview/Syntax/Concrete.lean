/-!
# Concrete trees

A concrete tree records how a grammar derives a text: a node has a label, the position of its
first character and its children in document order. Punctuation and keywords are leaves labelled
`Label.token`; every other node is named by the construct it stands for. `Label.error` covers text
that the grammar does not derive and `Label.missing` a token that had to be supposed.
-/

set_option autoImplicit false

namespace CodeReview.Syntax

/-- A place in a text. Rows and columns start at zero; a column counts bytes of UTF-8. -/
structure Position where
  row : Nat
  column : Nat
deriving DecidableEq, Repr, Inhabited

/-- Document order. -/
def Position.before (p q : Position) : Bool :=
  p.row < q.row || (p.row == q.row && p.column < q.column)

/-- The two connectives that add a branch. -/
inductive Logical
  | and
  | or
deriving DecidableEq, Repr

/-- Named constructs that carry no data of their own. -/
inductive Construct
  -- layout
  | module | block | comment | lineContinuation
  -- simple statements
  | expressionStatement | importStatement | importFromStatement | futureImportStatement
  | dottedName | aliasedImport | relativeImport | importPrefix | wildcardImport
  | printStatement | chevron | execStatement | assertStatement | returnStatement
  | deleteStatement | raiseStatement | passStatement | breakStatement | continueStatement
  | globalStatement | nonlocalStatement | typeAliasStatement | assignment | augmentedAssignment
  | yield
  -- compound statements
  | ifStatement | elifClause | elseClause | forStatement | whileStatement | tryStatement
  | exceptClause | exceptGroupClause | finallyClause | withStatement | withClause | withItem
  | classDefinition | decoratedDefinition | decorator | matchStatement | caseClause
  -- match patterns
  | casePattern | asPattern | keywordPattern | classPattern | splatPattern | unionPattern
  | dictPattern | complexPattern
  -- parameters, targets and types
  | parameters | lambdaParameters | defaultParameter | typedParameter | typedDefaultParameter
  | listSplatPattern | dictionarySplatPattern | tuplePattern | listPattern | patternList
  | keywordSeparator | positionalSeparator | typeParameter | type | splatType | genericType
  | unionType | constrainedType | memberType
  -- expressions
  | identifier | integer | float | true | false | none | ellipsis
  | string | stringStart | stringContent | stringEnd | escapeSequence | escapeInterpolation
  | interpolation | typeConversion | formatSpecifier | formatExpression | concatenatedString
  | attribute | subscript | slice | call | argumentList | keywordArgument | listSplat
  | dictionarySplat | list | set | tuple | dictionary | pair | parenthesizedExpression
  | listComprehension | setComprehension | dictionaryComprehension | generatorExpression
  | forInClause | ifClause | unaryOperator | binaryOperator | comparisonOperator | notOperator
  | await | lambda | conditionalExpression | namedExpression | asPatternTarget | expressionList
deriving DecidableEq, Repr

/-- What a node stands for. -/
inductive Label
  | token (text : String)
  | construct (c : Construct)
  | functionDefinition (name : Option String)
  | booleanOperator (op : Logical)
  | error
  | missing (what : String)
deriving DecidableEq, Repr

/-- Tokens are the only nodes without a name of their own. -/
def Label.named : Label → Bool
  | .token _ => false
  | _ => true

/-- Whether the node does not stand for any text that the grammar derives. -/
def Label.isFaulty : Label → Bool
  | .error | .missing _ => true
  | _ => false

/-- A node with its label, the position of its first character and its children. -/
inductive ParseTree
  | node (label : Label) (start : Position) (children : List ParseTree)
deriving Repr

namespace ParseTree

instance : Inhabited ParseTree := ⟨node .error ⟨0, 0⟩ []⟩

/-- The label of the root. -/
def label : ParseTree → Label
  | node l _ _ => l

/-- The position of the root. -/
def start : ParseTree → Position
  | node _ p _ => p

/-- The children of the root, in document order. -/
def children : ParseTree → List ParseTree
  | node _ _ cs => cs

/-- A node without children. -/
def leaf (l : Label) (p : Position) : ParseTree := node l p []

/-- A node that starts where its first child does, or at `p` if it has none. -/
def ofChildren (l : Label) (p : Position) (cs : List ParseTree) : ParseTree :=
  node l ((cs.head?.map start).getD p) cs

/-- Whether the root stands for the given construct. -/
def is (t : ParseTree) (c : Construct) : Bool := t.label == .construct c

/-- Whether the root is the given token. -/
def isToken (t : ParseTree) (text : String) : Bool := t.label == .token text

mutual

/-- The number of nodes of a tree. -/
def size : ParseTree → Nat
  | node _ _ cs => sizes cs + 1

/-- The number of nodes of some trees. -/
def sizes : List ParseTree → Nat
  | [] => 0
  | t :: ts => t.size + sizes ts

end

@[simp] theorem sizes_append (ts us : List ParseTree) :
    sizes (ts ++ us) = sizes ts + sizes us := by
  induction ts with
  | nil => rw [List.nil_append, sizes, Nat.zero_add]
  | cons t ts ih => rw [List.cons_append, sizes, sizes, ih, Nat.add_assoc]

theorem sizes_filter_le (keep : ParseTree → Bool) (ts : List ParseTree) :
    sizes (ts.filter keep) ≤ sizes ts := by
  induction ts with
  | nil => exact Nat.le_refl _
  | cons t ts ih =>
    rw [List.filter_cons, sizes]
    split
    · rw [sizes]
      omega
    · omega

theorem size_le_sizes {t : ParseTree} {ts : List ParseTree} (h : t ∈ ts) : t.size ≤ sizes ts := by
  induction ts with
  | nil => cases h
  | cons u ts ih =>
    rw [sizes]
    rcases List.mem_cons.1 h with rfl | h
    · omega
    · have := ih h
      omega

theorem size_child_lt {t c : ParseTree} (h : c ∈ t.children) : c.size < t.size := by
  obtain ⟨l, p, cs⟩ := t
  rw [size]
  exact Nat.lt_succ_of_le (size_le_sizes h)

/-- What passes from the children of every tree to the tree itself holds of all trees. -/
@[elab_as_elim]
theorem children_induction {P : ParseTree → Prop}
    (step : ∀ t : ParseTree, (∀ c ∈ t.children, P c) → P t) (t : ParseTree) : P t :=
  step t fun c _ => children_induction step c
termination_by t.size
decreasing_by exact size_child_lt (by assumption)

mutual

/-- Whether some node of a tree is an error or was supposed. -/
def hasError : ParseTree → Bool
  | node l _ cs => l.isFaulty || anyHasError cs

/-- Whether some node of some trees is an error or was supposed. -/
def anyHasError : List ParseTree → Bool
  | [] => false
  | t :: ts => t.hasError || anyHasError ts

end

end ParseTree

end CodeReview.Syntax
