import CodeReview.Python.Literal

/-!
# Frames

An expression is read from left to right with a stack of frames. A frame stands for a construct
that has begun and is not complete: its role says which, and its parts are the children read so far,
the latest first. This module holds the roles, what each allows to follow, and how a frame becomes
a node.

Operators have levels, the loosest first: lambda 0, conditional 1, `:=` and `as` 2, `or` 3, `and` 4,
`not` 5, comparison 6, the binary operators 7 to 12, the prefix operators 13, power 14, the star
15, and strings side by side 16.
-/

set_option autoImplicit false

namespace CodeReview.Python

open Syntax

/-- What a reader of expressions was asked for. -/
inductive Goal
  /-- One expression; `list` allows several with commas between, `yields` a `yield`. The statement
  may end after it if `newline` holds, and brackets close after it if `closer` holds. -/
  | expression (newline closer list yields : Bool)
  /-- A pattern of a `for` loop, which `in` or a comma ends. -/
  | target
  /-- A type; a colon goes on with a bound for it if `bounded` holds. -/
  | type (newline bounded : Bool)
  /-- One construct in brackets. -/
  | bracket
  /-- A string, or strings side by side. -/
  | string (concatenated : Bool)
deriving DecidableEq, Repr

/-- What the elements read so far between braces make of them. -/
inductive Braces
  | undecided
  | set
  | dictionary
deriving DecidableEq, Repr

/-- The construct a frame stands for. -/
inductive Role
  | goal (g : Goal)
  -- operators that wait for their last operand
  | binary (level : Nat)
  | comparison
  | boolean (op : Logical)
  | negation
  | unary
  | await
  | star (label : Construct)
  | named
  | aliasTarget
  | otherwise
  | lambda
  | concatenation
  -- a condition that waits for its `else`
  | condition
  -- brackets
  | parenthesis
  | list
  | braces (content : Braces)
  | arguments
  | subscript
  | comprehension (label : Construct)
  | typeParameter
  | parameters (lambda : Bool)
  -- what brackets complete
  | call
  | generic
  -- elements of brackets
  | starred (label : Construct)
  | keywordArgument
  | pairValue
  | slice (colons : Nat)
  | forTarget
  | forSource
  | ifClause
  | parameterDefault (label : Construct)
  | parameterType
  -- lists without brackets
  | expressionList
  | yield (source : Bool)
  -- types
  | union
  | bound
  -- strings
  | string (d : Delimiter)
  | interpolation (label : Construct)
  | formatSpecifier
deriving DecidableEq, Repr

/-- A construct that is not complete, with its parts, the latest first. -/
structure Frame where
  role : Role
  parts : List ParseTree
deriving Repr

/-- How strongly an operator holds the operand after it. -/
def Role.level : Role → Option Nat
  | .lambda => some 0
  | .otherwise => some 1
  | .named | .aliasTarget => some 2
  | .boolean .or => some 3
  | .boolean .and => some 4
  | .negation => some 5
  | .comparison => some 6
  | .binary n => some n
  | .unary | .await => some 13
  | .star _ => some 15
  | .concatenation => some 16
  | _ => none

/-- Which operands a frame takes: any expression, one that binds as tightly as a binary operator's
operand, or a name with what may follow it. -/
inductive Operands
  | expressions
  | primaries
  | targets
deriving DecidableEq, Repr

/-- The operands that a role takes. -/
def Role.operands : Role → Operands
  | .binary _ | .comparison | .unary | .await => .primaries
  | .star _ | .forTarget | .goal .target => .targets
  | _ => .expressions

/-- Whether a role takes a type. -/
def Role.isType : Role → Bool
  | .goal (.type _ _) | .typeParameter | .parameterType | .union | .bound => true
  | _ => false

/-- A node of a construct with the given children. -/
def construct (c : Construct) (children : List ParseTree) : ParseTree :=
  .ofChildren (.construct c) ⟨0, 0⟩ children

/-- The frame's parts with more after them, as children of a construct. -/
def Frame.close (f : Frame) (c : Construct) (more : List ParseTree := []) : ParseTree :=
  construct c (f.parts.reverse ++ more)

/-- The frame with more parts, given in document order. -/
def Frame.add (f : Frame) (more : List ParseTree) : Frame :=
  { f with parts := more.reverse ++ f.parts }

/-- Adds parts to the innermost frame. -/
def addParts (more : List ParseTree) : List Frame → List Frame
  | [] => []
  | f :: fs => if more.isEmpty then f :: fs else f.add more :: fs

/-- The first of the parts that is no line continuation, with the parts after it. -/
def firstPart : List ParseTree → Option (ParseTree × List ParseTree)
  | [] => none
  | t :: ts => if t.is .lineContinuation then firstPart ts else some (t, ts)

/-- Whether nothing but the opening token has been read. -/
def Frame.isFresh (f : Frame) : Bool :=
  match firstPart f.parts with
  | some (_, before) => (firstPart before).isNone
  | none => true

/-- Whether a comma was read last. -/
def Frame.afterComma (f : Frame) : Bool := (firstPart f.parts).any fun p => p.1.isToken ","

/-- Whether the frame holds a comma without an element before it, so that nothing may follow. -/
def Frame.isSpent (f : Frame) : Bool :=
  match firstPart f.parts with
  | some (comma, before) =>
    comma.isToken "," && (firstPart before).any fun p => (firstPart p.2).isNone
  | none => false

/-! ## Targets -/

/-- Whether the node is a name, an attribute or a subscript. -/
def isPlace (t : ParseTree) : Bool := t.is .identifier || t.is .attribute || t.is .subscript

mutual

/-- The expression read as a pattern to assign to, if it can be one. -/
def asPattern : ParseTree → Option ParseTree
  | .node (.construct c) p cs =>
    match c with
    | .identifier | .attribute | .subscript => some (.node (.construct c) p cs)
    | .listSplat =>
      match cs.getLast? with
      | some x => if isPlace x then some (.node (.construct .listSplatPattern) p cs) else none
      | none => none
    | .tuple | .parenthesizedExpression =>
      (asPatterns cs).map fun ps => .node (.construct .tuplePattern) p ps
    | .list => (asPatterns cs).map fun ps => .node (.construct .listPattern) p ps
    | _ => none
  | _ => none

/-- The elements between brackets read as patterns; tokens and line continuations stay. -/
def asPatterns : List ParseTree → Option (List ParseTree)
  | [] => some []
  | t :: ts =>
    if !t.label.named || t.is .lineContinuation then (asPatterns ts).map (t :: ·)
    else
      match asPattern t with
      | some p => (asPatterns ts).map (p :: ·)
      | none => none

end

/-- Applies the parts of a star to the longest beginning of a chain of calls, attributes and
subscripts that is a place. -/
def starred? (label : Construct) (parts : List ParseTree) : ParseTree → Option ParseTree
  | .node l p cs =>
    let t := ParseTree.node l p cs
    if isPlace t then some (construct label (parts.reverse ++ [t]))
    else
      match l, cs with
      | .construct .call, f :: rest =>
        (starred? label parts f).map fun f' => construct .call (f' :: rest)
      | _, _ => none

/-- A list splat read again as a primary: its operand has to be a place, up to calls of it. -/
def asPrimarySplat (t : ParseTree) : Option ParseTree :=
  if t.is .listSplat then
    match t.children.reverse with
    | x :: before => starred? .listSplat before x
    | [] => none
  else some t

/-! ## Operators -/

/-- The node for an operator frame with its last operand. -/
def Frame.apply (f : Frame) (t : ParseTree) : Option ParseTree :=
  match f.role with
  | .binary _ => some (f.close .binaryOperator [t])
  | .comparison => some (f.close .comparisonOperator [t])
  | .boolean op =>
    some (.ofChildren (.booleanOperator op) t.start (f.parts.reverse ++ [t]))
  | .negation => some (f.close .notOperator [t])
  | .unary => some (f.close .unaryOperator [t])
  | .await => some (f.close .await [t])
  | .star label => starred? label f.parts t
  | .named => some (f.close .namedExpression [t])
  | .aliasTarget => some (f.close .asPattern [construct .asPatternTarget [t]])
  | .otherwise => some (f.close .conditionalExpression [t])
  | .lambda => some (f.close .lambda [t])
  | .concatenation => some (f.close .concatenatedString [t])
  | _ => none

/-- Completes the operators on top of the stack that hold the operand at least at the given
level. -/
def collapse (level : Nat) : List Frame → ParseTree → Option (List Frame × ParseTree)
  | [], t => some ([], t)
  | f :: fs, t =>
    match f.role.level with
    | some n =>
      if level ≤ n then
        match f.apply t with
        | some t' => collapse level fs t'
        | none => none
      else some (f :: fs, t)
    | none => some (f :: fs, t)

/-- The level of an infix operator of arithmetic. -/
def binaryLevel (op : String) : Option Nat :=
  if op == "|" then some 7
  else if op == "&" then some 8
  else if op == "^" then some 9
  else if op == "<<" || op == ">>" then some 10
  else if op == "+" || op == "-" then some 11
  else if op == "*" || op == "@" || op == "/" || op == "%" || op == "//" then some 12
  else if op == "**" then some 14
  else none

/-- Symbols that compare. -/
def isComparison (op : String) : Bool :=
  ["<", "<=", "==", "!=", ">=", ">", "<>"].contains op

/-! ## What may follow -/

/-- Whether the frames can be completed as they are, as far as the next bracket or the goal: then a
closing bracket may follow, or the end of the statement. -/
def closing (direct : Bool) : List Frame → Expect
  | [] => {}
  | f :: fs =>
    match f.role with
    | .goal (.expression newline closer _ _) => { newline, closer }
    | .goal (.type newline _) => { newline }
    | .goal _ => {}
    | .condition | .forTarget | .call | .generic | .string _ | .formatSpecifier => {}
    | .braces .dictionary => { closer := !direct }
    | .parenthesis | .list | .braces _ | .arguments | .subscript | .comprehension _
    | .typeParameter | .interpolation _ => { closer := true }
    | .parameters lambda => { closer := !lambda }
    | .starred _ | .pairValue => closing false fs
    | _ => closing direct fs

/-- What may stand in place of an operand. -/
def vacancy : List Frame → Expect
  | [] => {}
  | f :: fs =>
    match f.role with
    | .parenthesis | .list | .braces _ | .arguments => { closer := true }
    | .subscript | .typeParameter => { closer := f.afterComma }
    | .slice _ => closing true fs
    | .yield false => closing true fs
    | .expressionList => closing true fs
    | .forSource => if f.afterComma then closing true fs else {}
    | _ => {}

end CodeReview.Python
