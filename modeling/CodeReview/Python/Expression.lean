import CodeReview.Python.Frame

/-!
# Expressions

`Reader.step` reads one token of an expression. The reader either waits for an operand or has one
and looks at what follows it: an operator takes the operand on, after the frames that hold it more
strongly are completed; anything else settles the frames down to the nearest bracket that has a use
for the token, or to the goal. Every step takes a token or moves once from one mode to the next, so
`Reader.run` ends within a bound given by the text.
-/

set_option autoImplicit false

namespace CodeReview.Python

open Syntax

/-- What a reader does next. -/
inductive Mode
  /-- Waits for an operand. -/
  | operand
  /-- Has an operand; operators apply to it only if `primary` holds. -/
  | operator (t : ParseTree) (primary : Bool)
  /-- Has a type. -/
  | typed (t : ParseTree)
  /-- Waits for a parameter. -/
  | parameter
  /-- Has a parameter. -/
  | parameterRead (t : ParseTree)
  /-- Reads the contents of a string. -/
  | content
  /-- Reads what follows the expression of an interpolation, from the given stage on. -/
  | tail (stage : Nat)
  /-- Reads the text of a format specifier. -/
  | specifier
deriving Repr

/-- A reader in the middle of its work. -/
structure Reader where
  stack : List Frame
  mode : Mode
  scanner : Scanner
deriving Repr

/-- What a step leads to: another step, the trees that were asked for with the place after them, or
a text that cannot be read. -/
inductive Outcome
  | next (r : Reader)
  | done (trees : List ParseTree) (after : Scanner)
  | stuck

/-- The node of a token read from the text, after the line continuations before it. -/
def Lexeme.parts (l : Lexeme) (text : String) : List ParseTree := l.extras ++ [l.leaf (.token text)]

/-- Hands a completed bracket to the frame around it. -/
def deliver (t : ParseTree) (after : Scanner) : List Frame → Outcome
  | [] => .stuck
  | f :: fs =>
    match f.role with
    | .call => .next ⟨fs, .operator (f.close .call [t]) true, after⟩
    | .generic => .next ⟨fs, .typed (construct .type [f.close .genericType [t]]), after⟩
    | .goal .bracket => .done (f.parts.reverse ++ [t]) after
    | .parameters _ =>
      match asPattern t with
      | some p => .next ⟨f :: fs, .parameterRead p, after⟩
      | none => .stuck
    | _ => .next ⟨f :: fs, .operator t true, after⟩

/-- Closes a bracket. -/
def closeBracket (f : Frame) (c : Construct) (l : Lexeme) (text : String) (fs : List Frame) :
    Outcome :=
  deliver (f.close c (l.parts text)) l.after fs

/-- The node for a parenthesis with one element and no comma. Only an element position takes a
splat of any expression. -/
def closeGroup (f : Frame) (t : ParseTree) (l : Lexeme) (fs : List Frame) : Outcome :=
  let inner := asPrimarySplat t
  let elementPosition := match fs with
    | g :: _ => g.role == .arguments || g.role == .list || g.role == .parenthesis ||
        g.role == .braces .undecided || g.role == .braces .set
    | [] => false
  match inner.orElse fun _ => if elementPosition == true then some t else none with
  | some t' => closeBracket (f.add [t']) .parenthesizedExpression l ")" fs
  | none => .stuck

/-! ## Settling -/

/-- The frame for the source of a `for` clause, once its target is complete. -/
def Frame.closeTarget (f : Frame) (several : Bool) (last inToken : List ParseTree) : Frame :=
  let (start, target) := (f.parts.reverse ++ last).span fun x => !x.label.named
  let target := if several then [construct .patternList target] else target
  ⟨.forSource, (start ++ target ++ inToken).reverse⟩

/-- The tokens that begin a clause of a comprehension, with the place after them. -/
def clauseStart (l : Lexeme) : Option (List ParseTree × Scanner) :=
  match l.token with
  | .keyword "for" => some (l.parts "for", l.after)
  | .name "async" =>
    let l' := l.after.next {}
    match l'.token with
    | .keyword "for" => some (l.parts "async" ++ l'.parts "for", l'.after)
    | _ => none
  | _ => none

/-- Begins a comprehension in a bracket whose only element is `t`. -/
def comprehend (c : Construct) (f : Frame) (fs : List Frame) (t : ParseTree) (l : Lexeme) :
    Outcome :=
  match clauseStart l, asPrimarySplat t with
  | some (start, after), some t' =>
    if f.isFresh && !t'.is .yield then
      .next ⟨⟨.forTarget, start.reverse⟩ :: { f with role := .comprehension c }.add [t'] :: fs,
        .operand, after⟩
    else .stuck
  | _, _ => .stuck

/-- Completes frames until one has a use for the token `l` that follows the element `t`; `s` is the
scan before the token. -/
def settle (s : Scanner) (l : Lexeme) : List Frame → ParseTree → Outcome
  | [], _ => .stuck
  | f :: fs, t =>
    let comma (f : Frame) : Outcome := .next ⟨f.add (t :: l.parts ",") :: fs, .operand, l.after⟩
    match f.role with
    | .goal (.expression _ _ list _) =>
      match l.token with
      | .symbol "," =>
        if list && !t.is .expressionList then
          .next ⟨⟨.expressionList, (t :: l.parts ",").reverse⟩ :: f :: fs, .operand, l.after⟩
        else .done (f.parts.reverse ++ [t]) s
      | _ => .done (f.parts.reverse ++ [t]) s
    | .goal (.type _ _) | .typeParameter | .parameterType | .union | .bound =>
      .next ⟨f :: fs, .typed (construct .type [t]), s⟩
    | .goal _ => .done (f.parts.reverse ++ [t]) s
    | .condition =>
      match l.token with
      | .keyword "else" =>
        .next ⟨{ f with role := .otherwise }.add (t :: l.parts "else") :: fs, .operand, l.after⟩
      | _ => .stuck
    | .parenthesis =>
      match l.token with
      | .symbol "," => comma f
      | .symbol ")" =>
        if f.isFresh then closeGroup f t l fs else closeBracket (f.add [t]) .tuple l ")" fs
      | _ => comprehend .generatorExpression f fs t l
    | .list =>
      match l.token with
      | .symbol "," => comma f
      | .symbol "]" => closeBracket (f.add [t]) .list l "]" fs
      | _ => comprehend .listComprehension f fs t l
    | .braces content =>
      match l.token with
      | .symbol "," =>
        if content == .dictionary && !(t.is .pair || t.is .dictionarySplat) then .stuck
        else if content == .undecided then comma { f with role := .braces .set }
        else comma f
      | .symbol "\x7d" =>
        if content == .dictionary then
          if t.is .pair || t.is .dictionarySplat then
            closeBracket (f.add [t]) .dictionary l "\x7d" fs
          else .stuck
        else closeBracket (f.add [t]) .set l "\x7d" fs
      | .symbol ":" =>
        if content == .set || t.is .listSplat || t.is .yield then .stuck
        else
          .next ⟨⟨.pairValue, (t :: l.parts ":").reverse⟩ ::
            { f with role := .braces .dictionary } :: fs, .operand, l.after⟩
      | _ =>
        if content == .dictionary then
          if t.is .pair then comprehend .dictionaryComprehension f fs t l else .stuck
        else comprehend .setComprehension f fs t l
    | .arguments =>
      match l.token with
      | .symbol "," => comma f
      | .symbol ")" => closeBracket (f.add [t]) .argumentList l ")" fs
      | _ =>
        if t.is .keywordArgument || t.is .dictionarySplat ||
            !(fs.head?.any fun g => g.role == .call) then .stuck
        else comprehend .generatorExpression f fs t l
    | .subscript =>
      match l.token with
      | .symbol "," => comma f
      | .symbol "]" => closeBracket (f.add [t]) .subscript l "]" fs
      | .symbol ":" =>
        if t.is .slice then .stuck
        else .next ⟨⟨.slice 1, (t :: l.parts ":").reverse⟩ :: f :: fs, .operand, l.after⟩
      | _ => .stuck
    | .comprehension c =>
      match l.token with
      | .keyword "if" =>
        .next ⟨⟨.ifClause, (l.parts "if").reverse⟩ :: f.add [t] :: fs, .operand, l.after⟩
      | .symbol ")" =>
        if c == .generatorExpression then closeBracket (f.add [t]) c l ")" fs else .stuck
      | .symbol "]" =>
        if c == .listComprehension then closeBracket (f.add [t]) c l "]" fs else .stuck
      | .symbol "\x7d" =>
        if c == .setComprehension || c == .dictionaryComprehension then
          closeBracket (f.add [t]) c l "\x7d" fs
        else .stuck
      | _ =>
        match clauseStart l with
        | some (start, after) =>
          .next ⟨⟨.forTarget, start.reverse⟩ :: f.add [t] :: fs, .operand, after⟩
        | none => .stuck
    | .starred c => settle s l fs (f.close c [t])
    | .keywordArgument => settle s l fs (f.close .keywordArgument [t])
    | .pairValue => settle s l fs (f.close .pair [t])
    | .slice n =>
      match l.token with
      | .symbol ":" =>
        if n < 2 then
          .next ⟨{ f with role := .slice (n + 1) }.add (t :: l.parts ":") :: fs, .operand, l.after⟩
        else .stuck
      | _ => settle s l fs (f.close .slice [t])
    | .forTarget =>
      match asPattern t with
      | none => .stuck
      | some p =>
        let several := f.parts.any fun x => x.isToken ","
        match l.token with
        | .symbol "," => .next ⟨f.add (p :: l.parts ",") :: fs, .operand, l.after⟩
        | .keyword "in" =>
          .next ⟨f.closeTarget several [p] (l.parts "in") :: fs, .operand, l.after⟩
        | _ => .stuck
    | .forSource =>
      match l.token with
      | .symbol "," => comma f
      | _ => settle s l fs (f.close .forInClause [t])
    | .ifClause => settle s l fs (f.close .ifClause [t])
    | .parameterDefault c => .next ⟨fs, .parameterRead (f.close c [t]), s⟩
    | .expressionList =>
      match l.token with
      | .symbol "," => comma f
      | _ => settle s l fs (f.close .expressionList [t])
    | .yield source =>
      match l.token with
      | .symbol "," =>
        if source || t.is .expressionList then settle s l fs (f.close .yield [t])
        else .next ⟨⟨.expressionList, (t :: l.parts ",").reverse⟩ :: f :: fs, .operand, l.after⟩
      | _ => settle s l fs (f.close .yield [t])
    | .interpolation _ =>
      match l.token with
      | .symbol "," =>
        if t.is .expressionList || t.is .yield then .stuck
        else .next ⟨⟨.expressionList, (t :: l.parts ",").reverse⟩ :: f :: fs, .operand, l.after⟩
      | _ => .next ⟨f.add [t] :: fs, .tail 0, s⟩
    | _ =>
      match f.apply t with
      | some t' => settle s l fs t'
      | none => .stuck

/-! ## Waiting for an operand -/

/-- What a bracket or a list makes of a token that no operand starts with. -/
def settleVacant (s : Scanner) (l : Lexeme) : List Frame → Outcome
  | [] => .stuck
  | f :: fs =>
    let spent (text : String) : Outcome := .next ⟨f.add (l.parts text) :: fs, .operand, l.after⟩
    match f.role, l.token with
    | .parenthesis, .symbol ")" => closeBracket f .tuple l ")" fs
    | .list, .symbol "]" => closeBracket f .list l "]" fs
    | .braces content, .symbol "\x7d" =>
      closeBracket f (if content == .set then .set else .dictionary) l "\x7d" fs
    | .braces .undecided, .symbol "," =>
      if f.isFresh then
        .next ⟨{ f with role := .braces .dictionary }.add (l.parts ",") :: fs, .operand, l.after⟩
      else .stuck
    | .arguments, .symbol ")" => closeBracket f .argumentList l ")" fs
    | .arguments, .symbol "," => if f.isFresh then spent "," else .stuck
    | .subscript, .symbol "]" =>
      if f.afterComma then closeBracket f .subscript l "]" fs else .stuck
    | .subscript, .symbol ":" =>
      .next ⟨⟨.slice 1, (l.parts ":").reverse⟩ :: f :: fs, .operand, l.after⟩
    | .typeParameter, .symbol "]" =>
      if f.afterComma then closeBracket f .typeParameter l "]" fs else .stuck
    | .slice n, .symbol ":" =>
      if n < 2 then
        .next ⟨{ f with role := .slice (n + 1) }.add (l.parts ":") :: fs, .operand, l.after⟩
      else .stuck
    | .slice _, _ => settle s l fs (f.close .slice)
    | .yield false, .keyword "from" =>
      if f.isFresh then
        .next ⟨{ f with role := .yield true }.add (l.parts "from") :: fs, .operand, l.after⟩
      else .stuck
    | .yield false, _ => settle s l fs (f.close .yield)
    | .expressionList, _ => settle s l fs (f.close .expressionList)
    | .forSource, _ => if f.afterComma then settle s l fs (f.close .forInClause) else .stuck
    | .forTarget, .keyword "in" =>
      if f.afterComma then
        .next ⟨f.closeTarget true [] (l.parts "in") :: fs, .operand, l.after⟩
      else .stuck
    | _, _ => .stuck

/-- Whether a primary can start with the token. -/
def startsPrimary : Token → Bool
  | .name _ | .integer | .float | .stringStart _ => true
  | .keyword k => k == "None" || k == "True" || k == "False"
  | .symbol x => ["(", "[", "\x7b", "-", "+", "~", "*", "..."].contains x
  | _ => false

/-- Where a splat of any expression may stand as an element. -/
def Role.takesStarred : Role → Bool
  | .arguments | .list | .parenthesis | .braces .undecided | .braces .set => true
  | _ => false

/-- Where a `yield` may stand. -/
def Role.takesYield : Role → Bool
  | .goal (.expression _ _ _ yields) => yields
  | .parenthesis | .list | .braces .undecided | .braces .set | .interpolation _ => true
  | _ => false

/-- Names that may also be keywords where they stand; brackets after them make no type. -/
def isSoftKeyword (text : String) : Bool :=
  ["print", "exec", "async", "await", "match"].contains text

/-- Reads a name where a type is wanted: brackets after it hold the parameters of a type. -/
def typeName (l : Lexeme) (stack : List Frame) : Outcome :=
  let name := l.leaf (.construct .identifier)
  let { newline, closer, .. } := closing true stack
  let l' := l.after.next { newline, closer }
  match l'.token with
  | .symbol "[" =>
    .next ⟨⟨.typeParameter, [l'.leaf (.token "[")]⟩ :: ⟨.generic, (name :: l'.extras).reverse⟩ ::
      stack, .operand, l'.after⟩
  | _ => .next ⟨stack, .operator name true, l.after⟩

/-- Reads a token where an operand is wanted. -/
def Reader.operand (s : Scanner) (stack : List Frame) : Outcome :=
  let l := s.next { vacancy stack with string := true }
  match stack with
  | [] => .stuck
  | top :: rest =>
    if top.isSpent && (top.role == .arguments || top.role == .braces .dictionary) then
      settleVacant s l stack
    else
      let wants := top.role.operands
      let free := wants == .expressions
      let stack' := addParts l.extras stack
      let have' (t : ParseTree) : Outcome := .next ⟨stack', .operator t true, l.after⟩
      let atom (c : Construct) : Outcome := have' (l.leaf (.construct c))
      let begin (r : Role) (text : String) : Outcome :=
        .next ⟨⟨r, [l.leaf (.token text)]⟩ :: stack', .operand, l.after⟩
      match l.token with
      | .name "await" =>
        let { newline, closer, .. } := closing true stack
        let l' := l.after.next { newline, closer, string := true }
        if startsPrimary l'.token then begin .await "await" else atom .identifier
      | .name text =>
        if top.role.isType && !isSoftKeyword text then typeName l stack' else atom .identifier
      | .keyword "None" => atom .none
      | .keyword "True" => atom .true
      | .keyword "False" => atom .false
      | .integer => atom .integer
      | .float => atom .float
      | .symbol "..." => atom .ellipsis
      | .stringStart d =>
        .next ⟨⟨.string d, [l.leaf (.construct .stringStart)]⟩ :: stack', .content, l.after⟩
      | .keyword "not" => if free then begin .negation "not" else .stuck
      | .keyword "lambda" =>
        if free then
          .next ⟨⟨.parameters true, []⟩ :: ⟨.lambda, [l.leaf (.token "lambda")]⟩ :: stack',
            .parameter, l.after⟩
        else .stuck
      | .keyword "yield" =>
        if top.role.takesYield then begin (.yield false) "yield" else settleVacant s l stack
      | .symbol "(" => begin .parenthesis "("
      | .symbol "[" => begin .list "["
      | .symbol "\x7b" => begin (.braces .undecided) "\x7b"
      | .symbol "-" => if wants == .targets then .stuck else begin .unary "-"
      | .symbol "+" => if wants == .targets then .stuck else begin .unary "+"
      | .symbol "~" => if wants == .targets then .stuck else begin .unary "~"
      | .symbol "*" =>
        if top.role.takesStarred then begin (.starred .listSplat) "*"
        else if top.role.level == some 15 then .stuck
        else begin (.star .listSplat) "*"
      | .symbol "**" =>
        match top.role with
        | .arguments | .braces .dictionary => begin (.starred .dictionarySplat) "**"
        | .braces .undecided =>
          if top.isFresh then
            .next ⟨⟨.starred .dictionarySplat, [l.leaf (.token "**")]⟩ ::
              addParts l.extras ({ top with role := .braces .dictionary } :: rest), .operand,
              l.after⟩
          else .stuck
        | r => if r.isType then begin (.star .splatType) "**" else .stuck
      | _ => settleVacant s l stack

/-! ## After an operand -/

/-- Whether the frames are lambdas in the source of a `for` clause, where `if` starts a clause. -/
def inForSource : List Frame → Bool
  | [] => false
  | f :: fs =>
    match f.role with
    | .forSource => true
    | .lambda => inForSource fs
    | _ => false

/-- Whether the operand belongs to a pattern of a `for` loop, so that no infix operator applies. -/
def inTarget : List Frame → Bool
  | [] => false
  | f :: fs =>
    match f.role with
    | .forTarget | .goal .target => true
    | .star _ => inTarget fs
    | _ => false

/-- Takes an operator: completes the operators that hold `t` at least at the given level, and waits
for the operand after it. -/
def takeOperator (level : Nat) (role : Role) (parts : List ParseTree) (after : Scanner)
    (stack : List Frame) (t : ParseTree) : Outcome :=
  match collapse level stack t with
  | some (stack', t') => .next ⟨⟨role, (t' :: parts).reverse⟩ :: stack', .operand, after⟩
  | none => .stuck

/-- Takes a comparison: the operands of comparisons in a row belong to one node. -/
def takeComparison (parts : List ParseTree) (after : Scanner) (stack : List Frame) (t : ParseTree) :
    Outcome :=
  match collapse 7 stack t with
  | some (f :: fs, t') =>
    if f.role == .comparison then .next ⟨f.add (t' :: parts) :: fs, .operand, after⟩
    else .next ⟨⟨.comparison, (t' :: parts).reverse⟩ :: f :: fs, .operand, after⟩
  | _ => .stuck

/-- Takes `if`: a clause of a comprehension if one is being read, a conditional otherwise. -/
def takeIf (s : Scanner) (l : Lexeme) (stack : List Frame) (t : ParseTree) : Outcome :=
  match collapse 2 stack t with
  | some (f :: fs, t') =>
    if f.role == .ifClause || inForSource (f :: fs) then settle s l (f :: fs) t'
    else .next ⟨⟨.condition, (t' :: l.parts "if").reverse⟩ :: f :: fs, .operand, l.after⟩
  | _ => .stuck

/-- Takes an infix operator of words or symbols. -/
def takeInfix (s : Scanner) (l : Lexeme) (stack : List Frame) (t : ParseTree) : Outcome :=
  match l.token with
  | .keyword "and" => takeOperator 4 (.boolean .and) (l.parts "and") l.after stack t
  | .keyword "or" => takeOperator 3 (.boolean .or) (l.parts "or") l.after stack t
  | .keyword "as" => takeOperator 2 .aliasTarget (l.parts "as") l.after stack t
  | .keyword "if" => takeIf s l stack t
  | .keyword "in" => takeComparison (l.parts "in") l.after stack t
  | .keyword "not" =>
    let l' := l.after.next {}
    match l'.token with
    | .keyword "in" =>
      let op := ParseTree.node (.token "not in") l.start (l.leaf (.token "not") :: l'.parts "in")
      takeComparison (l.extras ++ [op]) l'.after stack t
    | _ => .stuck
  | .keyword "is" =>
    let l' := l.after.next { string := true }
    match l'.token with
    | .keyword "not" =>
      let op := ParseTree.node (.token "is not") l.start (l.leaf (.token "is") :: l'.parts "not")
      takeComparison (l.extras ++ [op]) l'.after stack t
    | _ => takeComparison (l.parts "is") l.after stack t
  | .symbol x =>
    match binaryLevel x with
    | some level =>
      -- powers group from the right, the other binary operators from the left
      takeOperator (if level == 14 then 15 else level) (.binary level) (l.parts x) l.after stack t
    | none =>
      if isComparison x then takeComparison (l.parts x) l.after stack t else settle s l stack t
  | _ => settle s l stack t

/-- Takes what follows a primary: an attribute, a call, a subscript or an operator. -/
def takeSuffix (s : Scanner) (l : Lexeme) (stack : List Frame) (t : ParseTree) : Outcome :=
  match l.token with
  | .symbol "." =>
    let l' := l.after.next {}
    match l'.token with
    | .name _ =>
      let name := l'.extras ++ [l'.leaf (.construct .identifier)]
      .next ⟨stack, .operator (construct .attribute (t :: l.parts "." ++ name)) true, l'.after⟩
    | _ => .stuck
  | .symbol "(" =>
    .next ⟨⟨.arguments, [l.leaf (.token "(")]⟩ :: ⟨.call, (t :: l.extras).reverse⟩ :: stack,
      .operand, l.after⟩
  | .symbol "[" => .next ⟨⟨.subscript, (t :: l.parts "[").reverse⟩ :: stack, .operand, l.after⟩
  | _ => if inTarget stack then settle s l stack t else takeInfix s l stack t

/-- Reads the token after an operand. -/
def Reader.operator (s : Scanner) (stack : List Frame) (t : ParseTree) (primary : Bool) : Outcome :=
  let { newline, closer, .. } := closing true stack
  let l := s.next { newline, closer, string := t.is .string }
  match stack with
  | [] => .stuck
  | f :: fs =>
    match f.role, l.token with
    | .goal (.string false), _ => settle s l stack t
    | .concatenation, .stringStart d =>
      .next ⟨⟨.string d, [l.leaf (.construct .stringStart)]⟩ :: f.add (t :: l.extras) :: fs,
        .content, l.after⟩
    | _, .stringStart d =>
      .next ⟨⟨.string d, [l.leaf (.construct .stringStart)]⟩ ::
        ⟨.concatenation, (t :: l.extras).reverse⟩ :: stack, .content, l.after⟩
    | .concatenation, _ => .next ⟨fs, .operator (f.close .concatenatedString [t]) true, s⟩
    | .goal (.string true), _ => settle s l stack t
    | role, token =>
      if !primary then settle s l stack t
      else if t.is .identifier && token == .symbol ":=" && role.operands == .expressions then
        .next ⟨⟨.named, (t :: l.parts ":=").reverse⟩ :: stack, .operand, l.after⟩
      else if t.is .identifier && token == .symbol "=" && role == .arguments then
        .next ⟨⟨.keywordArgument, (t :: l.parts "=").reverse⟩ :: stack, .operand, l.after⟩
      else takeSuffix s l stack t

/-! ## Types -/

/-- Completes a union on top of the stack. -/
def closeUnion (stack : List Frame) (t : ParseTree) : List Frame × ParseTree :=
  match stack with
  | f :: fs =>
    if f.role == .union then (fs, construct .type [f.close .unionType [t]]) else (stack, t)
  | [] => (stack, t)

/-- Whether a colon goes on with a type. -/
def takesBound : List Frame → Bool
  | [] => false
  | f :: fs =>
    match f.role with
    | .goal (.type _ bounded) => bounded
    | .union | .bound => takesBound fs
    | _ => true

/-- Completes the types on the stack and hands the outermost to the frame that wanted it. -/
def settleType (s : Scanner) (l : Lexeme) : List Frame → ParseTree → Outcome
  | [], _ => .stuck
  | f :: fs, t =>
    match f.role, l.token with
    | .union, _ => settleType s l fs (construct .type [f.close .unionType [t]])
    | .bound, _ => settleType s l fs (construct .type [f.close .constrainedType [t]])
    | .goal _, _ => .done (f.parts.reverse ++ [t]) s
    | .typeParameter, .symbol "," => .next ⟨f.add (t :: l.parts ",") :: fs, .operand, l.after⟩
    | .typeParameter, .symbol "]" => closeBracket (f.add [t]) .typeParameter l "]" fs
    | .parameterType, .symbol "=" =>
      if f.parts.getLast?.any fun p => p.is .identifier then
        .next ⟨{ f with role := .parameterDefault .typedDefaultParameter }.add
          (t :: l.parts "=") :: fs, .operand, l.after⟩
      else .stuck
    | .parameterType, _ => .next ⟨fs, .parameterRead (f.close .typedParameter [t]), s⟩
    | _, _ => .stuck

/-- Reads the token after a type. -/
def Reader.typed (s : Scanner) (stack : List Frame) (t : ParseTree) : Outcome :=
  let { newline, closer, .. } := closing true stack
  let l := s.next { newline, closer }
  match l.token with
  | .symbol "|" =>
    let (stack', t') := closeUnion stack t
    .next ⟨⟨.union, (t' :: l.parts "|").reverse⟩ :: stack', .operand, l.after⟩
  | .symbol ":" =>
    if takesBound stack then
      let (stack', t') := closeUnion stack t
      .next ⟨⟨.bound, (t' :: l.parts ":").reverse⟩ :: stack', .operand, l.after⟩
    else settleType s l stack t
  | .symbol "." =>
    let (stack', t') := closeUnion stack t
    let l' := l.after.next {}
    match l'.token with
    | .name _ =>
      let name := l'.extras ++ [l'.leaf (.construct .identifier)]
      let member := construct .memberType (t' :: l.parts "." ++ name)
      .next ⟨stack', .typed (construct .type [member]), l'.after⟩
    | _ => .stuck
  | _ => settleType s l stack t

/-! ## Parameters -/

/-- Closes a list of parameters at a bracket or, for a lambda, at its colon. -/
def closeParameters (l : Lexeme) (f : Frame) (fs : List Frame) : Outcome :=
  match f.role, l.token, fs with
  | .parameters false, .symbol ")", _ => closeBracket f .parameters l ")" fs
  | .parameters true, .symbol ":", g :: gs =>
    let list := if f.parts.isEmpty then [] else [f.close .lambdaParameters]
    .next ⟨g.add (list ++ l.parts ":") :: gs, .operand, l.after⟩
  | _, _, _ => .stuck

/-- Reads a parameter, or the end of the list where one may be left out. -/
def Reader.parameter (s : Scanner) (stack : List Frame) : Outcome :=
  match stack with
  | [] => .stuck
  | f :: fs =>
    let closer := f.role == .parameters false
    let l := s.next { closer }
    let stack' := addParts l.extras stack
    let read (t : ParseTree) (after : Scanner) : Outcome := .next ⟨stack', .parameterRead t, after⟩
    match l.token with
    | .name _ => read (l.leaf (.construct .identifier)) l.after
    | .symbol "/" =>
      read (construct .positionalSeparator [l.leaf (.token "/")]) l.after
    | .symbol "*" =>
      let l' := l.after.next { closer }
      match l'.token with
      | .name _ =>
        let name := l'.extras ++ [l'.leaf (.construct .identifier)]
        read (construct .listSplatPattern (l.leaf (.token "*") :: name)) l'.after
      | _ => read (construct .keywordSeparator [l.leaf (.token "*")]) l.after
    | .symbol "**" =>
      let l' := l.after.next {}
      match l'.token with
      | .name _ =>
        let name := l'.extras ++ [l'.leaf (.construct .identifier)]
        read (construct .dictionarySplatPattern (l.leaf (.token "**") :: name)) l'.after
      | _ => .stuck
    | .symbol "(" => .next ⟨⟨.parenthesis, [l.leaf (.token "(")]⟩ :: stack', .operand, l.after⟩
    | _ => closeParameters l f fs

/-- Reads the token after a parameter. -/
def Reader.parameterRead (s : Scanner) (stack : List Frame) (t : ParseTree) : Outcome :=
  match stack with
  | [] => .stuck
  | f :: fs =>
    let l := s.next { closer := f.role == .parameters false }
    let begin (r : Role) (text : String) : Outcome :=
      .next ⟨⟨r, (t :: l.parts text).reverse⟩ :: stack, .operand, l.after⟩
    let typable := t.is .identifier || t.is .listSplatPattern || t.is .dictionarySplatPattern
    match l.token with
    | .symbol "=" =>
      if t.is .identifier || t.is .tuplePattern then
        begin (.parameterDefault .defaultParameter) "="
      else .stuck
    | .symbol "," => .next ⟨f.add (t :: l.parts ",") :: fs, .parameter, l.after⟩
    | .symbol ":" =>
      if typable && f.role == .parameters false then begin .parameterType ":"
      else closeParameters l (f.add [t]) fs
    | _ => closeParameters l (f.add [t]) fs

/-! ## Strings -/

/-- Reads the contents of a string up to its end or the next interpolation. -/
def Reader.content (s : Scanner) (stack : List Frame) : Outcome :=
  match stack with
  | [] => .stuck
  | f :: fs =>
    match f.role with
    | .string d =>
      let start := s.cursor.position
      let r := readContent d s.bound false false [] s.cursor
      let f := if r.found then f.add [.node (.construct .stringContent) start r.escapes] else f
      match r.stop with
      | .closed =>
        let close := ParseTree.leaf (.construct .stringEnd) r.cursor.position
        let k := r.cursor.skip (if d.triple then 3 else 1)
        deliver (f.close .string [close]) { s with cursor := k, interpolating := false } fs
      | .brace =>
        let brace := ParseTree.leaf (.token "\x7b") r.cursor.position
        .next ⟨⟨.interpolation .interpolation, [brace]⟩ :: f :: fs, .operand,
          { s with cursor := r.cursor.skip 1 }⟩
      | .broken => .stuck
    | _ => .stuck

/-- Closes an interpolation. -/
def closeInterpolation (l : Lexeme) : List Frame → Outcome
  | f :: g :: fs =>
    match f.role, g.role with
    | .interpolation c, .string _ =>
      .next ⟨g.add [f.close c (l.parts "\x7d")] :: fs, .content, l.after⟩
    | .interpolation c, .formatSpecifier =>
      .next ⟨g.add [f.close c (l.parts "\x7d")] :: fs, .specifier, l.after⟩
    | _, _ => .stuck
  | _ => .stuck

/-- Reads what follows the expression of an interpolation: an equals sign, a conversion, a format
specifier and the brace, of which only the last must be there. -/
def Reader.tail (s : Scanner) (stack : List Frame) (stage : Nat) : Outcome :=
  let l := s.next { closer := true } false
  match l.token with
  | .symbol "=" =>
    if stage == 0 then .next ⟨addParts (l.parts "=") stack, .tail 1, l.after⟩ else .stuck
  | .conversion =>
    if stage ≤ 1 then
      let conversion := l.extras ++ [l.leaf (.construct .typeConversion)]
      .next ⟨addParts conversion stack, .tail 2, l.after⟩
    else .stuck
  | .symbol ":" =>
    .next ⟨⟨.formatSpecifier, [l.leaf (.token ":")]⟩ :: addParts l.extras stack, .specifier,
      l.after⟩
  | .symbol "\x7d" => closeInterpolation l stack
  | _ => .stuck

/-- Reads the text of a format specifier up to the next brace. -/
def Reader.specifier (s : Scanner) (stack : List Frame) : Outcome :=
  let k := s.cursor
  match k.rest, stack with
  | '\x7b' :: _, _ =>
    .next ⟨⟨.interpolation .formatExpression, [.leaf (.token "\x7b") k.position]⟩ :: stack,
      .operand, { s with cursor := k.skip 1 }⟩
  | '\x7d' :: _, f :: g :: fs =>
    closeInterpolation (s.next { closer := true }) (g.add [f.close .formatSpecifier] :: fs)
  | '\n' :: _, _ => .next ⟨stack, .specifier, { s with cursor := k.skip 1 }⟩
  | _ :: _, _ =>
    let n := (k.rest.takeWhile fun c => c != '\x7b' && c != '\x7d' && c != '\n').length
    .next ⟨stack, .specifier, { s with cursor := k.skip n }⟩
  | _, _ => .stuck

/-! ## Running -/

/-- One step of the reader. -/
def Reader.step (r : Reader) : Outcome :=
  match r.mode with
  | .operand => Reader.operand r.scanner r.stack
  | .operator t primary => Reader.operator r.scanner r.stack t primary
  | .typed t => Reader.typed r.scanner r.stack t
  | .parameter => Reader.parameter r.scanner r.stack
  | .parameterRead t => Reader.parameterRead r.scanner r.stack t
  | .content => Reader.content r.scanner r.stack
  | .tail stage => Reader.tail r.scanner r.stack stage
  | .specifier => Reader.specifier r.scanner r.stack

/-- Steps until the goal is reached. -/
def Reader.run : Nat → Reader → Option (List ParseTree × Scanner)
  | 0, _ => none
  | fuel + 1, r =>
    match r.step with
    | .next r' => Reader.run fuel r'
    | .done trees after => some (trees, after)
    | .stuck => none

/-- Reads what the goal asks for; the trees are the line continuations before it and its node. A
token takes at most four steps. -/
def Goal.read (g : Goal) (s : Scanner) : Option (List ParseTree × Scanner) :=
  Reader.run (4 * s.bound) ⟨[⟨.goal g, []⟩], .operand, s⟩

/-- Reads the rest of a bracket whose opening token has been read. -/
def readBracket (role : Role) (mode : Mode) (l : Lexeme) (text : String) :
    Option (List ParseTree × Scanner) :=
  let opening : Frame := ⟨role, [l.leaf (.token text)]⟩
  Reader.run (4 * l.after.bound) ⟨[opening, ⟨.goal .bracket, l.extras.reverse⟩], mode, l.after⟩

end CodeReview.Python
