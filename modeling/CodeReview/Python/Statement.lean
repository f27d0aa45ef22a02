import CodeReview.Python.Pattern

/-!
# Statements

A line of simple statements ends at a layout mark; the body of a compound statement is such a line
or an indented block. `parse` gives the tree of a whole text. Where the grammar does not derive the
text, the statements read so far are followed by an error node.
-/

set_option autoImplicit false

namespace CodeReview.Python

open Syntax

/-- What the grammar can take after a part that may end the statement. -/
def lineEnd : Expect := { newline := true }

/-- A statement node. -/
def statementOf (c : Construct) (children : List ParseTree) : Read ParseTree :=
  return construct c children

/-! ## Simple statements -/

/-- An expression that may end the statement. -/
def lastExpression : Goal := .expression true false false false

/-- Expressions with commas between that may end the statement. -/
def lastExpressions : Goal := .expression true false true false

/-- An expression that a colon or a word follows. -/
def innerExpression : Goal := .expression false false false false

/-- Whether a token ends a simple statement. -/
def endsSimple (t : Token) : Bool := t == .newline || t.isText ";"

/-- The name of a module, or names, after `import`. -/
def importList (after again : Expect) (ends : Token → Bool) : Read (List ParseTree) := do
  let item : Read (List ParseTree) := do
    let x ← dottedName after
    match ← token? "as" after with
    | none => return x
    | some word =>
      let newName ← name
      return [construct .aliasedImport (x ++ word ++ newName)]
  let s ← get
  commaList item after again true ends s.bound []

/-- What may be imported from a module: names, in parentheses or not. -/
def importedNames : Read (List ParseTree) := do
  match ← token? "(" with
  | none => importList lineEnd lineEnd endsSimple
  | some opening =>
    let names ← importList { closer := true } { closer := true } closesBracket
    let closing ← token ")" { closer := true }
    return opening ++ names ++ closing

/-- The points before the name of a module. -/
def importPoints : Nat → List ParseTree → Read (List ParseTree)
  | 0, done => return done
  | fuel + 1, done => do
    let l ← peek
    match l.token with
    | .symbol "." =>
      proceed l
      importPoints fuel (done ++ l.parts ".")
    | .symbol "..." =>
      proceed l
      let ⟨row, column⟩ := l.start
      let points := [0, 1, 2].map fun n => ParseTree.leaf (.token ".") ⟨row, column + n⟩
      importPoints fuel (done ++ l.extras ++ points)
    | _ => return done

/-- The rest of a statement that starts with `from`. -/
def importFrom (opening : List ParseTree) : Read ParseTree := do
  let l ← peek
  match l.token with
  | .name "__future__" =>
    proceed l
    let word ← token "import"
    let names ← importedNames
    statementOf .futureImportStatement (opening ++ l.parts "__future__" ++ word ++ names)
  | _ =>
    let s ← get
    let points ← importPoints s.bound []
    let source ←
      if points.isEmpty then dottedName {}
      else do
        let l ← peek
        match l.token with
        | .name _ =>
          let x ← dottedName {}
          pure [construct .relativeImport (construct .importPrefix points :: x)]
        | _ => pure [construct .relativeImport [construct .importPrefix points]]
    let word ← token "import"
    match ← token? "*" with
    | some star =>
      statementOf .importFromStatement
        (opening ++ source ++ word ++ [construct .wildcardImport star])
    | none =>
      let names ← importedNames
      statementOf .importFromStatement (opening ++ source ++ word ++ names)

/-- Expressions, if the statement does not end at once. -/
def optionalExpressions (ends : Token → Bool) : Read (List ParseTree) := do
  let l ← peek { newline := true, string := true }
  if ends l.token then return [] else lastExpressions.parse { newline := true, string := true }

/-- Names after `global` or `nonlocal`. -/
def nameList : Read (List ParseTree) := do
  let s ← get
  commaList name lineEnd {} false (fun _ => false) s.bound []

/-- Expressions with commas between, the last of which ends the statement. -/
def argumentsOf (trailing : Bool) : Read (List ParseTree) := do
  let s ← get
  let again : Expect := { newline := trailing, string := true }
  commaList lastExpression.parse lineEnd again trailing endsSimple s.bound []

/-- Symbols that assign the result of an operator. -/
def isAugmented (x : String) : Bool :=
  ["+=", "-=", "*=", "/=", "@=", "//=", "%=", "**=", ">>=", "<<=", "&=", "^=", "|="].contains x

/-- The left side of an assignment: a pattern, or a list of them. -/
def asTarget (t : ParseTree) : Option ParseTree :=
  if t.is .expressionList then
    (asPatterns t.children).map fun cs => construct .patternList cs
  else asPattern t

/-- An assignment that is still without its right side. -/
structure OpenAssignment where
  label : Construct
  parts : List ParseTree

/-- Assignments group from the right. -/
def closeAssignments (last : List ParseTree) : List OpenAssignment → List ParseTree
  | [] => last
  | a :: more => closeAssignments [construct a.label (a.parts ++ last)] more

/-- Reads what follows the expressions `xs` of a statement: the right sides of assignments up to the
last one. The assignments read so far are kept innermost first. -/
def assignments : Nat → List OpenAssignment → List ParseTree → Read (List ParseTree)
  | 0, _, _ => failure
  | fuel + 1, done, xs => do
    let l ← peek lineEnd
    let target : Read (List ParseTree) :=
      match xs.getLast?.bind asTarget with
      | some t => return xs.dropLast ++ [t]
      | none => failure
    let continueWith (a : OpenAssignment) : Read (List ParseTree) := do
      let right ← Goal.parse (.expression true false true true)
      assignments fuel (a :: done) right
    match l.token with
    | .symbol "=" =>
      let t ← target
      proceed l
      continueWith ⟨.assignment, t ++ l.parts "="⟩
    | .symbol ":" =>
      let t ← target
      proceed l
      let type ← Goal.parse (.type true true)
      let parts := t ++ l.parts ":" ++ type
      match ← token? "=" lineEnd with
      | some equals => continueWith ⟨.assignment, parts ++ equals⟩
      | none => return closeAssignments [construct .assignment parts] done
    | .symbol x =>
      if isAugmented x then
        let t ← target
        proceed l
        continueWith ⟨.augmentedAssignment, t ++ l.parts x⟩
      else return closeAssignments xs done
    | _ => return closeAssignments xs done

/-- An expression, expressions, an assignment or a `yield`. -/
def expressionStatement : Read ParseTree := do
  let xs ← Goal.parse (.expression true false true true)
  let s ← get
  let xs ← assignments s.bound [] xs
  match xs with
  | [t] =>
    if t.is .expressionList then statementOf .expressionStatement t.children
    else statementOf .expressionStatement [t]
  | _ => statementOf .expressionStatement xs

/-- Runs a reader and checks that a simple statement ends after it. -/
def ended (r : Read ParseTree) : Read ParseTree := do
  let t ← r
  let l ← peek lineEnd
  guard (endsSimple l.token)
  return t

/-- The rest of a statement that starts with the word `print` and is no expression. -/
def printStatement (opening : List ParseTree) : Read ParseTree := do
  match ← token? ">>" { string := true } with
  | some arrow =>
    let file ← lastExpression.parse
    let chevron := construct .chevron (arrow ++ file)
    match ← token? "," lineEnd with
    | none => statementOf .printStatement (opening ++ [chevron])
    | some comma =>
      let l ← peek { newline := true, string := true }
      if endsSimple l.token then statementOf .printStatement (opening ++ chevron :: comma)
      else
        let rest ← argumentsOf true
        statementOf .printStatement (opening ++ chevron :: comma ++ rest)
  | none =>
    let rest ← argumentsOf true
    statementOf .printStatement (opening ++ rest)

/-- The rest of a statement that starts with the word `exec`, after the code to run. -/
def execStatement (opening code : List ParseTree) : Read ParseTree := do
  match ← token? "in" lineEnd with
  | none => statementOf .execStatement (opening ++ code)
  | some word =>
    let rest ← argumentsOf false
    statementOf .execStatement (opening ++ code ++ word ++ rest)

/-- The rest of a statement that starts with `raise`. -/
def raiseStatement (opening : List ParseTree) : Read ParseTree := do
  let xs ← optionalExpressions fun t => endsSimple t || t.isText "from"
  match ← token? "from" lineEnd with
  | none => statementOf .raiseStatement (opening ++ xs)
  | some word =>
    let cause ← lastExpression.parse
    statementOf .raiseStatement (opening ++ xs ++ word ++ cause)

/-- The rest of a statement that starts with the word `type`. -/
def typeAliasStatement (opening : List ParseTree) : Read ParseTree := do
  let left ← Goal.parse (.type false true)
  let equals ← token "="
  let right ← Goal.parse (.type true true)
  statementOf .typeAliasStatement (opening ++ left ++ equals ++ right)

/-- A simple statement, which starts at the scanner's place. -/
def simpleStatement : Read ParseTree := do
  let l ← peek { string := true }
  let lead (c : Construct) (rest : String → Read (List ParseTree)) (text : String) :
      Read ParseTree := do
    proceed l
    let more ← rest text
    statementOf c (l.leaf (.token text) :: more)
  let alone (c : Construct) : String → Read ParseTree := lead c fun _ => return []
  match l.token with
  | .keyword "import" =>
    lead .importStatement (fun _ => importList lineEnd lineEnd endsSimple) "import"
  | .keyword "from" => do
    proceed l
    importFrom [l.leaf (.token "from")]
  | .keyword "assert" => lead .assertStatement (fun _ => argumentsOf false) "assert"
  | .keyword "return" => lead .returnStatement (fun _ => optionalExpressions endsSimple) "return"
  | .keyword "del" => lead .deleteStatement (fun _ => lastExpressions.parse) "del"
  | .keyword "raise" => do
    proceed l
    raiseStatement [l.leaf (.token "raise")]
  | .keyword "pass" => alone .passStatement "pass"
  | .keyword "break" => alone .breakStatement "break"
  | .keyword "continue" => alone .continueStatement "continue"
  | .keyword "global" => lead .globalStatement (fun _ => nameList) "global"
  | .keyword "nonlocal" => lead .nonlocalStatement (fun _ => nameList) "nonlocal"
  | .name "print" =>
    let l' := l.after.next { newline := true, string := true }
    let asPrint : Read ParseTree := do
      proceed l
      printStatement [l.leaf (.token "print")]
    if l'.token.isText ">>" then asPrint else ended expressionStatement <|> asPrint
  | .name "exec" =>
    let l' := l.after.next { newline := true, string := true }
    match l'.token with
    | .name _ => do
      proceed l'
      execStatement [l.leaf (.token "exec")] (l'.extras ++ [l'.leaf (.construct .identifier)])
    | .stringStart _ => do
      proceed l
      let code ← Goal.parse (.string false)
      execStatement [l.leaf (.token "exec")] code
    | _ => expressionStatement
  | .name "type" =>
    let asAlias : Read ParseTree := do
      proceed l
      typeAliasStatement [l.leaf (.token "type")]
    ended asAlias <|> expressionStatement
  | _ => expressionStatement

/-- Simple statements with semicolons between, up to the end of the line; those read so far are kept
latest first. -/
def simpleLine : Nat → Expect → List ParseTree → Read (List ParseTree)
  | 0, _, _ => failure
  | fuel + 1, e, done => do
    let gap ← passGap { e with string := true }
    let x ← simpleStatement
    let done := x :: gap.reverse ++ done
    let l ← peek lineEnd
    match l.token with
    | .newline =>
      proceed l
      return done.reverse ++ l.extras
    | .symbol ";" =>
      proceed l
      let done := (l.parts ";").reverse ++ done
      let l' ← peek { newline := true, string := true }
      if l'.token == .newline then
        proceed l'
        return done.reverse ++ l'.extras
      else simpleLine fuel lineEnd done
    | _ => failure

/-! ## Compound statements -/

/-- What the grammar can take where a statement may start: the end of the block, if one is open. -/
def statementStart (s : Scanner) : Expect :=
  { dedent := 1 < s.indents.length, string := true }

/-- The place where a pattern of a `for` loop ends, with the patterns read. -/
def forTargets : Nat → List ParseTree → Read (List ParseTree)
  | 0, _ => failure
  | fuel + 1, done => do
    let xs ← Goal.parse .target
    let ps ← (asPatterns xs : Option (List ParseTree))
    let done := done ++ ps
    match ← token? "," with
    | none => return done
    | some comma =>
      let l ← peek { string := true }
      if l.token.isText "in" then return done ++ comma
      else forTargets fuel (done ++ comma)

/-- The target of a `for` loop. -/
def forTarget : Read (List ParseTree) := do
  let s ← get
  let xs ← forTargets s.bound []
  if xs.any fun x => x.isToken "," then return [construct .patternList xs] else return xs

/-- The items of a `with` statement between parentheses, if these belong to the statement: more than
one item, or a comma. -/
def withGroup : Read (List ParseTree) := do
  let opening ← token "("
  let gap ← passGap inBrackets
  let s ← get
  let item : Read (List ParseTree) := do
    let x ← Goal.parse (.expression false true false false)
    return [construct .withItem x]
  let items ← commaList item { closer := true } inBrackets true closesBracket s.bound []
  let closing ← token ")" { closer := true }
  guard (items.any fun x => x.isToken ",")
  let l ← peek
  guard (l.token.isText ":")
  return opening ++ gap ++ items ++ closing

/-- The items of a `with` statement without parentheses around them. -/
def withItems : Read (List ParseTree) := do
  let s ← get
  let item : Read (List ParseTree) := do
    let x ← innerExpression.parse
    return [construct .withItem x]
  commaList item {} { string := true } true (fun t => t.isText ":") s.bound []

/-- What an `except` clause names. -/
def caught : Read (List ParseTree) := do
  let l ← peek { string := true }
  if l.token.isText ":" then return []
  else
    let s ← get
    commaList innerExpression.parse {} { string := true } false (fun _ => false) s.bound []

/-- Decorators, each on its line. -/
def decorators : Nat → Expect → List ParseTree → Read (List ParseTree)
  | 0, _, _ => failure
  | fuel + 1, e, done => do
    match ← token? "@" e with
    | none => return done
    | some mark =>
      let x ← lastExpression.parse
      let l ← peek lineEnd
      guard (l.token == .newline)
      proceed l
      let (before, mark) := mark.span fun t => t.is .lineContinuation
      decorators fuel {} (done ++ before ++ [construct .decorator (mark ++ x)])

/-- The list in brackets that the given token opens. -/
def bracket (role : Role) (mode : Mode) (text : String) : Read (List ParseTree) := do
  let l ← peek
  guard (l.token.isText text)
  fun _ => readBracket role mode l text

/-- The list in brackets that the given token opens, if the token comes next. -/
def bracket? (role : Role) (mode : Mode) (text : String) : Read (List ParseTree) := do
  let l ← peek
  if l.token.isText text then bracket role mode text else return []

mutual

/-- The body of a compound statement, after its colon. -/
def suite : Nat → Read (List ParseTree)
  | 0 => failure
  | fuel + 1 => do
    let l ← peek { newline := true, indent := true, string := true }
    match l.token with
    | .newline =>
      proceed l
      return l.extras ++ [.leaf (.construct .block) l.start]
    | .indent =>
      proceed l
      let body ← block fuel []
      let (before, body) := body.span fun x => x.is .lineContinuation
      return l.extras ++ before ++ [.ofChildren (.construct .block) l.start body]
    | _ =>
      let s ← get
      let body ← simpleLine s.bound { newline := true, indent := true } []
      let (before, body) := body.span fun x => x.is .lineContinuation
      return before ++ [construct .block body]

/-- The statements of a block up to its end. -/
def block : Nat → List ParseTree → Read (List ParseTree)
  | 0, _ => failure
  | fuel + 1, done => do
    let s ← get
    let l ← peek (statementStart s)
    match l.token with
    | .dedent =>
      proceed l
      return (l.extras.reverse ++ done).reverse
    | _ =>
      let x ← statement fuel
      block fuel (x.reverse ++ done)

/-- A colon and the body after it. -/
def colonSuite : Nat → Read (List ParseTree)
  | 0 => failure
  | fuel + 1 => do
    let colon ← token ":"
    let body ← suite fuel
    return colon ++ body

/-- A clause with the given word, if it comes next. -/
def clause? : Nat → String → Construct → Read (List ParseTree) → Read (Option (List ParseTree))
  | 0, _, _, _ => failure
  | fuel + 1, word, c, head => do
    let s ← get
    match ← token? word (statementStart s) with
    | none => return none
    | some t =>
      let inner ← head
      let body ← colonSuite fuel
      let (before, t) := t.span fun x => x.is .lineContinuation
      return some (before ++ [construct c (t ++ inner ++ body)])

/-- Clauses with the given word, as many as there are. -/
def clauses :
    Nat → String → Construct → Read (List ParseTree) → List ParseTree → Read (List ParseTree)
  | 0, _, _, _, _ => failure
  | fuel + 1, word, c, head, done => do
    match ← clause? fuel word c head with
    | none => return done
    | some t => clauses fuel word c head (done ++ t)

/-- The rest of a function definition, after `def`. -/
def functionRest : Nat → Read (Option String × List ParseTree)
  | 0 => failure
  | fuel + 1 => do
    let l ← peek
    match l.token with
    | .name text =>
      proceed l
      let types ← bracket? .typeParameter .operand "["
      let params ← bracket (.parameters false) .parameter "("
      let result ← do
        match ← token? "->" with
        | none => pure []
        | some arrow => do
          let type ← Goal.parse (.type false false)
          pure (arrow ++ type)
      let body ← colonSuite fuel
      return (some text,
        l.extras ++ [l.leaf (.construct .identifier)] ++ types ++ params ++ result ++ body)
    | _ => failure

/-- The rest of a class definition, after `class`. -/
def classRest : Nat → Read (List ParseTree)
  | 0 => failure
  | fuel + 1 => do
    let x ← name
    let types ← bracket? .typeParameter .operand "["
    let bases ← bracket? .arguments .operand "("
    let body ← colonSuite fuel
    return x ++ types ++ bases ++ body

/-- The cases of a `match` statement up to the end of its block. -/
def cases : Nat → List ParseTree → Read (List ParseTree)
  | 0, _ => failure
  | fuel + 1, done => do
    let s ← get
    let l ← peek { dedent := true }
    match l.token with
    | .dedent =>
      proceed l
      return done ++ l.extras
    | .name "case" =>
      proceed l
      let pattern := casePattern (8 * s.bound) { string := true } {}
      let patterns ← commaList pattern {} { string := true } true
        (fun t => t.isText ":" || t.isText "if") s.bound []
      let guard? ← token? "if"
      let condition ← match guard? with
        | none => pure []
        | some word => do
          let x ← innerExpression.parse
          pure [construct .ifClause (word ++ x)]
      let body ← colonSuite fuel
      let clause := construct .caseClause (l.leaf (.token "case") :: patterns ++ condition ++ body)
      cases fuel (done ++ l.extras ++ [clause])
    | _ => failure

/-- The rest of a `match` statement, after its first word. -/
def matchRest : Nat → Read (List ParseTree)
  | 0 => failure
  | fuel + 1 => do
    let s ← get
    let subjects ← commaList innerExpression.parse {} { string := true } true
      (fun t => t.isText ":") s.bound []
    let colon ← token ":"
    let l ← peek { newline := true, indent := true }
    let body ← match l.token with
      | .newline => do
        proceed l
        pure []
      | .indent => do
        proceed l
        cases fuel []
      | _ => failure
    return subjects ++ colon ++ l.extras ++ [.node (.construct .block) l.start body]

/-- The rest of a `for` loop, after its first word. -/
def forRest : Nat → Read (List ParseTree)
  | 0 => failure
  | fuel + 1 => do
    let target ← forTarget
    let word ← token "in"
    let source ← Goal.parse (.expression false false true false)
    let body ← colonSuite fuel
    let other ← clause? fuel "else" .elseClause (return [])
    return target ++ word ++ source ++ body ++ other.getD []

/-- The rest of a `with` statement, after its first word. -/
def withRest : Nat → Read (List ParseTree)
  | 0 => failure
  | fuel + 1 => do
    let items ← withGroup <|> withItems
    let body ← colonSuite fuel
    return construct .withClause items :: body

/-- A compound statement with the given word first, or one that the word leads to. -/
def compound : Nat → Lexeme → Read (Option ParseTree)
  | 0, _ => failure
  | fuel + 1, l => do
    let nothing : Read (List ParseTree) := return []
    let lead (c : Construct) (text : String) (rest : Read (List ParseTree)) :
        Read (Option ParseTree) := do
      proceed l
      let more ← rest
      return some (construct c (l.leaf (.token text) :: more))
    let function (opening : List ParseTree) : Read (Option ParseTree) := do
      let (name, rest) ← functionRest fuel
      return some (.ofChildren (.functionDefinition name) l.start (opening ++ rest))
    match l.token with
    | .keyword "if" =>
      lead .ifStatement "if" do
        let condition ← innerExpression.parse
        let body ← colonSuite fuel
        let more ← clauses fuel "elif" .elifClause innerExpression.parse []
        let other ← clause? fuel "else" .elseClause nothing
        return condition ++ body ++ more ++ other.getD []
    | .keyword "while" =>
      lead .whileStatement "while" do
        let condition ← innerExpression.parse
        let body ← colonSuite fuel
        let other ← clause? fuel "else" .elseClause nothing
        return condition ++ body ++ other.getD []
    | .keyword "for" => lead .forStatement "for" (forRest fuel)
    | .keyword "try" =>
      lead .tryStatement "try" do
        let body ← colonSuite fuel
        let caughtItems : Read (List ParseTree) := do
          let star ← token? "*" { string := true }
          let items ← caught
          return star.getD [] ++ items
        let handlers ← clauses fuel "except" .exceptClause caughtItems []
        let other ← clause? fuel "else" .elseClause nothing
        let last ← clause? fuel "finally" .finallyClause nothing
        return body ++ handlers ++ other.getD [] ++ last.getD []
    | .keyword "with" => lead .withStatement "with" (withRest fuel)
    | .keyword "class" => lead .classDefinition "class" (classRest fuel)
    | .keyword "def" =>
      proceed l
      function [l.leaf (.token "def")]
    | .symbol "@" =>
      let s ← get
      let marks ← decorators s.bound (statementStart s) []
      let marks := marks.dropWhile fun x => x.is .lineContinuation
      let l' ← peek
      match l'.token with
      | .keyword "def" | .keyword "class" | .name "async" =>
        match ← compound fuel l' with
        | some t =>
          guard (t.is .classDefinition || t.label matches .functionDefinition _)
          return some (construct .decoratedDefinition (marks ++ l'.extras ++ [t]))
        | none => failure
      | _ => failure
    | .name "async" =>
      let l' := l.after.next { newline := true, string := true }
      let opening := l.leaf (.token "async")
      match l'.token with
      | .keyword "def" =>
        proceed l'
        function (opening :: l'.parts "def")
      | .keyword "for" =>
        proceed l'
        let rest ← forRest fuel
        return some (construct .forStatement (opening :: l'.parts "for" ++ rest))
      | .keyword "with" =>
        proceed l'
        let rest ← withRest fuel
        return some (construct .withStatement (opening :: l'.parts "with" ++ rest))
      | _ => return .none
    | .name "match" =>
      (lead .matchStatement "match" (matchRest fuel)) <|> (return .none)
    | _ => return .none

/-- A statement, or a line of simple ones, with the line continuations before it. -/
def statement : Nat → Read (List ParseTree)
  | 0 => failure
  | fuel + 1 => do
    let s ← get
    let e := statementStart s
    let l ← peek e
    match ← compound fuel l with
    | some t => return l.extras ++ [t]
    | none => simpleLine s.bound e []

end

/-! ## Whole texts -/

/-- The place of the first character that is no blank. -/
def firstPlace (text : List Char) : Position :=
  let k : Cursor := ⟨text, ⟨0, 0⟩⟩
  (k.skip (spaceLength text)).position

/-- Whether the brackets on the first line of the characters are balanced in number. -/
def balancedLine (cs : List Char) : Bool :=
  let line := cs.takeWhile (· != '\n')
  (line.filter fun c => c == '(' || c == '[' || c == '\x7b').length ==
    (line.filter fun c => c == ')' || c == ']' || c == '\x7d').length

/-- The nodes for a statement that cannot be read: an error, inside a print statement if the
statement starts with the word `print` and its brackets are closed. -/
def unread (l : Lexeme) (s : Scanner) : List ParseTree :=
  let error := ParseTree.leaf .error l.start
  let k := s.cursor.skip (s.cursor.rest.length - l.after.cursor.rest.length)
  if l.token == .name "print" && balancedLine k.rest then
    [construct .printStatement [l.leaf (.token "print"), error]]
  else [error]

/-- The statements of a text, the latest first. -/
def statements : Nat → List ParseTree → Scanner → List ParseTree
  | 0, done, _ => done
  | fuel + 1, done, s =>
    let l := s.next { string := true }
    match l.token with
    | .endOfText => l.extras.reverse ++ done
    | _ =>
      match statement (8 * s.bound) s with
      | some (xs, s') => statements fuel (xs.reverse ++ done) s'
      | none => (unread l s).reverse ++ l.extras.reverse ++ done

/-- The concrete tree of a text. -/
def parse (text : List Char) : ParseTree :=
  .node (.construct .module) (firstPlace text)
    (statements (text.length + 1) [] (.start text)).reverse

end CodeReview.Python
