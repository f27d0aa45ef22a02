import CodeReview.Python.Expression

/-!
# Case patterns

The patterns of a `case` clause. They nest through brackets, so the readers share a bound on the
depth: a token is passed between two calls of one reader, and there are fewer than eight readers.
-/

set_option autoImplicit false

namespace CodeReview.Python

open Syntax

/-- A reader of part of a text; the place it leaves the text at is its state. -/
abbrev Read := StateT Scanner Option

/-- The next token, which is not taken. -/
def peek (e : Expect := {}) : Read Lexeme := fun s => some (s.next e, s)

/-- Goes on after a token. -/
def proceed (l : Lexeme) : Read Unit := set l.after

/-- Whether a token is the given word or symbol. -/
def Token.isText (t : Token) (text : String) : Bool :=
  match t with
  | .name x | .keyword x | .symbol x => x == text
  | _ => false

/-- Takes the given word or symbol. -/
def token (text : String) (e : Expect := {}) : Read (List ParseTree) := do
  let l ← peek e
  guard (l.token.isText text)
  proceed l
  return l.parts text

/-- Takes the given word or symbol if it comes next. -/
def token? (text : String) (e : Expect := {}) : Read (Option (List ParseTree)) := do
  let l ← peek e
  if l.token.isText text then
    proceed l
    return some (l.parts text)
  else return none

/-- Takes a name, which may be any word that is not reserved. -/
def name (e : Expect := {}) : Read (List ParseTree) := do
  let l ← peek e
  match l.token with
  | .name _ =>
    proceed l
    return l.extras ++ [l.leaf (.construct .identifier)]
  | _ => failure

/-- Passes the gap before the next token and gives the line continuations in it. -/
def passGap (e : Expect) : Read (List ParseTree) := do
  let l ← peek e
  set l.here
  return l.extras

/-- Takes one or more items with commas between. With `trailing` a comma may end the list. `again`
is what the grammar can take after a comma. -/
def commaList (item : Read (List ParseTree)) (after again : Expect) (trailing : Bool)
    (ends : Token → Bool) : Nat → List ParseTree → Read (List ParseTree)
  | 0, _ => failure
  | fuel + 1, done => do
    let x ← item
    let done := done ++ x
    match ← token? "," after with
    | none => return done
    | some comma =>
      let l ← peek again
      if trailing && ends l.token then return done ++ comma
      else
        let gap ← passGap again
        commaList item after again trailing ends fuel (done ++ comma ++ gap)

/-- Reads a goal as part of a text; `e` is what the grammar can take before it. -/
def Goal.parse (g : Goal) (e : Expect := { string := true }) : Read (List ParseTree) := do
  let gap ← passGap e
  let trees ← g.read
  return gap ++ trees

/-- Names with points between. -/
def dottedTail (after : Expect) : Nat → List ParseTree → Read (List ParseTree)
  | 0, _ => failure
  | fuel + 1, done => do
    match ← token? "." after with
    | none => return done
    | some point =>
      let x ← name
      dottedTail after fuel (done ++ point ++ x)

/-- A name, or several with points between, as one node. -/
def dottedName (after : Expect) : Read (List ParseTree) := do
  let l ← peek
  match l.token with
  | .name _ =>
    proceed l
    let s ← get
    let parts ← dottedTail after s.bound [l.leaf (.construct .identifier)]
    return l.extras ++ [construct .dottedName parts]
  | _ => failure

/-- A number, with its sign before it if it has one. -/
def number (signed : Bool) (e : Expect) : Read (List ParseTree) := do
  let sign ← if signed then (do return (← token? "-" e).getD []) else pure []
  let l ← peek
  match l.token with
  | .integer =>
    proceed l
    return sign ++ l.extras ++ [l.leaf (.construct .integer)]
  | .float =>
    proceed l
    return sign ++ l.extras ++ [l.leaf (.construct .float)]
  | _ => failure

/-- What the grammar can take at an element between brackets. -/
def inBrackets : Expect := { closer := true, string := true }

/-- Whether a token closes a bracket. -/
def closesBracket (t : Token) : Bool := t.isText ")" || t.isText "]" || t.isText "\x7d"

/-- The label under which a subject of a pattern stands for itself. -/
def splatPattern (star : String) (e : Expect) : Read (List ParseTree) := do
  let star ← token star e
  let x ← name
  return [construct .splatPattern (star ++ x)]

mutual

/-- A pattern without `as` or a keyword. `e` is what the grammar can take before it and `after` what
it can take after. -/
def simplePattern : Nat → Expect → Expect → Read (List ParseTree)
  | 0, _, _ => failure
  | fuel + 1, e, after => do
    let first ← closedPattern fuel e after
    let l ← peek after
    if l.token.isText "|" then
      let rest ← alternatives fuel after
      return [construct .unionPattern (first ++ rest)]
    else return first

/-- Alternatives after the first. -/
def alternatives : Nat → Expect → Read (List ParseTree)
  | 0, _ => failure
  | fuel + 1, after => do
    let bar ← token "|" after
    let x ← closedPattern fuel { string := true } after
    let l ← peek after
    if l.token.isText "|" then
      let rest ← alternatives fuel after
      return bar ++ x ++ rest
    else return bar ++ x

/-- A pattern without alternatives. -/
def closedPattern : Nat → Expect → Expect → Read (List ParseTree)
  | 0, _, _ => failure
  | fuel + 1, e, after => do
    let l ← peek e
    let atom (c : Construct) : Read (List ParseTree) := do
      proceed l
      return l.extras ++ [l.leaf (.construct c)]
    match l.token with
    | .keyword "None" => atom .none
    | .keyword "True" => atom .true
    | .keyword "False" => atom .false
    | .stringStart _ => Goal.parse (.string true) e
    | .name "_" =>
      proceed l
      return l.parts "_"
    | .name _ =>
      let x ← dottedName after
      match ← token? "(" after with
      | none => return x
      | some opening =>
        let inner ← elements fuel ")"
        return [construct .classPattern (x ++ opening ++ inner)]
    | .symbol "[" =>
      proceed l
      let inner ← elements fuel "]"
      return l.extras ++ [construct .listPattern (l.leaf (.token "[") :: inner)]
    | .symbol "(" =>
      proceed l
      let inner ← elements fuel ")"
      return l.extras ++ [construct .tuplePattern (l.leaf (.token "(") :: inner)]
    | .symbol "\x7b" =>
      proceed l
      let inner ← entries fuel
      return l.extras ++ [construct .dictPattern (l.leaf (.token "\x7b") :: inner)]
    | .symbol "*" => splatPattern "*" e
    | .symbol "**" => splatPattern "**" e
    | _ =>
      let x ← number true e
      let l' ← peek after
      if l'.token.isText "+" || l'.token.isText "-" then
        proceed l'
        let y ← number false {}
        let sign := l'.parts (if l'.token.isText "+" then "+" else "-")
        return [construct .complexPattern (x ++ sign ++ y)]
      else return x

/-- The elements of a bracket with its closing token. -/
def elements : Nat → String → Read (List ParseTree)
  | 0, _ => failure
  | fuel + 1, closing => do
    match ← token? closing inBrackets with
    | some t => return t
    | none =>
      let x ← casePattern fuel inBrackets { closer := true }
      match ← token? "," { closer := true } with
      | some comma =>
        let rest ← elements fuel closing
        return x ++ comma ++ rest
      | none =>
        let t ← token closing { closer := true }
        return x ++ t

/-- The entries between braces with the closing one. -/
def entries : Nat → Read (List ParseTree)
  | 0 => failure
  | fuel + 1 => do
    match ← token? "\x7d" inBrackets with
    | some t => return t
    | none =>
      let l ← peek inBrackets
      let x ←
        if l.token.isText "*" then splatPattern "*" inBrackets
        else if l.token.isText "**" then splatPattern "**" inBrackets
        else do
          let key ← simplePattern fuel inBrackets {}
          let colon ← token ":"
          let value ← casePattern fuel { string := true } { closer := true }
          pure (key ++ colon ++ value)
      match ← token? "," { closer := true } with
      | some comma =>
        let rest ← entries fuel
        return x ++ comma ++ rest
      | none =>
        let t ← token "\x7d" { closer := true }
        return x ++ t

/-- A pattern: a simple one or a keyword with one, and any number of names after `as`. -/
def casePattern : Nat → Expect → Expect → Read (List ParseTree)
  | 0, _, _ => failure
  | fuel + 1, e, after => do
    let keyword : Read (List ParseTree) := do
      let x ← name e
      let equals ← token "=" after
      let value ← simplePattern fuel { string := true } after
      return [construct .keywordPattern (x ++ equals ++ value)]
    let x ← keyword <|> simplePattern fuel e after
    aliases fuel after (construct .casePattern x)

/-- The names a pattern is bound to. -/
def aliases : Nat → Expect → ParseTree → Read (List ParseTree)
  | 0, _, _ => failure
  | fuel + 1, after, t => do
    match ← token? "as" after with
    | none => return [t]
    | some word =>
      let x ← name
      aliases fuel after (construct .casePattern [construct .asPattern (t :: word ++ x)])

end

end CodeReview.Python
