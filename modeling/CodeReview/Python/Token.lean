import CodeReview.Syntax.Concrete
import CodeReview.Text.Identifier

/-!
# Python tokens

A cursor is the rest of a text with its position. `Token.read` takes the longest token that starts
at a cursor: a word, a number or a symbol. Which words act as keywords depends on where they stand,
except for the reserved ones, which are never names.
-/

set_option autoImplicit false

namespace CodeReview.Python

open Syntax Text

/-- The rest of a text and its position. -/
structure Cursor where
  rest : List Char
  position : Position
deriving Repr, Inhabited

/-- The position after a character. -/
def advance (p : Position) (c : Char) : Position :=
  if c = '\n' then ⟨p.row + 1, 0⟩ else ⟨p.row, p.column + c.utf8Size⟩

/-- Steps over `n` characters. -/
def Cursor.skip : Nat → Cursor → Cursor
  | 0, k => k
  | _ + 1, ⟨[], p⟩ => ⟨[], p⟩
  | n + 1, ⟨c :: cs, p⟩ => Cursor.skip n ⟨cs, advance p c⟩

/-- How a string literal is delimited and read. -/
structure Delimiter where
  quote : Char
  triple : Bool
  format : Bool
  raw : Bool
  bytes : Bool
deriving DecidableEq, Repr

/-- A token of the grammar, or one of the marks that the layout gives. -/
inductive Token
  | name (text : String)
  | keyword (text : String)
  | integer
  | float
  | symbol (text : String)
  | conversion
  | stringStart (d : Delimiter)
  | newline
  | indent
  | dedent
  | endOfText
  | invalid
deriving DecidableEq, Repr

/-- Words that are never names. -/
def reserved : List String :=
  ["False", "None", "True", "and", "as", "assert", "break", "class", "continue", "def", "del",
    "elif", "else", "except", "finally", "for", "from", "global", "if", "import", "in", "is",
    "lambda", "nonlocal", "not", "or", "pass", "raise", "return", "try", "while", "with", "yield"]

/-- Symbols, a longer one before any of its beginnings. -/
def symbols : List String :=
  ["**=", "//=", ">>=", "<<=", "...", "**", "//", ">>", "<<", "<=", ">=", "==", "!=", "<>", "->",
    "+=", "-=", "*=", "/=", "%=", "@=", "&=", "|=", "^=", ":=", "+", "-", "*", "/", "%", "@", "&",
    "|", "^", "~", "<", ">", "(", ")", "[", "]", "\x7b", "\x7d", ",", ":", ".", ";", "="]

/-- The symbols with their characters. -/
def symbolChars : List (List Char × String) := symbols.map fun s => (s.toList, s)

/-! ## Numbers -/

/-- Length of the longest run of digits in which an underscore follows a digit. -/
def digitRun (digit : Char → Bool) : Bool → List Char → Nat
  | afterDigit, c :: cs =>
    if digit c then digitRun digit true cs + 1
    else if c == '_' && afterDigit then digitRun digit false cs + 1
    else 0
  | _, [] => 0

/-- Length of the longest run of digits in which an underscore precedes a digit. -/
def prefixedRun (digit : Char → Bool) : List Char → Nat
  | '_' :: c :: cs => if digit c then prefixedRun digit cs + 2 else 0
  | c :: cs => if digit c then prefixedRun digit cs + 1 else 0
  | [] => 0

/-- The length of a run with one of the given letters after it, if there is one. -/
def withSuffix (letters : List Char) (cs : List Char) (n : Nat) : Nat :=
  match cs.drop n with
  | c :: _ => if letters.contains c then n + 1 else n
  | [] => n

/-- The length of an exponent: a sign is optional, digits are not. -/
def exponentLength : List Char → Nat
  | e :: cs =>
    if e == 'e' || e == 'E' then
      let sign := match cs with
        | '+' :: _ | '-' :: _ => 1
        | _ => 0
      let digits := digitRun Char.isDigit false (cs.drop sign)
      if digits == 0 then 0 else 1 + sign + digits
    else 0
  | [] => 0

/-- A hexadecimal digit. -/
def isHexDigit (c : Char) : Bool :=
  c.isDigit || ('a' ≤ c && c ≤ 'f') || ('A' ≤ c && c ≤ 'F')

/-- The length of a number in another base than ten. -/
def basedLength : List Char → Nat
  | '0' :: b :: cs =>
    let digit? : Option (Char → Bool) :=
      if b == 'x' || b == 'X' then some isHexDigit
      else if b == 'o' || b == 'O' then some fun c => '0' ≤ c && c ≤ '7'
      else if b == 'b' || b == 'B' then some fun c => c == '0' || c == '1'
      else none
    match digit? with
    | some digit =>
      let n := prefixedRun digit cs
      if n == 0 then 0 else withSuffix ['l', 'L'] cs n + 2
    | none => 0
  | _ => 0

/-- The length of a decimal integer. -/
def decimalLength (cs : List Char) : Nat :=
  let n := digitRun Char.isDigit false cs
  if n == 0 then 0 else withSuffix ['l', 'L', 'j', 'J'] cs n

/-- The length of a number with a point or an exponent. -/
def floatLength (cs : List Char) : Nat :=
  let whole := digitRun Char.isDigit false cs
  match cs.drop whole with
  | '.' :: rest =>
    let fraction := digitRun Char.isDigit false rest
    if whole == 0 && fraction == 0 then 0
    else
      let n := whole + 1 + fraction
      withSuffix ['j', 'J'] cs (n + exponentLength (cs.drop n))
  | rest =>
    let e := exponentLength rest
    if whole == 0 || e == 0 then 0 else withSuffix ['j', 'J'] cs (whole + e)

/-- The longest number at the start of the characters. -/
def readNumber (cs : List Char) : Option (Token × Nat) :=
  let whole := max (basedLength cs) (decimalLength cs)
  let float := floatLength cs
  if whole == 0 && float == 0 then none
  else if whole < float then some (.float, float)
  else some (.integer, whole)

/-! ## Words, symbols and string prefixes -/

/-- The longest symbol at the start of the characters. Without `walrus` a colon stands alone. -/
def readSymbol (walrus : Bool) (cs : List Char) : Option (Token × Nat) :=
  match cs with
  | '!' :: c :: _ =>
    if c == '=' then some (.symbol "!=", 2)
    else if 'a' ≤ c && c ≤ 'z' then some (.conversion, 2)
    else none
  | ':' :: _ =>
    if walrus && cs.take 2 == [':', '='] then some (.symbol ":=", 2) else some (.symbol ":", 1)
  | _ =>
    (symbolChars.find? fun s => s.1.isPrefixOf cs).map fun s => (.symbol s.2, s.1.length)

/-- The word at the start of the characters. -/
def readWord (cs : List Char) : Option (Token × Nat) :=
  match cs with
  | c :: rest =>
    if isIdentifierStart c then
      let word := c :: rest.takeWhile isIdentifierRest
      let text := String.ofList word
      some (if reserved.contains text then .keyword text else .name text, word.length)
    else none
  | [] => none

/-- The longest token at the start of the characters. -/
def Token.read (walrus : Bool) (cs : List Char) : Token × Nat :=
  match cs with
  | [] => (.endOfText, 0)
  | _ =>
    match readNumber cs with
    | some r => r
    | none => ((readWord cs).orElse fun _ => readSymbol walrus cs).getD (.invalid, 0)

/-- The delimiter that opens a string at the start of the characters, with its length. The letters
before the quote may come in any order and number. -/
def Delimiter.read? (d : Delimiter) : List Char → Nat → Option (Delimiter × Nat)
  | c :: cs, n =>
    if c == 'f' || c == 'F' || c == 't' || c == 'T' then
      Delimiter.read? { d with format := true } cs (n + 1)
    else if c == 'r' || c == 'R' then Delimiter.read? { d with raw := true } cs (n + 1)
    else if c == 'b' || c == 'B' then Delimiter.read? { d with bytes := true } cs (n + 1)
    else if c == 'u' || c == 'U' then Delimiter.read? d cs (n + 1)
    else if c == Char.ofNat 0x60 then some ({ d with quote := c }, n + 1)
    else if c == '\'' || c == '"' then
      if cs.take 2 == [c, c] then some ({ d with quote := c, triple := true }, n + 3)
      else some ({ d with quote := c }, n + 1)
    else none
  | [], _ => none

/-- A delimiter before anything of it is read. -/
def Delimiter.plain : Delimiter := ⟨'"', false, false, false, false⟩

end CodeReview.Python
