import CodeReview.Rules.Basic
import CodeReview.Text.Pattern

/-!
# Rules on single lines

Three rules decide on each line alone: a quoted text assigned to something called a password, a
secret or a token; a call that runs code given as text; and the first line of a function without a
return type.
-/

set_option autoImplicit false

namespace CodeReview.Rules

open Text

/-- The text after a word that stands at its start apart from case. -/
def afterWord? (word cs : List Char) : Option (List Char) :=
  match word, cs with
  | [], rest => some rest
  | w :: word', c :: rest => if Pattern.sameLetter w c then afterWord? word' rest else none
  | _ :: _, [] => none

/-- A quote of a string. -/
def isQuote (c : Char) : Bool := c == '\'' || c == '"'

/-- Whether an equals sign and a quoted text that is not empty follow, with blanks between. -/
def quotedAssignment (cs : List Char) : Bool :=
  match trimLeft cs with
  | '=' :: rest =>
    match trimLeft rest with
    | q :: _ :: rest' => isQuote q && rest'.any isQuote
    | _ => false
  | _ => false

/-- The names that secrets are kept under. -/
def secretWords : List String := ["password", "secret", "token"]

/-- Whether a quoted text is assigned to a secret at the start of the characters. -/
def secretHere (cs : List Char) : Bool :=
  secretWords.any fun w => (afterWord? w.toList cs).any quotedAssignment

/-- Whether a line assigns a quoted text to a secret. -/
def assignsSecret : List Char → Bool
  | [] => secretHere []
  | c :: cs => secretHere (c :: cs) || assignsSecret cs

/-- Whether a text occurs in another. -/
def occurs (part : List Char) : List Char → Bool
  | [] => part.isEmpty
  | c :: cs => part.isPrefixOf (c :: cs) || occurs part cs

/-- Whether a line calls a function that runs code. -/
def runsCode (line : List Char) : Bool := occurs "eval(".toList line || occurs "exec(".toList line

/-- The rest after one or more blanks. -/
def afterBlanks? (cs : List Char) : Option (List Char) :=
  match cs with
  | c :: rest => if isBlank c then some (trimLeft rest) else none
  | [] => none

/-- The rest after a text at the start of the characters. -/
def after? (part cs : List Char) : Option (List Char) :=
  if part.isPrefixOf cs then some (cs.drop part.length) else none

/-- Whether a closing parenthesis occurs with a colon after it, blanks aside. -/
def closesHeader : List Char → Bool
  | [] => false
  | c :: cs => (c == ')' && (trimLeft cs).head? == some ':') || closesHeader cs

/-- Whether a name and a parameter list that closes on this line follow. -/
def namedHeader (cs : List Char) : Bool :=
  match cs.dropWhile isWord with
  | rest =>
    match trimLeft rest with
    | '(' :: params => cs.head?.any isWord && closesHeader params
    | _ => false

/-- Whether a line starts a function definition and closes its parameter list. -/
def isHeader (line : List Char) : Bool :=
  let cs := trimLeft line
  let cs := (((after? "async".toList cs).bind afterBlanks?).getD cs)
  ((after? "def".toList cs).bind afterBlanks?).any namedHeader

/-- Whether a line starts a function definition without a return type. -/
def lacksReturnType (line : List Char) : Bool := isHeader line && !occurs "->".toList line

/-- A secret in the source. -/
def hardcodedSecret : Rule :=
  .ofLines "hardcoded-secret"
    "Detects passwords, secrets and tokens assigned from string literals" .security
    "Hardcoded secret or password" assignsSecret

/-- A call that runs code given as text. -/
def unsafeCall : Rule :=
  .ofLines "unsafe-call" "Detects dynamic code execution through eval() or exec()" .security
    "Unsafe use of \x60eval()\x60 or \x60exec()\x60" runsCode

/-- A function without a return type. -/
def missingReturnAnnotation : Rule :=
  .ofLines "missing-return-annotation"
    "Detects function definitions without a return type annotation" .style
    "Function may be missing return type hint" lacksReturnType

end CodeReview.Rules
