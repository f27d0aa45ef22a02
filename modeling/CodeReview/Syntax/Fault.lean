/-!
# Syntax faults

Why a source text is refused, and where.
-/

set_option autoImplicit false

namespace CodeReview.Syntax

/-- The reasons for which a source text is refused. -/
inductive FaultCause
  | invalidSyntax
  | missing (what : String)
  | printStatement
  | execStatement
  | tooManyBrackets
  | tooDeep
  | inconsistentTabs
  | unmatchedUnindent
  /-- A reason given by a reader of another language. -/
  | other (message : String)
deriving DecidableEq, Repr

/-- The text for a reason. -/
def FaultCause.message : FaultCause → String
  | .invalidSyntax => "invalid syntax"
  | .missing what => "missing \x60" ++ what ++ "\x60"
  | .printStatement => "Missing parentheses in call to 'print'"
  | .execStatement => "Missing parentheses in call to 'exec'"
  | .tooManyBrackets => "too many nested parentheses"
  | .tooDeep => "source too deeply nested"
  | .inconsistentTabs => "inconsistent use of tabs and spaces in indentation"
  | .unmatchedUnindent => "unindent does not match any outer indentation level"
  | .other message => message

/-- A refusal: lines and columns count from one, columns in bytes. -/
structure Fault where
  line : Nat
  column : Nat
  cause : FaultCause
deriving DecidableEq, Repr

/-- The text for a refusal. -/
def Fault.message (f : Fault) : String :=
  s!"Syntax error at line {f.line}, column {f.column}: {f.cause.message}"

end CodeReview.Syntax
