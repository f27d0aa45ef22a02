import CodeReview.Category
import CodeReview.Digest.Md5

/-!
# Findings

A finding is a remark that a rule makes on a source unit. Its id is a digest of the rule, the line
and the message, so the same remark has the same id in every run.
-/

set_option autoImplicit false

namespace CodeReview

/-- A remark of a rule. -/
structure Finding where
  id : String
  rule : String
  category : Category
  message : String
  line : Option Nat
deriving DecidableEq, Repr

namespace Finding

/-- The text whose digest is the id of a finding. A finding without a line counts as on line 0. -/
def idText (rule : String) (line : Option Nat) (message : String) : String :=
  rule ++ "\n" ++ toString (line.getD 0) ++ "\n" ++ message

/-- The id of a finding: the first sixteen digits of the digest. -/
def idOf (rule : String) (line : Option Nat) (message : String) : String :=
  String.ofList ((Digest.md5Digits (idText rule line message)).take 16)

/-- A finding with its id. -/
def new (rule : String) (category : Category) (message : String) (line : Option Nat) : Finding :=
  ⟨idOf rule line message, rule, category, message, line⟩

end Finding

end CodeReview
