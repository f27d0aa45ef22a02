import CodeReview.Reviewer.Failure

/-!
# Reviewers

A reviewer outside the program looks at code and answers in free text. What it takes to ask one is
left open: `m` may be `Id`, a state that records the calls, or `IO`.
-/

set_option autoImplicit false

namespace CodeReview.Reviewer

/-- The tokens that a provider counted. -/
structure TokenUsage where
  input : Nat := 0
  output : Nat := 0
  total : Nat := 0
deriving DecidableEq, Repr

/-- What a reviewer answered. -/
structure Feedback where
  text : String
  usage : TokenUsage
deriving DecidableEq, Repr

end Reviewer

/-- Something that reviews code of a language. -/
structure Reviewer (m : Type → Type) where
  name : String
  review : (language code : String) → m (Except Reviewer.Failure Reviewer.Feedback)

namespace Reviewer

/-- The reviewer that repeats feedback given before. -/
def saved {m : Type → Type} [Monad m] (feedback : String) : Reviewer m where
  name := "saved-feedback"
  review _ _ := pure (.ok ⟨feedback, {}⟩)

end Reviewer

end CodeReview
