/-!
# Hexadecimal digits
-/

set_option autoImplicit false

namespace CodeReview.Text

/-- The hexadecimal digit for a number below sixteen. -/
def hexDigit (n : Nat) : Char :=
  if n < 10 then Char.ofNat (48 + n) else Char.ofNat (87 + n)

theorem hexDigit_mem {n : Nat} (h : n < 16) : hexDigit n ∈ "0123456789abcdef".toList := by
  have hall : ∀ n < 16, hexDigit n ∈ "0123456789abcdef".toList := by decide
  exact hall n h

end CodeReview.Text
